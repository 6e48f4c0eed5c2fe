import Mathlib.Data.List.Chain
import Vigil.Proofs.Monitor.Lone

/-!
# Alerts at exact instants

While a machine is silent, the timer of its probe fires whenever another delay has passed since the
latest report. The alerts about the machine are therefore raised at fixed instants of the silence,
and a machine that reports often enough raises none. Asking for the state changes nothing.
-/

namespace Vigil

def machineAlerts (events : List (Stamped Event)) : List (Stamped Alert) :=
  (Monitor.alerts events).filter (·.value.category = .machine)

theorem machineAlerts_append (xs ys : List (Stamped Event)) :
    machineAlerts (xs ++ ys) = machineAlerts xs ++ machineAlerts ys := by
  rw [machineAlerts, Monitor.alerts, List.filterMap_append, List.filter_append]
  rfl

/-- Of the events of one instant, only those of the ladder can be alerts about a machine. -/
theorem machineAlerts_stamp (now : Nat) (events : List Event) :
    machineAlerts (events.map (Stamped.mk now)) =
      ((events.filter Event.isOfLadder).filterMap Event.alert?).map (Stamped.mk now) := by
  rw [machineAlerts, Monitor.alerts_stamp]
  induction events with
  | nil => rfl
  | cons e events ih =>
    cases e with
    | notice n => cases n <;> exact ih
    | alert a => cases hc : a.category <;> simp_all [Event.isOfLadder, Event.alert?]

/-- The alerts that belong to the tick number `n` of a silence. -/
def alertsAt (t : Thresholds) (machine : String) (n : Nat) : List Alert :=
  (if n = t.lowAt then [⟨.machine, machine, .low⟩] else []) ++
  (if n = t.highAt then [⟨.machine, machine, .high⟩] else [])

theorem filterMap_alert?_raisedAt (t : Thresholds) (machine : String) (n : Nat) :
    (raisedAt t machine n).filterMap Event.alert? = alertsAt t machine n := by
  unfold raisedAt alertsAt
  split <;> split <;> split <;> rfl

namespace Probe

variable {s : Settings} {machine : String} {since n u : Nat} {p : Probe}

/-! ## Ticks one by one -/

/-- The next `n` ticks of a probe: when the timer fires, and what the tick gives rise to. A probe
that is lost ticks no more. -/
def strokes (s : Settings) : Nat → Probe → List (Stamped (List Event))
  | 0, _ => []
  | n + 1, p => if p.lost then [] else ⟨p.deadline, (p.tick s).2⟩ :: strokes s n (p.tick s).1

def strokesUntil (s : Settings) (u : Nat) (p : Probe) : List (Stamped (List Event)) :=
  strokes s (p.firings s u) p

theorem strokesUntil_idle (h : p.firings s u = 0) : p.strokesUntil s u = [] := by
  rw [strokesUntil, h, strokes]

theorem strokesUntil_due (alive : p.lost = false) (h : p.firings s u = n + 1) :
    p.strokesUntil s u = ⟨p.deadline, (p.tick s).2⟩ :: (p.tick s).1.strokesUntil s u := by
  rw [strokesUntil, h, strokes, if_neg (by simp [alive]), strokesUntil, firings_tick alive h]

theorem strokesUntil_of_lost (hlost : p.lost = true) : p.strokesUntil s u = [] := by
  unfold strokesUntil
  cases p.firings s u with
  | zero => rfl
  | succ n => rw [strokes, if_pos hlost]

/-- What happens while time passes is what the ticks give rise to. -/
theorem events_advance (s : Settings) (u : Nat) (p : Probe) :
    (p.advance s u).2 =
      (p.strokesUntil s u).flatMap fun t => t.value.map (Stamped.mk t.instant) := by
  refine advance_induction
    (P := fun p _ events =>
      events = (p.strokesUntil s u).flatMap fun t => t.value.map (Stamped.mk t.instant))
    ?_ ?_ ?_ p
  · intro p hidle
    rw [strokesUntil_idle hidle, List.flatMap_nil]
  · intro p hlost
    rw [strokesUntil_of_lost hlost, List.flatMap_nil]
  · intro p n alive hn ih
    rw [ih, strokesUntil_due alive hn, List.flatMap_cons]
    rfl

/-- A probe that has ticked `n` times since the instant `since` and is due once more a delay later.
Only a timer that is out of reach can have made it lost. -/
structure Timed (s : Settings) (machine : String) (since n : Nat) (p : Probe) : Prop where
  name_eq : p.name = machine
  deadline_eq : p.deadline = since + (n + 1) * s.delay.millis
  position : (p.rung, p.counter) = ladder s.thresholds n
  reach : p.lost = true → s.reaches p.deadline = false

theorem Timed.tick (h : Timed s machine since n p) (alive : p.lost = false) :
    Timed s machine since (n + 1) (p.tick s).1 ∧
      (p.tick s).2.filter Event.isOfLadder = raisedAt s.thresholds machine (n + 1) := by
  have hspec := step_ladder (t := s.thresholds) h.position p.deadline
  have hname : (p.tick s).1.name = p.name := name_serve (s := s) alive .tick
  have hdeadline : (p.tick s).1.deadline = since + (n + 1 + 1) * s.delay.millis := by
    rw [deadline_tick alive, h.deadline_eq, Nat.succ_mul (n + 1), Nat.add_assoc]
  refine ⟨⟨hname.trans h.name_eq, hdeadline, ?_, ?_⟩, ?_⟩
  · rw [tick_of_alive alive]
    exact hspec.rung_eq
  · rw [tick_of_alive alive]
    exact fun hlost => Bool.not_eq_true' _ |>.mp hlost
  · rw [tick_of_alive alive, ← h.name_eq]
    exact hspec.raised

/-- The alerts of the ticks number `n + 1` to `n + m` of a silence, each at its instant. -/
def alertsBetween (s : Settings) (machine : String) (since n m : Nat) : List (Stamped Alert) :=
  (List.range' (n + 1) m).flatMap fun k =>
    (alertsAt s.thresholds machine k).map (Stamped.mk (since + k * s.delay.millis))

/-- A probe that is taken to an instant within the reach of the clock. -/
structure TimedSpec (s : Settings) (machine : String) (since n u : Nat) (p : Probe) (m : Nat) :
    Prop where
  timed : Timed s machine since (n + m) (p.advance s u).1
  begun : since + (n + m) * s.delay.millis ≤ u
  ahead : u < (p.advance s u).1.deadline
  instants : (p.strokesUntil s u).map Stamped.instant =
    (List.range' (n + 1) m).map fun k => since + k * s.delay.millis
  alerts : machineAlerts (p.advance s u).2 = alertsBetween s machine since n m

theorem Timed.advance (h : Timed s machine since n p) (hdelay : 0 < s.delay.millis)
    (hreach : s.reaches u = true) (hbegun : since + n * s.delay.millis ≤ u) :
    ∃ m, TimedSpec s machine since n u p m := by
  generalize hfirings : p.firings s u = f
  induction f generalizing n p with
  | zero =>
    have hahead := lt_deadline_of_firings hdelay hfirings
    have hidle := advance_idle hfirings
    refine ⟨0, ?_, hbegun, ?_, ?_, ?_⟩
    · rw [hidle]
      exact h
    · rw [hidle]
      exact hahead
    · rw [strokesUntil_idle hfirings]
      rfl
    · rw [hidle]
      rfl
  | succ f ih =>
    have hdue := deadline_le_of_firings hfirings
    have alive : p.lost = false := by
      cases hlost : p.lost with
      | false => rfl
      | true =>
        have hout := h.reach hlost
        rw [Settings.reaches_of_le hdue hreach] at hout
        cases hout
    obtain ⟨htimed, hraised⟩ := h.tick alive
    rw [h.deadline_eq] at hdue
    obtain ⟨m, hm⟩ := ih htimed hdue (firings_tick alive hfirings)
    have hcount : n + 1 + m = n + (m + 1) := by omega
    have hadvance := advance_due alive hfirings
    have hnow : machineAlerts (p.tickEvents s) =
        (alertsAt s.thresholds machine (n + 1)).map
          (Stamped.mk (since + (n + 1) * s.delay.millis)) := by
      rw [tickEvents, machineAlerts_stamp, hraised, filterMap_alert?_raisedAt, h.deadline_eq]
    refine ⟨m + 1, ?_, ?_, ?_, ?_, ?_⟩
    · rw [hadvance, ← hcount]
      exact hm.timed
    · rw [← hcount]
      exact hm.begun
    · rw [hadvance]
      exact hm.ahead
    · rw [strokesUntil_due alive hfirings, List.map_cons, hm.instants, List.range'_succ,
        List.map_cons, h.deadline_eq]
    · rw [hadvance, machineAlerts_append, hnow, hm.alerts, alertsBetween, alertsBetween,
        List.range'_succ, List.flatMap_cons]

theorem alertsBetween_add (s : Settings) (machine : String) (since n m : Nat) :
    alertsBetween s machine since 0 (n + m) =
      alertsBetween s machine since 0 n ++ alertsBetween s machine since n m := by
  rw [alertsBetween, ← List.range'_append_1, List.flatMap_append, Nat.add_comm (0 + 1) n,
    alertsBetween, alertsBetween]

end Probe

namespace Worker

/-! ## Runs -/

inductive Call where
  | report (services : Roster String)
  | query
  | advance (span : Nat)

/-- The worker after a call, and what the call gives rise to. -/
def serve (w : Worker) : Call → Except Refusal (Worker × List (Stamped Event))
  | .report services => w.report w.probe.name services
  | .query => .ok (w, [])
  | .advance span => .ok (w.advance span)

/-- The instants at which the timer of a worker fires during a call. -/
def ticksDuring (w : Worker) : Call → List Nat
  | .advance span =>
    if w.running then (w.probe.strokesUntil w.settings (w.now + span)).map Stamped.instant else []
  | .report _ | .query => []

/-- A call, the instant at which it came, and what happened during it. -/
structure Episode where
  instant : Nat
  call : Call
  ticks : List Nat
  events : List (Stamped Event)

/-- The latest episode is the first. -/
abbrev Log := List Episode

/-- The runs of the worker that watches a machine from the instant `origin` on. No clock shows an
instant beyond its reach. -/
inductive Run (s : Settings) (machine : String) (origin : Nat) (history : History) :
    Log → Worker → Prop where
  | start : Run s machine origin history [] (watching s (.start s machine origin history) origin)
  | serve {log w w' events} (c : Call) (h : Run s machine origin history log w)
      (served : w.serve c = .ok (w', events)) (shown : s.reaches w'.now = true) :
      Run s machine origin history (⟨w.now, c, w.ticksDuring c, events⟩ :: log) w'

def Call.isReport : Call → Bool
  | .report _ => true
  | .query | .advance _ => false

def Call.isQuery : Call → Bool
  | .query => true
  | .report _ | .advance _ => false

namespace Log

/-- The instant of the start, before which stand those of the reports, the latest first. -/
def hearings (origin : Nat) : Log → List Nat
  | [] => [origin]
  | e :: earlier =>
    if e.call.isReport then e.instant :: hearings origin earlier else hearings origin earlier

/-- The instant of the latest report, or else of the start. -/
def heard (origin : Nat) : Log → Nat
  | [] => origin
  | e :: earlier => if e.call.isReport then e.instant else heard origin earlier

/-- The latest report and what came after it. -/
def silence : Log → Log
  | [] => []
  | e :: earlier => if e.call.isReport then [e] else e :: silence earlier

/-- The instants at which the timer fired in some episodes, the earliest first. -/
def ticks (log : Log) : List Nat :=
  log.reverse.flatMap Episode.ticks

/-- What some episodes gave rise to, the earliest first. -/
def events (log : Log) : List (Stamped Event) :=
  log.reverse.flatMap Episode.events

theorem events_cons (e : Episode) (log : Log) : events (e :: log) = events log ++ e.events := by
  simp [events]

theorem ticks_cons (e : Episode) (log : Log) : ticks (e :: log) = ticks log ++ e.ticks := by
  simp [ticks]

theorem head?_hearings (origin : Nat) (log : Log) :
    (hearings origin log).head? = some (log.heard origin) := by
  induction log with
  | nil => rfl
  | cons e log ih =>
    rw [hearings, heard]
    split
    · rfl
    · exact ih

/-- The latest episode belongs to the silence that it is part of. -/
theorem silence_cons (e : Episode) (log : Log) : ∃ rest, silence (e :: log) = e :: rest := by
  rw [silence]
  split
  · exact ⟨[], rfl⟩
  · exact ⟨_, rfl⟩

end Log

section Runs

variable {s : Settings} {machine : String} {origin : Nat} {history : History} {log : Log}
variable {w : Worker} {p : Probe} {now : Nat}

theorem serve_report (hreachable : w.reachable = true) (hrunning : w.running = true)
    (services : Roster String) : w.serve (.report services) = .ok (w.take services) := by
  simp [serve, take, report, hreachable, hrunning]

/-- A worker that is still running takes a report. -/
theorem Run.report (h : Run s machine origin history log w) (services : Roster String)
    (hreachable : w.reachable = true) (hrunning : w.running = true)
    (shown : s.reaches (w.take services).1.now = true) :
    Run s machine origin history
      (⟨w.now, .report services, w.ticksDuring (.report services), (w.take services).2⟩ :: log)
      (w.take services).1 :=
  .serve _ h (serve_report hreachable hrunning services) shown

theorem Run.advance (h : Run s machine origin history log w) (span : Nat)
    (shown : s.reaches (w.advance span).1.now = true) :
    Run s machine origin history
      (⟨w.now, .advance span, w.ticksDuring (.advance span), (w.advance span).2⟩ :: log)
      (w.advance span).1 :=
  .serve _ h rfl shown

theorem report_watching {services : Roster String} {w' : Worker} {events : List (Stamped Event)}
    (h : (watching s p now).serve (.report services) = .ok (w', events)) :
    p.lost = false ∧ w' = watching s (p.report s now (now / 1000) services).1 now ∧
      events = (p.report s now (now / 1000) services).2.map (Stamped.mk now) := by
  cases hlost : p.lost with
  | true => simp [serve, Worker.report, watching, hlost] at h
  | false =>
    have hrunning : (watching s p now).running = true := by rw [watching, hlost]; rfl
    rw [serve_report rfl hrunning, take_watching, Probe.receive, hlost] at h
    cases h
    exact ⟨rfl, rfl, rfl⟩

theorem ticksDuring_watching (span : Nat) :
    (watching s p now).ticksDuring (.advance span) =
      (p.strokesUntil s (now + span)).map Stamped.instant := by
  cases hlost : p.lost with
  | true => simp [ticksDuring, watching, hlost, Probe.strokesUntil_of_lost hlost]
  | false => simp [ticksDuring, watching, hlost]

/-- A worker that has ticked `n` times since the latest report, at the instants that were due. -/
structure Kept (s : Settings) (machine : String) (origin : Nat) (log : Log) (w : Worker)
    (p : Probe) (n : Nat) : Prop where
  watching_eq : w = watching s p w.now
  timed : p.Timed s machine (log.heard origin) n
  begun : log.heard origin + n * s.delay.millis ≤ w.now
  ahead : w.now < p.deadline
  ticks : log.silence.ticks =
    (List.range' 1 n).map fun k => log.heard origin + k * s.delay.millis
  alerts : machineAlerts log.silence.events =
    Probe.alertsBetween s machine (log.heard origin) 0 n

theorem Kept.report {n : Nat} {services : Roster String} {w' : Worker}
    {events : List (Stamped Event)} (hdelay : 0 < s.delay.millis)
    (h : Kept s machine origin log w p n) (served : w.serve (.report services) = .ok (w', events)) :
    Kept s machine origin
      (⟨w.now, .report services, w.ticksDuring (.report services), events⟩ :: log) w'
      (p.report s w.now (w.now / 1000) services).1 0 := by
  rw [h.watching_eq] at served
  obtain ⟨-, rfl, rfl⟩ := report_watching served
  have hquiet := Probe.filter_fold_isOfLadder s w.now ⟨w.now / 1000, services⟩ p
  have hdeadline : (p.report s w.now (w.now / 1000) services).1.deadline =
      w.now + (0 + 1) * s.delay.millis := by
    rw [Nat.zero_add, Nat.one_mul]
    rfl
  refine ⟨rfl, ⟨h.timed.name_eq, hdeadline, rfl, ?_⟩, ?_, ?_, rfl, ?_⟩
  · exact fun hlost => Bool.not_eq_true' _ |>.mp hlost
  · exact Nat.le_of_eq (by rw [Nat.zero_mul]; rfl)
  · rw [hdeadline]
    change w.now < _
    omega
  · change machineAlerts ([] ++ ((p.report s w.now (w.now / 1000) services).2.map
      (Stamped.mk w.now) ++ [])) = []
    rw [List.nil_append, List.append_nil, machineAlerts_stamp]
    exact congrArg (fun es => (es.filterMap Event.alert?).map (Stamped.mk w.now)) hquiet

theorem Kept.advance {n span : Nat} (hdelay : 0 < s.delay.millis)
    (h : Kept s machine origin log w p n) (shown : s.reaches (w.now + span) = true) :
    ∃ m, Kept s machine origin
      (⟨w.now, .advance span, w.ticksDuring (.advance span), (w.advance span).2⟩ :: log)
      (w.advance span).1 (p.advance s (w.now + span)).1 (n + m) := by
  have hle : w.now ≤ w.now + span := Nat.le_add_right _ _
  obtain ⟨m, hm⟩ := h.timed.advance hdelay shown (Nat.le_trans h.begun hle)
  have hadvance : w.advance span =
      (watching s (p.advance s (w.now + span)).1 (w.now + span),
        (p.advance s (w.now + span)).2) := by
    conv_lhs => rw [h.watching_eq]
    exact advance_watching span
  have hticks : w.ticksDuring (.advance span) =
      (List.range' (n + 1) m).map fun k => log.heard origin + k * s.delay.millis := by
    rw [h.watching_eq, ticksDuring_watching]
    exact hm.instants
  refine ⟨m, ?_, ?_, ?_, ?_, ?_, ?_⟩
  · rw [hadvance]
    rfl
  · exact hm.timed
  · rw [hadvance]
    exact hm.begun
  · rw [hadvance]
    exact hm.ahead
  · change Log.ticks (_ :: log.silence) = _
    rw [Log.ticks_cons, h.ticks, ← List.range'_append_1, List.map_append, Nat.add_comm 1 n]
    exact congrArg _ hticks
  · change machineAlerts (Log.events (_ :: log.silence)) = _
    rw [Log.events_cons, machineAlerts_append, h.alerts, hadvance, Probe.alertsBetween_add]
    exact congrArg _ hm.alerts

/-- A worker keeps to the instants that are due, whatever it is called for. -/
theorem Run.kept (h : Run s machine origin history log w) (hdelay : 0 < s.delay.millis) :
    ∃ p n, Kept s machine origin log w p n := by
  induction h with
  | start =>
    have hdeadline : (Probe.start s machine origin history).deadline =
        origin + (0 + 1) * s.delay.millis := by
      rw [Nat.zero_add, Nat.one_mul]
      rfl
    refine ⟨.start s machine origin history, 0, rfl, ⟨rfl, hdeadline, rfl, nofun⟩, ?_, ?_, rfl, rfl⟩
    · exact Nat.le_of_eq (by rw [Nat.zero_mul]; rfl)
    · rw [hdeadline]
      change origin < _
      omega
  | @serve log w w' events c _ served shown ih =>
    obtain ⟨p, n, h⟩ := ih
    cases c with
    | report services => exact ⟨_, 0, h.report hdelay served⟩
    | query =>
      cases served
      refine ⟨p, n, h.watching_eq, h.timed, h.begun, h.ahead, ?_, ?_⟩
      · change Log.ticks (_ :: log.silence) = _
        rw [Log.ticks_cons, h.ticks]
        exact List.append_nil _
      · change machineAlerts (Log.events (_ :: log.silence)) = _
        rw [Log.events_cons, List.append_nil]
        exact h.alerts
    | advance span =>
      have hpair : w.advance span = (w', events) := Except.ok.inj served
      obtain rfl : (w.advance span).1 = w' := congrArg Prod.fst hpair
      obtain rfl : (w.advance span).2 = events := congrArg Prod.snd hpair
      have hnow : (w.advance span).1.now = w.now + span := by
        rw [h.watching_eq, advance_watching]
        rfl
      rw [hnow] at shown
      obtain ⟨m, hm⟩ := h.advance hdelay shown
      exact ⟨_, n + m, hm⟩

/-! ## Instants of a silence -/

theorem Kept.count_eq {n : Nat} (h : Kept s machine origin log w p n) :
    (w.now - log.heard origin) / s.delay.millis = n := by
  have hbegun := h.begun
  have hahead := h.ahead
  rw [h.timed.deadline_eq] at hahead
  exact Nat.div_eq_of_lt_le (by omega) (by omega)

theorem Run.heard_le (h : Run s machine origin history log w) (hdelay : 0 < s.delay.millis) :
    log.heard origin ≤ w.now := by
  obtain ⟨p, n, hkept⟩ := h.kept hdelay
  exact Nat.le_trans (Nat.le_add_right _ _) hkept.begun

/-- The tick number `a` has come once `a` delays have passed. -/
theorem le_count_iff {since a : Nat} (hdelay : 0 < s.delay.millis) (hsince : since ≤ now) :
    a ≤ (now - since) / s.delay.millis ↔ since + a * s.delay.millis ≤ now := by
  rw [Nat.le_div_iff_mul_le hdelay]
  omega

theorem alertsBetween_succ (since n : Nat) :
    Probe.alertsBetween s machine since 0 (n + 1) =
      Probe.alertsBetween s machine since 0 n ++
        (alertsAt s.thresholds machine (n + 1)).map
          (Stamped.mk (since + (n + 1) * s.delay.millis)) := by
  rw [Probe.alertsBetween_add]
  exact congrArg _ (List.append_nil _)

theorem ite_le_succ {α : Type} (a n : Nat) (x : Nat → α) :
    (if a ≤ n + 1 then [x a] else []) =
      (if a ≤ n then [x a] else []) ++ (if n + 1 = a then [x (n + 1)] else []) := by
  rcases Nat.lt_trichotomy (n + 1) a with h | h | h
  · rw [if_neg (by omega), if_neg (by omega), if_neg (by omega), List.append_nil]
  · rw [if_pos (by omega), if_neg (by omega), if_pos h, h, List.nil_append]
  · rw [if_pos (by omega), if_pos (by omega), if_neg (by omega), List.append_nil]

/-- Of all ticks only two raise alerts. -/
theorem alertsBetween_eq (since n : Nat) :
    Probe.alertsBetween s machine since 0 n =
      (if s.thresholds.lowAt ≤ n then
        [⟨since + s.thresholds.lowAt * s.delay.millis, ⟨.machine, machine, .low⟩⟩] else []) ++
      (if s.thresholds.highAt ≤ n then
        [⟨since + s.thresholds.highAt * s.delay.millis, ⟨.machine, machine, .high⟩⟩] else []) := by
  have hfail := failedAt_pos s.thresholds
  have hlow := failedAt_lt_lowAt s.thresholds
  have hhigh := lowAt_lt_highAt s.thresholds
  induction n with
  | zero =>
    rw [if_neg (by omega), if_neg (by omega)]
    rfl
  | succ n ih =>
    have hlows := ite_le_succ s.thresholds.lowAt n fun k =>
      (⟨since + k * s.delay.millis, ⟨.machine, machine, .low⟩⟩ : Stamped Alert)
    have hhighs := ite_le_succ s.thresholds.highAt n fun k =>
      (⟨since + k * s.delay.millis, ⟨.machine, machine, .high⟩⟩ : Stamped Alert)
    rw [alertsBetween_succ, ih, hlows, hhighs, alertsAt, List.map_append, apply_ite (List.map _),
      apply_ite (List.map _), List.map_singleton, List.map_singleton, List.map_nil]
    by_cases h : s.thresholds.highAt ≤ n
    · have hpast : n + 1 ≠ s.thresholds.lowAt := by omega
      rw [if_neg hpast, List.append_nil, List.nil_append, List.append_assoc]
    · rw [if_neg h, List.append_nil, List.nil_append, List.append_assoc]

theorem now_le_of_serve {c : Call} {w' : Worker} {events : List (Stamped Event)}
    (h : (watching s p now).serve c = .ok (w', events)) : now ≤ w'.now := by
  cases c with
  | report services =>
    obtain ⟨-, rfl, -⟩ := report_watching h
    exact Nat.le_refl _
  | query =>
    cases h
    exact Nat.le_refl _
  | advance span =>
    have hpair : (watching s p now).advance span = (w', events) := Except.ok.inj h
    rw [advance_watching] at hpair
    cases hpair
    exact Nat.le_add_right _ _

/-- Reports that are less than a delay apart leave no time for a tick. -/
theorem Kept.count_of_steady {n : Nat} (h : Kept s machine origin log w p n)
    (hsteady : (w.now :: log.hearings origin).IsChain fun later earlier =>
      later < earlier + s.delay.millis) : n = 0 := by
  have hnow := (List.isChain_cons.1 hsteady).1 _ (log.head?_hearings origin)
  have hbegun := h.begun
  by_contra hn
  have hdelay := Nat.le_mul_of_pos_left s.delay.millis (Nat.pos_of_ne_zero hn)
  omega

theorem Run.machineAlerts_of_steady (h : Run s machine origin history log w)
    (hdelay : 0 < s.delay.millis)
    (hsteady : (w.now :: log.hearings origin).IsChain fun later earlier =>
      later < earlier + s.delay.millis) :
    machineAlerts log.events = [] := by
  induction h with
  | start => rfl
  | @serve log w w' events c h served shown ih =>
    obtain ⟨p, n, hkept⟩ := (Run.serve c h served shown).kept hdelay
    have hnone := hkept.alerts
    rw [hkept.count_of_steady hsteady] at hnone
    obtain ⟨rest, hrest⟩ := Log.silence_cons ⟨w.now, c, w.ticksDuring c, events⟩ log
    rw [hrest, Log.events_cons, machineAlerts_append] at hnone
    rw [Log.events_cons, machineAlerts_append, (List.append_eq_nil_iff.1 hnone).2, List.append_nil]
    apply ih
    obtain ⟨hhead, htail⟩ := List.isChain_cons.1 hsteady
    rw [Log.hearings] at hhead htail
    split at htail
    · exact htail
    · rename_i hreport
      rw [if_neg hreport] at hhead
      obtain ⟨p₀, n₀, hbefore⟩ := h.kept hdelay
      rw [hbefore.watching_eq] at served
      refine List.isChain_cons.2 ⟨fun heard hheard => ?_, htail⟩
      exact Nat.lt_of_le_of_lt (now_le_of_serve served) (hhead heard hheard)

theorem Run.filter_queries (h : Run s machine origin history log w) :
    Run s machine origin history (log.filter fun e => !e.call.isQuery) w := by
  induction h with
  | start => exact .start
  | serve c _ served shown ih =>
    cases c with
    | query =>
      cases served
      exact ih
    | report services => exact .serve (.report services) ih served shown
    | advance span => exact .serve (.advance span) ih served shown

theorem exists_strokes (w : Worker) (span : Nat) : ∃ strokes : List (Stamped (List Event)),
    w.ticksDuring (.advance span) = strokes.map Stamped.instant ∧
      (w.advance span).2 = strokes.flatMap fun t => t.value.map (Stamped.mk t.instant) := by
  cases hrunning : w.running with
  | false => exact ⟨[], by simp [ticksDuring, advance, hrunning]⟩
  | true =>
    refine ⟨w.probe.strokesUntil w.settings (w.now + span), ?_, ?_⟩
    · simp [ticksDuring, hrunning]
    · simp [advance, hrunning, Probe.events_advance]

theorem Run.exists_strokes (h : Run s machine origin history log w) :
    ∀ e ∈ log, ∀ span, e.call = .advance span → ∃ strokes : List (Stamped (List Event)),
      e.ticks = strokes.map Stamped.instant ∧
        e.events = strokes.flatMap fun t => t.value.map (Stamped.mk t.instant) := by
  induction h with
  | start => exact nofun
  | @serve log w w' events c _ served _ ih =>
    rw [List.forall_mem_cons]
    refine ⟨?_, ih⟩
    rintro span rfl
    have hpair : w.advance span = (w', events) := Except.ok.inj served
    obtain rfl : (w.advance span).2 = events := congrArg Prod.snd hpair
    exact w.exists_strokes span

/-- What the silences of a machine come to, up to the present instant. -/
structure SilenceSpec (s : Settings) (machine : String) (origin : Nat) (history : History)
    (log : Log) (w : Worker) : Prop where
  heard_le : log.heard origin ≤ w.now
  /-- Since the latest report the timer has fired once for each delay that has passed. -/
  ticks : log.silence.ticks =
    (List.range' 1 ((w.now - log.heard origin) / s.delay.millis)).map fun k =>
      log.heard origin + k * s.delay.millis
  /-- All that happened while time passed, happened when the timer fired. -/
  strokes : ∀ e ∈ log, ∀ span, e.call = .advance span → ∃ strokes : List (Stamped (List Event)),
    e.ticks = strokes.map Stamped.instant ∧
      e.events = strokes.flatMap fun t => t.value.map (Stamped.mk t.instant)
  /-- The ticks have led to the rung that the machine is on. -/
  position : (w.probe.rung, w.probe.counter) =
    ladder s.thresholds ((w.now - log.heard origin) / s.delay.millis)
  alerts : machineAlerts log.silence.events =
    (if log.heard origin + (s.thresholds.toFailed + s.thresholds.toLow) * s.delay.millis ≤ w.now
      then [⟨log.heard origin + (s.thresholds.toFailed + s.thresholds.toLow) * s.delay.millis,
        ⟨.machine, machine, .low⟩⟩] else []) ++
    (if log.heard origin + (s.thresholds.toFailed + s.thresholds.toLow + s.thresholds.toHigh) *
        s.delay.millis ≤ w.now
      then [⟨log.heard origin + (s.thresholds.toFailed + s.thresholds.toLow +
        s.thresholds.toHigh) * s.delay.millis, ⟨.machine, machine, .high⟩⟩] else [])
  /-- Reports that are always less than a delay apart keep the machine on the lowest rung. -/
  steady : ((w.now :: log.hearings origin).IsChain fun later earlier =>
      later < earlier + s.delay.millis) →
    w.probe.rung = .normal ∧ machineAlerts log.events = []
  /-- The same run without its queries leads to the same worker. -/
  unasked : Run s machine origin history (log.filter fun e => !e.call.isQuery) w

/-- Alerts about a machine are raised at fixed instants of its silence. -/
theorem alerts_of_silence (hdelay : 0 < s.delay.millis) (hfailed : 0 < s.thresholds.toFailed)
    (hlow : 0 < s.thresholds.toLow) (hhigh : 0 < s.thresholds.toHigh)
    (h : Run s machine origin history log w) : SilenceSpec s machine origin history log w := by
  obtain ⟨p, n, hkept⟩ := h.kept hdelay
  have hle := h.heard_le hdelay
  have hprobe : w.probe = p := congrArg Worker.probe hkept.watching_eq
  have hlowAt : s.thresholds.lowAt = s.thresholds.toFailed + s.thresholds.toLow := by
    unfold Thresholds.lowAt Thresholds.failedAt
    omega
  have hhighAt : s.thresholds.highAt =
      s.thresholds.toFailed + s.thresholds.toLow + s.thresholds.toHigh := by
    unfold Thresholds.highAt
    omega
  refine ⟨hle, ?_, h.exists_strokes, ?_, ?_,
    fun hsteady => ⟨?_, h.machineAlerts_of_steady hdelay hsteady⟩, h.filter_queries⟩
  · rw [hkept.count_eq]
    exact hkept.ticks
  · rw [hkept.count_eq, hprobe]
    exact hkept.timed.position
  · rw [hkept.alerts, alertsBetween_eq, ← hhighAt, ← hlowAt, ← hkept.count_eq]
    simp only [le_count_iff hdelay hle]
  · have hposition := hkept.timed.position
    rw [hkept.count_of_steady hsteady] at hposition
    rw [hprobe]
    exact congrArg Prod.fst hposition

/-- One delay after a report the machine has failed, and one later the low alert is raised; a query
in between makes no difference. -/
theorem alerts_of_two_delays :
    ∃ (s : Settings) (log : Log) (w : Worker),
      0 < s.delay.millis ∧ 0 < s.thresholds.toFailed ∧ 0 < s.thresholds.toLow ∧
      0 < s.thresholds.toHigh ∧ Run s "web" 200 .empty log w ∧
      SilenceSpec s "web" 200 .empty log w ∧ log.heard 200 = 700 ∧ log.silence.ticks = [1700, 2700] ∧
      machineAlerts log.events = [⟨2700, .machine, "web", .low⟩] := by
  let s : Settings := ⟨⟨1000⟩, ⟨1, 1, 1⟩, none, 0⟩
  have hstart : Run s "web" 200 .empty _ _ := .start
  have hreport := (hstart.advance 500 (by decide +kernel)).report (.ofList [("db", "pass")])
    (by decide +kernel) (by decide +kernel) (by decide +kernel)
  have hfailed := hreport.advance 1200 (by decide +kernel)
  have hasked := Run.serve .query hfailed rfl (by decide +kernel)
  have h := hasked.advance 1400 (by decide +kernel)
  exact ⟨s, _, _, by decide, by decide, by decide, by decide, h,
    alerts_of_silence (by decide) (by decide) (by decide) (by decide) h, by decide +kernel,
    by decide +kernel, by decide +kernel⟩

end Runs

end Worker

end Vigil

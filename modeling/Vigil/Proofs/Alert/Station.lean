import Mathlib.Logic.Relation
import Vigil.Alert.Dispatcher
import Vigil.Proofs.Monitor.Run
import Vigil.Proofs.Monitor.Operation

/-!
# Alerts on their way

A station is a monitor together with the alerts that it has raised and that are on their way. What
an operation gives rise to is carried out one event after the other: a notice is logged, and an
alert starts a task of its own. The task looks for the provider in the slot of its alert and calls
it, and sooner or later, or never, the call returns with or without success. All of this goes on
while the monitor works, in any order.
-/

namespace Vigil

variable {d : Dispatcher}

/-! ## The calls for alerts -/

namespace Dispatcher

def callOf? (d : Dispatcher) (a : Stamped Alert) : Option (Stamped Call) :=
  (d.call? a.value).map (Stamped.mk a.instant)

theorem calls_eq_filterMap (d : Dispatcher) (events : List (Stamped Event)) :
    d.calls events = (Monitor.alerts events).filterMap d.callOf? := by
  rw [calls, Monitor.alerts, List.filterMap_filterMap]
  refine congrArg (List.filterMap · events) (funext fun e => ?_)
  cases e.value.alert? <;> rfl

def opening (d : Dispatcher) (c : Stamped Call) : List Notice :=
  (d.provider? c.value.slot).toList.map fun p => .sending c.value.alert.severity p.name

def closing (d : Dispatcher) (c : Stamped Call) (delivery : Delivery) : List Notice :=
  (d.provider? c.value.slot).toList.flatMap fun p =>
    delivery.notices ++ delivery.failure.toList.map (.undelivered c.value.alert.severity p.name)

/-- What the provider makes of a call. -/
def answer (d : Dispatcher) (c : Stamped Call) : Delivery :=
  (d.provider? c.value.slot).elim ⟨[], none⟩ fun p => p.send c.value.alert

theorem notices_of_unbound {a : Stamped Alert} (h : d.callOf? a = none) :
    d.notices a.value = [.unbound a.value] := by
  rw [callOf?, call?, Option.map_map, Option.map_eq_none_iff] at h
  rw [notices, h]

theorem notices_of_bound {a : Stamped Alert} {c : Stamped Call} (h : d.callOf? a = some c) :
    d.notices a.value = d.opening c ++ d.closing c (d.answer c) := by
  rw [callOf?, call?, Option.map_map, Option.map_eq_some_iff] at h
  obtain ⟨p, hp, rfl⟩ := h
  simp [notices, opening, closing, answer, hp]

end Dispatcher

/-! ## Stations -/

/-- A monitor and what it has set going. -/
structure Station where
  monitor : Monitor
  /-- What the operations so far have come to. The latest is the first. -/
  past : List Monitor.Outcome
  /-- The events that are still to be carried out. -/
  agenda : List (Stamped Event)
  /-- The alerts whose tasks have not looked for a provider. -/
  waiting : List (Stamped Alert)
  /-- The calls that have not returned. -/
  underway : List (Stamped Call)
  returned : List (Stamped Call × Delivery)
  log : List Notice

namespace Station

variable {m : Monitor} {ops : List Monitor.Operation} {x y : Station}

def start (m : Monitor) : Station :=
  ⟨m, [], [], [], [], [], []⟩

def calls (x : Station) : List (Stamped Call) :=
  x.underway ++ x.returned.map Prod.fst

/-- What the operations so far have given rise to. -/
def events (x : Station) : List (Stamped Event) :=
  x.past.reverse.flatMap Monitor.Outcome.events

/-- No alert waits for its call. -/
structure Settled (x : Station) : Prop where
  agenda : x.agenda = []
  waiting : x.waiting = []

def operate (op : Monitor.Operation) (x : Station) : Station :=
  let outcome := x.monitor.operate op
  { x with
    monitor := outcome.monitor
    past := outcome :: x.past
    agenda := x.agenda ++ outcome.events }

/-- What goes on beside the monitor. Tasks take their steps in any order, and a call may return with
any delivery. -/
inductive Step (d : Dispatcher) (x : Station) : Station → Prop where
  | note {t : Nat} {n : Notice} {rest : List (Stamped Event)}
      (next : x.agenda = ⟨t, .notice n⟩ :: rest) :
      Step d x { x with agenda := rest, log := x.log ++ [n] }
  | spawn {t : Nat} {a : Alert} {rest : List (Stamped Event)}
      (next : x.agenda = ⟨t, .alert a⟩ :: rest) :
      Step d x { x with agenda := rest, waiting := x.waiting ++ [⟨t, a⟩] }
  | drop {before after : List (Stamped Alert)} {a : Stamped Alert}
      (next : x.waiting = before ++ a :: after) (unbound : d.callOf? a = none) :
      Step d x { x with waiting := before ++ after, log := x.log ++ [.unbound a.value] }
  | call {before after : List (Stamped Alert)} {a : Stamped Alert} {c : Stamped Call}
      (next : x.waiting = before ++ a :: after) (bound : d.callOf? a = some c) :
      Step d x
        { x with
          waiting := before ++ after
          underway := x.underway ++ [c]
          log := x.log ++ d.opening c }
  | finish {before after : List (Stamped Call)} {c : Stamped Call} (delivery : Delivery)
      (next : x.underway = before ++ c :: after) :
      Step d x
        { x with
          underway := before ++ after
          returned := x.returned ++ [(c, delivery)]
          log := x.log ++ d.closing c delivery }

/-- The courses that a station can take from the start of a monitor on, with the operations so far.
The latest operation is the first. -/
inductive Run (d : Dispatcher) (m : Monitor) : List Monitor.Operation → Station → Prop where
  | start : Run d m [] (start m)
  | operate {ops : List Monitor.Operation} {x : Station} (op : Monitor.Operation)
      (h : Run d m ops x) : Run d m (op :: ops) (x.operate op)
  | step {ops : List Monitor.Operation} {x y : Station} (h : Run d m ops x) (step : Step d x y) :
      Run d m ops y

/-! ## The monitor's side -/

theorem Step.monitor_eq (h : Step d x y) : y.monitor = x.monitor := by
  cases h <;> rfl

theorem Step.past_eq (h : Step d x y) : y.past = x.past := by
  cases h <;> rfl

theorem Run.monitor_eq (h : Run d m ops x) : x.monitor = m.after ops := by
  induction h with
  | start => rfl
  | operate op _ ih => rw [Station.operate, Monitor.after, ih]
  | step _ step ih => rw [step.monitor_eq, ih]

/-- What the operations come to is up to the monitor alone. -/
theorem Run.past_eq (h : Run d m ops x) : x.past = m.outcomes ops := by
  induction h with
  | start => rfl
  | operate op h ih => rw [Station.operate, Monitor.outcomes, ih, h.monitor_eq]
  | step _ step ih => rw [step.past_eq, ih]

/-! ## The providers' side -/

/-- The calls that are still to be made. -/
def owed (d : Dispatcher) (x : Station) : List (Stamped Call) :=
  (x.waiting ++ Monitor.alerts x.agenda).filterMap d.callOf?

/-- No step loses a call, and none makes one up. -/
theorem Step.calls_perm (h : Step d x y) :
    (y.calls ++ y.owed d).Perm (x.calls ++ x.owed d) := by
  cases h with
  | note next =>
    refine List.Perm.of_eq ?_
    simp [calls, owed, next, Monitor.alerts, Event.alert?]
  | spawn next =>
    refine List.Perm.of_eq ?_
    simp [calls, owed, next, Monitor.alerts, Event.alert?]
  | drop next unbound =>
    refine List.Perm.of_eq ?_
    simp [calls, owed, next, unbound]
  | call next bound =>
    simp only [calls, owed, next, List.filterMap_append, List.filterMap_cons_some bound,
      List.append_assoc, List.cons_append, List.nil_append]
    refine List.Perm.append_left _ (List.Perm.symm ?_)
    rw [← List.append_assoc]
    exact List.perm_middle.trans (by rw [List.append_assoc])
  | finish delivery next =>
    refine List.Perm.append_right _ ?_
    simp only [calls, next, List.map_append, List.map_cons, List.map_nil, List.append_assoc,
      List.cons_append]
    refine List.Perm.append_left _ ?_
    rw [← List.append_assoc]
    exact List.perm_append_singleton _ _

theorem Run.calls_perm (h : Run d m ops x) :
    (x.calls ++ x.owed d).Perm (d.calls x.events) := by
  induction h with
  | start => exact List.Perm.refl _
  | @operate _ x op _ ih =>
    have hcalls : (x.operate op).calls ++ (x.operate op).owed d =
        x.calls ++ x.owed d ++ d.calls (x.monitor.operate op).events := by
      simp [calls, owed, Station.operate, Monitor.alerts, Dispatcher.calls_eq_filterMap]
    have hevents : (x.operate op).events = x.events ++ (x.monitor.operate op).events := by
      simp [events, Station.operate]
    have hsplit : d.calls (x.events ++ (x.monitor.operate op).events) =
        d.calls x.events ++ d.calls (x.monitor.operate op).events := List.filterMap_append
    rw [hcalls, hevents, hsplit]
    exact ih.append_right _
  | step _ step ih =>
    rw [events, step.past_eq]
    exact step.calls_perm.trans ih

theorem Run.calls_perm_of_settled (h : Run d m ops x) (settled : x.Settled) :
    x.calls.Perm (d.calls x.events) := by
  have hperm := h.calls_perm
  have hnothing : x.owed d = [] := by
    rw [owed, settled.waiting, settled.agenda]
    rfl
  rwa [hnothing, List.append_nil] at hperm

/-! ## The log -/

/-- The calls that have returned did so with what the providers make of them. -/
def Faithful (d : Dispatcher) (x : Station) : Prop :=
  ∀ r ∈ x.returned, r.2 = d.answer r.1

/-- What is still to be logged. -/
def unlogged (d : Dispatcher) (x : Station) : List Notice :=
  d.log x.agenda ++ (x.waiting.flatMap fun a => d.notices a.value) ++
    x.underway.flatMap fun c => d.closing c (d.answer c)

theorem Step.faithful (h : Step d x y) (faithful : y.Faithful d) : x.Faithful d := by
  cases h with
  | note next | spawn next | drop next _ | call next _ => exact faithful
  | finish delivery next => exact fun r hr => faithful r (List.mem_append_left _ hr)

theorem Step.log_perm (h : Step d x y) (faithful : y.Faithful d) :
    (y.log ++ y.unlogged d).Perm (x.log ++ x.unlogged d) := by
  rw [List.perm_iff_count]
  intro n
  cases h with
  | note next =>
    simp only [unlogged, next, Dispatcher.log, List.flatMap_cons, List.count_append]
    omega
  | spawn next =>
    simp only [unlogged, next, Dispatcher.log, List.flatMap_cons, List.flatMap_append,
      List.flatMap_nil, List.count_append, List.count_nil]
    omega
  | drop next unbound =>
    simp only [unlogged, next, Dispatcher.notices_of_unbound unbound, List.flatMap_cons,
      List.flatMap_append, List.count_append]
    omega
  | call next bound =>
    simp only [unlogged, next, Dispatcher.notices_of_bound bound, List.flatMap_cons,
      List.flatMap_append, List.flatMap_nil, List.count_append, List.count_nil]
    omega
  | @finish _ _ c delivery next =>
    have hanswer : delivery = d.answer c :=
      faithful (c, delivery) (List.mem_append_right _ List.mem_cons_self)
    simp only [unlogged, next, hanswer, List.flatMap_cons, List.flatMap_append, List.count_append]
    omega

theorem Run.log_perm (h : Run d m ops x) (faithful : x.Faithful d) :
    (x.log ++ x.unlogged d).Perm (d.log x.events) := by
  induction h with
  | start => exact List.Perm.refl _
  | @operate _ x op _ ih =>
    have hevents : (x.operate op).events = x.events ++ (x.monitor.operate op).events := by
      simp [events, Station.operate]
    have hsplit (events : List (Stamped Event)) :
        d.log (events ++ (x.monitor.operate op).events) =
          d.log events ++ d.log (x.monitor.operate op).events := List.flatMap_append
    have hlog := (ih faithful).append_right (d.log (x.monitor.operate op).events)
    rw [hevents, hsplit]
    refine List.Perm.trans ?_ hlog
    rw [List.perm_iff_count]
    intro n
    simp only [unlogged, Station.operate, hsplit, List.count_append]
    omega
  | step _ step ih =>
    rw [events, step.past_eq]
    exact (step.log_perm faithful).trans (ih (step.faithful faithful))

theorem Run.log_perm_of_settled (h : Run d m ops x) (settled : x.Settled)
    (returned : x.underway = []) (faithful : x.Faithful d) : x.log.Perm (d.log x.events) := by
  have hperm := h.log_perm faithful
  have hnothing : x.unlogged d = [] := by
    rw [unlogged, settled.agenda, settled.waiting, returned]
    rfl
  rwa [hnothing, List.append_nil] at hperm

/-! ## Settling -/

/-- No fewer than the steps that are left for what is on its way. -/
def load (x : Station) : Nat :=
  3 * x.agenda.length + 2 * x.waiting.length + x.underway.length

theorem Step.load_lt (h : Step d x y) : y.load < x.load := by
  cases h with
  | note next | spawn next | drop next _ | call next _ | finish _ next =>
    simp only [load, next, List.length_append, List.length_cons, List.length_nil]
    omega

theorem exists_step (d : Dispatcher) (h : ¬x.Settled) : ∃ y, Step d x y := by
  cases hagenda : x.agenda with
  | cons e rest =>
    obtain ⟨t, a | n⟩ := e
    · exact ⟨_, .spawn hagenda⟩
    · exact ⟨_, .note hagenda⟩
  | nil =>
    cases hwaiting : x.waiting with
    | cons a rest =>
      cases hcall : d.callOf? a with
      | none => exact ⟨_, @Step.drop d x [] rest a hwaiting hcall⟩
      | some c => exact ⟨_, @Step.call d x [] rest a c hwaiting hcall⟩
    | nil => exact absurd ⟨hagenda, hwaiting⟩ h

/-- What is on its way comes to an end in any order of the steps. -/
theorem wellFounded_step (d : Dispatcher) : WellFounded fun y x => Step d x y :=
  Subrelation.wf Step.load_lt (measure load).wf

theorem exists_settled (d : Dispatcher) (x : Station) :
    ∃ y, Relation.ReflTransGen (Step d) x y ∧ y.Settled := by
  induction x using (wellFounded_step d).induction with
  | _ x ih =>
    by_cases settled : x.Settled
    · exact ⟨x, .refl, settled⟩
    · obtain ⟨y, step⟩ := exists_step d settled
      obtain ⟨z, steps, settled⟩ := ih y step
      exact ⟨z, steps.head step, settled⟩

theorem Run.steps (h : Run d m ops x) (steps : Relation.ReflTransGen (Step d) x y) :
    Run d m ops y := by
  induction steps with
  | refl => exact h
  | tail _ step ih => exact ih.step step

theorem exists_settled_run (d : Dispatcher) (m : Monitor) (ops : List Monitor.Operation) :
    ∃ x, Run d m ops x ∧ x.Settled := by
  have hrun : ∃ x, Run d m ops x := by
    induction ops with
    | nil => exact ⟨_, .start⟩
    | cons op _ ih =>
      obtain ⟨x, h⟩ := ih
      exact ⟨_, h.operate op⟩
  obtain ⟨x, h⟩ := hrun
  obtain ⟨y, steps, settled⟩ := exists_settled d x
  exact ⟨y, h.steps steps, settled⟩

end Station

end Vigil

import Vigil.Proofs.Probe.Course

/-!
# The ladder in closed form

The rung of a machine and the counter on it are functions of the number of ticks since the latest
report, and so is what a tick raises about the machine. A threshold of zero counts as one.
-/

namespace Vigil

/-- The ticks of silence after which a machine has failed. -/
def Thresholds.failedAt (t : Thresholds) : Nat :=
  max 1 t.toFailed

/-- The ticks of silence after which the low alert is raised. -/
def Thresholds.lowAt (t : Thresholds) : Nat :=
  t.failedAt + max 1 t.toLow

/-- The ticks of silence after which the high alert is raised. -/
def Thresholds.highAt (t : Thresholds) : Nat :=
  t.lowAt + max 1 t.toHigh

/-- The rung and the counter after `n` ticks of silence. -/
def ladder (t : Thresholds) (n : Nat) : Rung × Nat :=
  if n = 0 then (.normal, 0)
  else if n < t.failedAt then (.degraded, n)
  else if n < t.lowAt then (.failed, n - t.failedAt)
  else if n < t.highAt then (.alertedLow, n - t.lowAt)
  else (.alertedHigh, n - t.highAt)

/-- Whether an event is an alert about a machine or the notice that it is still on the topmost
rung. -/
def Event.isOfLadder : Event → Bool
  | .alert a => a.category = .machine
  | .notice (.stillAlerted _) => true
  | .notice _ => false

/-- What the tick number `n` of a silence raises about a machine. -/
def raisedAt (t : Thresholds) (machine : String) (n : Nat) : List Event :=
  (if n = t.lowAt then [.alert ⟨.machine, machine, .low⟩] else []) ++
  (if n = t.highAt then [.alert ⟨.machine, machine, .high⟩] else []) ++
  (if t.highAt < n ∧ 10 ∣ n - t.highAt then [.notice (.stillAlerted machine)] else [])

section Rungs

variable {t : Thresholds} {n : Nat}

theorem failedAt_pos (t : Thresholds) : 0 < t.failedAt :=
  Nat.lt_of_lt_of_le Nat.zero_lt_one (Nat.le_max_left 1 _)

theorem failedAt_lt_lowAt (t : Thresholds) : t.failedAt < t.lowAt := by
  unfold Thresholds.lowAt
  omega

theorem lowAt_lt_highAt (t : Thresholds) : t.lowAt < t.highAt := by
  unfold Thresholds.highAt
  omega

theorem ladder_degraded (h0 : 0 < n) (h : n < t.failedAt) : ladder t n = (.degraded, n) := by
  rw [ladder, if_neg (by omega), if_pos h]

theorem ladder_failed (h : t.failedAt ≤ n) (h' : n < t.lowAt) :
    ladder t n = (.failed, n - t.failedAt) := by
  have hpos := failedAt_pos t
  rw [ladder, if_neg (by omega), if_neg (by omega), if_pos h']

theorem ladder_alertedLow (h : t.lowAt ≤ n) (h' : n < t.highAt) :
    ladder t n = (.alertedLow, n - t.lowAt) := by
  have hlt := failedAt_lt_lowAt t
  rw [ladder, if_neg (by omega), if_neg (by omega), if_neg (by omega), if_pos h']

theorem ladder_alertedHigh (h : t.highAt ≤ n) : ladder t n = (.alertedHigh, n - t.highAt) := by
  have hlow := failedAt_lt_lowAt t
  have hhigh := lowAt_lt_highAt t
  rw [ladder, if_neg (by omega), if_neg (by omega), if_neg (by omega), if_neg (by omega)]

theorem raisedAt_lowAt (t : Thresholds) (machine : String) :
    raisedAt t machine t.lowAt = [.alert ⟨.machine, machine, .low⟩] := by
  have hlt := lowAt_lt_highAt t
  rw [raisedAt, if_pos rfl, if_neg (by omega), if_neg (by omega)]
  rfl

theorem raisedAt_highAt (t : Thresholds) (machine : String) :
    raisedAt t machine t.highAt = [.alert ⟨.machine, machine, .high⟩] := by
  have hlt := lowAt_lt_highAt t
  rw [raisedAt, if_neg (by omega), if_pos rfl, if_neg (by omega)]
  rfl

theorem raisedAt_of_lt_highAt (machine : String) (h : n ≠ t.lowAt) (h' : n < t.highAt) :
    raisedAt t machine n = [] := by
  rw [raisedAt, if_neg h, if_neg (by omega), if_neg (by omega)]
  rfl

theorem raisedAt_of_highAt_lt (machine : String) (h : t.highAt < n) :
    raisedAt t machine n =
      if (n - t.highAt) % 10 = 0 then [.notice (.stillAlerted machine)] else [] := by
  have hlt := lowAt_lt_highAt t
  rw [raisedAt, if_neg (by omega), if_neg (by omega)]
  simp [h, Nat.dvd_iff_mod_eq_zero]

end Rungs

namespace Probe

/-! ## A single tick -/

theorem rung_countTo (now limit : Nat) (p : Probe) :
    ((p.countTo now limit).1.rung, (p.countTo now limit).1.counter) =
      if limit ≤ p.counter + 1 then (p.rung.next, 0) else (p.rung, p.counter + 1) := by
  unfold countTo
  by_cases h : limit ≤ p.count.counter
  · rw [if_pos (show limit ≤ p.counter + 1 from h)]
    dsimp only
    rw [if_pos h]
    rfl
  · rw [if_neg (show ¬ limit ≤ p.counter + 1 from h)]
    dsimp only
    rw [if_neg h]
    rfl

theorem events_countTo (now limit : Nat) (p : Probe) :
    (p.countTo now limit).2 =
      if limit ≤ p.counter + 1 then [p.count.climb.silence now] else [] := by
  unfold countTo
  by_cases h : limit ≤ p.count.counter
  · rw [if_pos (show limit ≤ p.counter + 1 from h)]
    dsimp only
    rw [if_pos h]
  · rw [if_neg (show ¬ limit ≤ p.counter + 1 from h)]
    dsimp only
    rw [if_neg h]

section Steps

variable {t : Thresholds} {p : Probe} {n : Nat}

/-- A rung that is reached at the tick `a` of a silence and left at the tick `b`: a tick on it
counts, and the last one leads to the next rung. -/
theorem countTo_ladder {a b limit : Nat} (hb : b = a + max 1 limit) (hcounter : p.counter = n - a)
    (ha : a ≤ n) (hn : n < b) (hstay : n + 1 < b → ladder t (n + 1) = (p.rung, n + 1 - a))
    (hclimb : ladder t b = (p.rung.next, 0)) (now : Nat) :
    ((p.countTo now limit).1.rung, (p.countTo now limit).1.counter) = ladder t (n + 1) ∧
      (p.countTo now limit).2 = if n + 1 = b then [p.count.climb.silence now] else [] := by
  rw [rung_countTo, events_countTo, hcounter]
  by_cases h : limit ≤ n - a + 1
  · have hlast : n + 1 = b := by omega
    rw [if_pos h, if_pos h, if_pos hlast, hlast, hclimb]
    exact ⟨rfl, rfl⟩
  · have hnext : n + 1 < b := by omega
    have hcount : n - a + 1 = n + 1 - a := by omega
    rw [if_neg h, if_neg h, if_neg (Nat.ne_of_lt hnext), hstay hnext, hcount]
    exact ⟨rfl, rfl⟩

/-- The outcome of the tick number `n` of a silence. -/
structure TickSpec (t : Thresholds) (machine : String) (n : Nat) (out : Probe × List Event) :
    Prop where
  rung_eq : (out.1.rung, out.1.counter) = ladder t n
  raised : out.2.filter Event.isOfLadder = raisedAt t machine n

theorem step_normal (hrung : p.rung = .normal) (now : Nat) :
    TickSpec t p.name 1 (p.step t now) := by
  have hpos := failedAt_pos t
  have hlow := failedAt_lt_lowAt t
  have hhigh := lowAt_lt_highAt t
  have hnext : p.climb.rung = .degraded := by rw [climb, publish, hrung]; rfl
  obtain ⟨hladder, hevents⟩ := countTo_ladder (t := t) (p := p.climb) (n := 0) (a := 0)
    (b := t.failedAt) (by rw [Nat.zero_add]; rfl) rfl (Nat.le_refl 0) hpos
    (fun h => by rw [hnext]; exact ladder_degraded (by omega) h)
    (by rw [hnext, ladder_failed (Nat.le_refl _) hlow, Nat.sub_self]; rfl) now
  unfold step
  rw [hrung]
  refine ⟨hladder, ?_⟩
  rw [raisedAt_of_lt_highAt p.name (by omega) (by omega)]
  dsimp only
  rw [hevents]
  split <;> rfl

theorem step_degraded (hrung : p.rung = .degraded) (hcounter : p.counter = n)
    (hn : n < t.failedAt) (now : Nat) : TickSpec t p.name (n + 1) (p.step t now) := by
  have hlow := failedAt_lt_lowAt t
  have hhigh := lowAt_lt_highAt t
  obtain ⟨hladder, hevents⟩ := countTo_ladder (t := t) (p := p) (n := n) (a := 0)
    (b := t.failedAt) (by rw [Nat.zero_add]; rfl) hcounter (Nat.zero_le n) hn
    (fun h => by rw [hrung]; exact ladder_degraded (by omega) h)
    (by rw [hrung, ladder_failed (Nat.le_refl _) hlow, Nat.sub_self]; rfl) now
  unfold step
  rw [hrung]
  refine ⟨hladder, ?_⟩
  rw [raisedAt_of_lt_highAt p.name (by omega) (by omega)]
  dsimp only
  rw [hevents]
  split <;> rfl

theorem step_failed (hrung : p.rung = .failed) (hcounter : p.counter = n - t.failedAt)
    (hfail : t.failedAt ≤ n) (hn : n < t.lowAt) (now : Nat) :
    TickSpec t p.name (n + 1) (p.step t now) := by
  have hhigh := lowAt_lt_highAt t
  obtain ⟨hladder, hevents⟩ := countTo_ladder (t := t) (p := p) (n := n) (a := t.failedAt)
    (b := t.lowAt) rfl hcounter hfail hn
    (fun h => by rw [hrung]; exact ladder_failed (by omega) h)
    (by rw [hrung, ladder_alertedLow (Nat.le_refl _) hhigh, Nat.sub_self]; rfl) now
  unfold step
  rw [hrung]
  refine ⟨hladder, ?_⟩
  dsimp only
  rw [hevents]
  by_cases h : n + 1 = t.lowAt
  · rw [if_pos h, h, raisedAt_lowAt]
    rfl
  · rw [if_neg h, raisedAt_of_lt_highAt p.name h (by omega)]
    rfl

theorem step_alertedLow (hrung : p.rung = .alertedLow) (hcounter : p.counter = n - t.lowAt)
    (hlow : t.lowAt ≤ n) (hn : n < t.highAt) (now : Nat) :
    TickSpec t p.name (n + 1) (p.step t now) := by
  obtain ⟨hladder, hevents⟩ := countTo_ladder (t := t) (p := p) (n := n) (a := t.lowAt)
    (b := t.highAt) rfl hcounter hlow hn
    (fun h => by rw [hrung]; exact ladder_alertedLow (by omega) h)
    (by rw [hrung, ladder_alertedHigh (Nat.le_refl _), Nat.sub_self]; rfl) now
  unfold step
  rw [hrung]
  refine ⟨hladder, ?_⟩
  dsimp only
  rw [hevents]
  by_cases h : n + 1 = t.highAt
  · rw [if_pos h, h, raisedAt_highAt]
    rfl
  · rw [if_neg h, raisedAt_of_lt_highAt p.name (by omega) (by omega)]
    rfl

theorem step_alertedHigh (hrung : p.rung = .alertedHigh) (hcounter : p.counter = n - t.highAt)
    (hhigh : t.highAt ≤ n) (now : Nat) : TickSpec t p.name (n + 1) (p.step t now) := by
  have hcount : p.count.counter = n + 1 - t.highAt := by
    change p.counter + 1 = _
    omega
  unfold step
  rw [hrung]
  constructor
  · rw [ladder_alertedHigh (by omega), ← hcount]
    exact congrArg (·, p.count.counter) hrung
  · rw [raisedAt_of_highAt_lt p.name (by omega), ← hcount]
    dsimp only
    by_cases h : p.count.counter % noticeInterval = 0
    · rw [if_pos h, if_pos (show p.count.counter % 10 = 0 from h)]
      rfl
    · rw [if_neg h, if_neg (show ¬ p.count.counter % 10 = 0 from h)]
      rfl

/-- A tick takes a probe one step up the ladder, and raises what belongs to that step. -/
theorem step_ladder (h : (p.rung, p.counter) = ladder t n) (now : Nat) :
    TickSpec t p.name (n + 1) (p.step t now) := by
  unfold ladder at h
  split at h
  · rename_i hn
    subst hn
    exact step_normal (Prod.mk.inj h).1 now
  · rcases Nat.lt_or_ge n t.failedAt with hn | hn
    · rw [if_pos hn] at h
      exact step_degraded (Prod.mk.inj h).1 (Prod.mk.inj h).2 hn now
    · rw [if_neg (Nat.not_lt.2 hn)] at h
      rcases Nat.lt_or_ge n t.lowAt with hn' | hn'
      · rw [if_pos hn'] at h
        exact step_failed (Prod.mk.inj h).1 (Prod.mk.inj h).2 hn hn' now
      · rw [if_neg (Nat.not_lt.2 hn')] at h
        rcases Nat.lt_or_ge n t.highAt with hn'' | hn''
        · rw [if_pos hn''] at h
          exact step_alertedLow (Prod.mk.inj h).1 (Prod.mk.inj h).2 hn' hn'' now
        · rw [if_neg (Nat.not_lt.2 hn'')] at h
          exact step_alertedHigh (Prod.mk.inj h).1 (Prod.mk.inj h).2 hn'' now

end Steps

/-! ## Along a course -/

/-- The number of ticks since the latest report of a record. -/
def Record.silence : Record → Nat
  | [] => 0
  | (.report _ _, _) :: _ => 0
  | (.tick, _) :: earlier => silence earlier + 1
  | (.query, _) :: earlier => silence earlier

/-- What is raised about a machine when an act is served after those of a record. -/
def Act.raised (t : Thresholds) (machine : String) (earlier : Record) : Act → List Event
  | .tick => raisedAt t machine (earlier.silence + 1)
  | .report _ _ | .query => []

/-- A report raises nothing about the machine itself. -/
theorem filter_fold_isOfLadder (s : Settings) (now : Nat) (r : Report) (p : Probe) :
    (p.fold s now r.timestamp r.services).2.filter Event.isOfLadder = [] := by
  have hunknown : ∀ e ∈ unknownStates r.services, e.isOfLadder = false := by
    intro e he
    obtain ⟨⟨service, raw⟩, -, heq⟩ := List.mem_filterMap.1 he
    dsimp only at heq
    split at heq
    · cases heq
    · cases heq
      rfl
  have hservice (service : String) (o : Observation) :
      ∀ e ∈ serviceEvents s.thresholds p.name service o, e.isOfLadder = false := by
    unfold serviceEvents
    cases o.evaluate s.thresholds <;> simp [Event.isOfLadder]
  have heval : ∀ e ∈ (p.storeReport r.timestamp r.services).evaluations s.thresholds,
      e.isOfLadder = false := by
    intro e he
    unfold evaluations at he
    split at he
    · cases he
    · obtain ⟨⟨service, o⟩, -, hmem⟩ := List.mem_flatMap.1 he
      exact hservice service o e hmem
  rw [List.filter_eq_nil_iff]
  intro e he
  rw [Bool.not_eq_true]
  unfold fold at he
  dsimp only at he
  rw [List.mem_append, List.mem_append] at he
  rcases he with (he | he) | he
  · exact hunknown e he
  · exact heval e he
  · split at he
    · cases he
    · rw [List.mem_singleton] at he
      rw [he]
      rfl

theorem shown_countTo {p : Probe} (h : p.shown = p.rung) (now limit : Nat) :
    (p.countTo now limit).1.shown = (p.countTo now limit).1.rung := by
  unfold countTo
  dsimp only
  split
  · rfl
  · exact h

theorem shown_step {p : Probe} (h : p.shown = p.rung) (t : Thresholds) (now : Nat) :
    (p.step t now).1.shown = (p.step t now).1.rung := by
  unfold step
  cases p.rung with
  | normal => exact shown_countTo (p := p.climb) rfl now t.toFailed
  | degraded => exact shown_countTo h now t.toFailed
  | failed => exact shown_countTo h now t.toLow
  | alertedLow => exact shown_countTo h now t.toHigh
  | alertedHigh => exact h

section Courses

variable {s : Settings} {machine : String} {now : Nat} {history : History} {p : Probe}
variable {record : Record}

/-- What a probe shows is the rung that it is on. -/
theorem Course.shown_eq (h : Course s (.start s machine now history) record p) :
    p.shown = p.rung := by
  induction h with
  | start => rfl
  | @serve _ p a alive _ ih =>
    cases a with
    | report now r => rfl
    | tick =>
      rw [Probe.serve, tick_of_alive alive]
      exact shown_step ih s.thresholds p.deadline
    | query => exact ih
  | trim _ ih => exact ih

/-- The rung and the counter are those that the silence leads to. -/
theorem Course.ladder_eq (h : Course s (.start s machine now history) record p) :
    (p.rung, p.counter) = ladder s.thresholds record.silence := by
  induction h with
  | start => rfl
  | @serve _ p a alive _ ih =>
    cases a with
    | report now r => rfl
    | tick =>
      rw [Probe.serve, tick_of_alive alive]
      exact (step_ladder ih p.deadline).rung_eq
    | query => exact ih
  | trim _ ih => exact ih

/-- What the latest act of a course raises about the machine. -/
theorem Course.filter_isOfLadder_latest {a : Act} {events : List Event}
    (h : Course s (.start s machine now history) ((a, events) :: record) p) :
    events.filter Event.isOfLadder = a.raised s.thresholds machine record := by
  obtain ⟨q, hq, alive, rfl⟩ := h.served
  have hname : q.name = machine := hq.name_eq
  subst hname
  cases a with
  | report now r => exact filter_fold_isOfLadder s now r q
  | tick =>
    rw [Probe.serve, tick_of_alive alive]
    exact (step_ladder hq.ladder_eq q.deadline).raised
  | query => rfl

/-- Where the probe of a machine is after a course, and what was raised about the machine. -/
structure LadderSpec (t : Thresholds) (machine : String) (record : Record) (p : Probe) : Prop where
  /-- The rung and the counter are functions of the silence. -/
  position : (p.rung, p.counter) = ladder t record.silence
  /-- The rung that is shown is the one that the probe is on. -/
  shown : p.shown = (ladder t record.silence).1
  /-- A tick raises what belongs to its number in the silence, and nothing else raises anything. -/
  raised : ∀ later a events earlier, record = later ++ (a, events) :: earlier →
    events.filter Event.isOfLadder = Act.raised t machine earlier a

/-- The ladder depends on the length of the silence alone. -/
theorem ladder_of_silence (h : Course s (.start s machine now history) record p) :
    LadderSpec s.thresholds machine record p where
  position := h.ladder_eq
  shown := by rw [h.shown_eq, ← h.ladder_eq]
  raised := by
    rintro later a events earlier rfl
    obtain ⟨q, hq⟩ := h.earlier
    exact hq.filter_isOfLadder_latest

/-- With all thresholds at one, the first tick after a report climbs two rungs, and the second
raises the low alert. -/
theorem ladder_of_two_ticks :
    ∃ (s : Settings) (record : Record) (p : Probe),
      Course s (.start s "web" 0 (.withCap 1)) record p ∧
      LadderSpec s.thresholds "web" record p ∧
      (p.rung, p.counter) = (.alertedLow, 0) ∧
      record.map (fun e => e.2.filterMap Event.alert?) =
        [[⟨.machine, "web", .low⟩], [], [], []] := by
  let s : Settings := ⟨⟨1000⟩, ⟨1, 1, 1⟩, none, 0⟩
  have h : Course s (.start s "web" 0 (.withCap 1)) _ _ :=
    .serve .tick (by decide +kernel) (.serve .tick (by decide +kernel)
      (.serve (.report 1500 ⟨0, .ofList [("db", "pass")]⟩) (by decide +kernel)
        (.serve .tick rfl .start)))
  exact ⟨s, _, _, h, ladder_of_silence h, by decide +kernel, by decide +kernel⟩

end Courses

end Probe

end Vigil

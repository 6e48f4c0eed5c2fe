import Vigil.Monitor

/-!
# Operations on a monitor

Everything that a monitor can be asked for, and what it comes to. A monitor that has stopped refuses
all operations but the passing of time.
-/

namespace Vigil

namespace Monitor

theorem advance_of_stopped {m : Monitor} (h : m.registry = none) (span : Nat) :
    m.advance span = (⟨m.now + span, none⟩, ⟨[], []⟩) := by
  simp only [advance, h]

section

variable {m : Monitor}

theorem submit_of_stopped (h : m.registry = none) (batch : List Submission) :
    m.submit batch = .error .submission := by
  rw [submit, reach, h]
  rfl

theorem snapshot_of_stopped (h : m.registry = none) : m.snapshot = .error .snapshot := by
  rw [snapshot, reach, h]
  rfl

theorem shutdown_of_stopped (h : m.registry = none) : m.shutdown = .error .shutdown := by
  rw [shutdown, reach, h]
  rfl

end

theorem advance_of_running {m : Monitor} {r : Registry} (h : m.registry = some r) (span : Nat) :
    m.advance span =
      (⟨m.now + span, some (r.advance (m.now + span)).1⟩, (r.advance (m.now + span)).2) := by
  simp only [advance, h]

theorem snapshot_of_running {m : Monitor} {r : Registry} (h : m.registry = some r) :
    m.snapshot = .ok r.snapshot := by
  simp only [snapshot, reach, h]
  rfl

theorem state_of_running {m : Monitor} {r : Registry} (h : m.registry = some r) (machine : String) :
    m.state machine = .ok (r.state? machine) := by
  simp only [state, reach, h]
  rfl

inductive Operation where
  | submit (batch : List Submission)
  | snapshot
  | state (machine : String)
  | shutdown
  | advance (span : Nat)

inductive Answer where
  | done
  | snapshot (s : Snapshot)
  | state (p? : Option ProbeState)

structure Outcome where
  /-- The monitor after the operation. -/
  monitor : Monitor
  answer : Except Refusal Answer
  events : List (Stamped Event)
  /-- The snapshots for the dashboard. -/
  published : List (Stamped Snapshot)

def Outcome.ofChange (m : Monitor) :
    Except Refusal (Monitor × List (Stamped Event)) → Outcome
  | .ok (m', events) => ⟨m', .ok .done, events, []⟩
  | .error refusal => ⟨m, .error refusal, [], []⟩

def operate (m : Monitor) : Operation → Outcome
  | .submit batch => .ofChange m (m.submit batch)
  | .snapshot => ⟨m, m.snapshot.map .snapshot, [], []⟩
  | .state machine => ⟨m, (m.state machine).map .state, [], []⟩
  | .shutdown => .ofChange m m.shutdown
  | .advance span =>
    ⟨(m.advance span).1, .ok .done, (m.advance span).2.events, (m.advance span).2.snapshots⟩

/-- What an operation makes of a monitor with a registry that runs on. -/
inductive Turn (m : Monitor) (r : Registry) : Operation → Monitor → Prop where
  | submit (batch : List Submission) : Turn m r (.submit batch) ⟨m.now, some (r.ingest m.now batch).1⟩
  | snapshot : Turn m r .snapshot m
  | state (machine : String) : Turn m r (.state machine) m
  | advance (span : Nat) :
      Turn m r (.advance span) ⟨m.now + span, some (r.advance (m.now + span)).1⟩

/-- A registry that runs has been running before. -/
theorem exists_turn {m : Monitor} {op : Operation}
    (running : (m.operate op).monitor.registry.isSome) :
    ∃ r, m.registry = some r ∧ Turn m r op (m.operate op).monitor := by
  cases hr : m.registry with
  | none =>
    have hstopped : (m.operate op).monitor.registry = none := by
      cases op with
      | submit batch => rw [operate, submit_of_stopped hr, Outcome.ofChange, hr]
      | shutdown => rw [operate, shutdown_of_stopped hr, Outcome.ofChange, hr]
      | snapshot | state machine => exact hr
      | advance span => rw [operate, advance_of_stopped hr]
    rw [hstopped] at running
    cases running
  | some r =>
    refine ⟨r, rfl, ?_⟩
    cases op with
    | submit batch =>
      have hsubmit : (m.operate (.submit batch)).monitor =
          ⟨m.now, some (r.ingest m.now batch).1⟩ := by
        simp only [operate, submit, reach, hr]
        rfl
      rw [hsubmit]
      exact .submit batch
    | snapshot => exact .snapshot
    | state machine => exact .state machine
    | shutdown =>
      have hshutdown : (m.operate .shutdown).monitor.registry = none := by
        simp only [operate, shutdown, reach, hr]
        rfl
      rw [hshutdown] at running
      cases running
    | advance span =>
      rw [operate, advance_of_running hr]
      exact .advance span

/-- The monitor after some operations, of which the latest is the first. -/
def after (m : Monitor) : List Operation → Monitor
  | [] => m
  | op :: ops => ((m.after ops).operate op).monitor

/-- What is kept by submissions and by time holds of a registry for as long as it runs. -/
theorem running_induction {m : Monitor} {P : Nat → Registry → Prop}
    (start : ∀ r, m.registry = some r → P m.now r)
    (ingest : ∀ now r batch, P now r → P now (r.ingest now batch).1)
    (advance : ∀ now r u, now ≤ u → P now r → P u (r.advance u).1) {ops : List Operation}
    {r : Registry} (running : (m.after ops).registry = some r) : P (m.after ops).now r := by
  induction ops generalizing r with
  | nil => exact start r running
  | cons op ops ih =>
    rw [after] at running ⊢
    obtain ⟨r₀, hr₀, turn⟩ := exists_turn (Option.isSome_of_eq_some running)
    have hbefore := ih hr₀
    generalize ((m.after ops).operate op).monitor = m' at turn running
    cases turn with
    | submit batch =>
      cases running
      exact ingest _ _ batch hbefore
    | snapshot | state =>
      cases hr₀.symm.trans running
      exact hbefore
    | advance span =>
      cases running
      exact advance _ _ _ (Nat.le_add_right _ _) hbefore

/-- The outcomes of some operations. The latest is the first. -/
def outcomes (m : Monitor) : List Operation → List Outcome
  | [] => []
  | op :: ops => (m.after ops).operate op :: m.outcomes ops

end Monitor

end Vigil

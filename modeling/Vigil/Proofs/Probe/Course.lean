import Vigil.Proofs.History.Unabridged
import Vigil.Snapshot

/-!
# The courses of a probe

A probe serves reports, ticks and queries in any order, while its history is trimmed at any time.
What it has served is recorded with the latest first. The name of a probe never changes, and its
history is one that the recorded reports and some trims lead to.
-/

namespace Vigil.Probe

inductive Act where
  /-- A report that comes in at the instant `now`. -/
  | report (now : Nat) (r : Report)
  /-- The timer fires. -/
  | tick
  /-- Somebody asks for the state. -/
  | query

/-- The probe after an act, and what the act gives rise to. -/
def serve (s : Settings) (p : Probe) : Act → Probe × List Event
  | .report now r => p.fold s now r.timestamp r.services
  | .tick => p.tick s
  | .query => (p, [])

/-- The acts that a probe has served, each with what it gave rise to. -/
abbrev Record := List (Act × List Event)

def Record.reports (record : Record) : List Report :=
  record.filterMap fun e =>
    match e.1 with
    | .report _ r => some r
    | .tick | .query => none

/-- The courses that a probe can take from its start on. A probe that is lost serves nothing. -/
inductive Course (s : Settings) (start : Probe) : Record → Probe → Prop where
  | start : Course s start [] start
  | serve {record p} (a : Act) (alive : p.lost = false) (h : Course s start record p) :
      Course s start ((a, (p.serve s a).2) :: record) (p.serve s a).1
  | trim {record p} (h : Course s start record p) : Course s start record p.trim

/-! ## Acts one by one -/

/-- The latest act of a course was served by a probe that was not lost. -/
theorem Course.served {s : Settings} {start p : Probe} {a : Act} {events : List Event}
    {record : Record} (h : Course s start ((a, events) :: record) p) :
    ∃ q, Course s start record q ∧ q.lost = false ∧ events = (q.serve s a).2 := by
  generalize hr : (a, events) :: record = full at h
  induction h with
  | start => cases hr
  | serve b alive h _ =>
    cases hr
    exact ⟨_, h, alive, rfl⟩
  | trim _ ih => exact ih hr

/-- What came before the later acts of a course is a course. -/
theorem Course.earlier {s : Settings} {start p : Probe} {later earlier : Record}
    (h : Course s start (later ++ earlier) p) : ∃ q, Course s start earlier q := by
  induction later generalizing p with
  | nil => exact ⟨p, h⟩
  | cons e later ih =>
    obtain ⟨q, hq, -, -⟩ := h.served
    exact ih hq

/-! ## What acts leave alone -/

/-- A tick on a rung changes the rung, the counter and what is shown, and nothing else. -/
theorem countTo_frame (now limit : Nat) (p : Probe) :
    ∃ rung counter shown publications, (p.countTo now limit).1 =
      { p with rung := rung, counter := counter, shown := shown, publications := publications } := by
  unfold countTo
  dsimp only
  split
  · exact ⟨_, _, _, _, rfl⟩
  · exact ⟨_, _, _, _, rfl⟩

theorem step_frame (t : Thresholds) (now : Nat) (p : Probe) :
    ∃ rung counter shown publications, (p.step t now).1 =
      { p with rung := rung, counter := counter, shown := shown, publications := publications } := by
  unfold step
  cases p.rung with
  | normal =>
    obtain ⟨rung, counter, shown, publications, h⟩ := countTo_frame now t.toFailed p.climb
    exact ⟨rung, counter, shown, publications, h⟩
  | degraded => exact countTo_frame now t.toFailed p
  | failed => exact countTo_frame now t.toLow p
  | alertedLow => exact countTo_frame now t.toHigh p
  | alertedHigh => exact ⟨_, _, _, _, rfl⟩

theorem tick_of_alive {p : Probe} (alive : p.lost = false) (s : Settings) :
    p.tick s = ((p.step s.thresholds p.deadline).1.arm s p.deadline,
      (p.step s.thresholds p.deadline).2) := by
  simp [tick, alive]

theorem name_serve {s : Settings} {p : Probe} (alive : p.lost = false) (a : Act) :
    (p.serve s a).1.name = p.name := by
  cases a with
  | report now r => rfl
  | tick =>
    obtain ⟨_, _, _, _, h⟩ := step_frame s.thresholds p.deadline p
    rw [serve, tick_of_alive alive, h]
    rfl
  | query => rfl

theorem history_tick {s : Settings} {p : Probe} (alive : p.lost = false) :
    (p.tick s).1.history = p.history := by
  obtain ⟨_, _, _, _, h⟩ := step_frame s.thresholds p.deadline p
  rw [tick_of_alive alive, h]
  rfl

/-! ## Along a course -/

theorem Course.name_eq {s : Settings} {start p : Probe} {record : Record}
    (h : Course s start record p) : p.name = start.name := by
  induction h with
  | start => rfl
  | serve a alive _ ih => rw [name_serve alive, ih]
  | trim _ ih => exact ih

/-- The history along a course is one that the reports lead to, with some trims in between. -/
theorem Course.history_eq {s : Settings} {start p : Probe} {record : Record}
    (h : Course s start record p) :
    ∃ ops, p.history = start.history.after ops ∧ History.stored ops = record.reports := by
  induction h with
  | start => exact ⟨[], rfl, rfl⟩
  | @serve record p a alive _ ih =>
    obtain ⟨ops, hops, hstored⟩ := ih
    cases a with
    | report now r =>
      refine ⟨.store r :: ops, ?_, ?_⟩
      · exact congrArg (fun h => h.store r.timestamp r.services) hops
      · exact congrArg (r :: ·) hstored
    | tick => exact ⟨ops, (history_tick alive).trans hops, hstored⟩
    | query => exact ⟨ops, hops, hstored⟩
  | trim _ ih =>
    obtain ⟨ops, hops, hstored⟩ := ih
    exact ⟨.trim :: ops, congrArg (fun h => h.trim.1) hops, hstored⟩

end Vigil.Probe

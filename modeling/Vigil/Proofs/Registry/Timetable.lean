import Mathlib.Data.Nat.Basic
import Mathlib.Order.Basic
import Vigil.Proofs.Registry.Passage

/-!
# The timetable of the dashboard

The snapshots for the dashboard are due at fixed instants, and each shows the probes as they are at
its instant. Time can therefore be taken in one go or in two: the registry ends up in the same
state, and the same things happen at the same instants.
-/

namespace Vigil

/-! ## Regular instants -/

/-- How many of the instants `first`, `first + period` and so on have come at the instant `u`.
Without a period there are no such instants. -/
def occasions (first period u : Nat) : Nat :=
  if period = 0 || u < first then 0 else (u - first) / period + 1

theorem occasions_zero (first u : Nat) : occasions first 0 u = 0 := by
  simp [occasions]

theorem occasions_of_lt {first period u : Nat} (h : u < first) : occasions first period u = 0 := by
  simp [occasions, h]

theorem lt_occasions_iff {first period u k : Nat} (h : 0 < period) :
    k < occasions first period u ↔ first + k * period ≤ u := by
  unfold occasions
  by_cases hu : u < first
  · simp [hu]
    omega
  · have hperiod : period ≠ 0 := by omega
    simp only [hu, hperiod, decide_false, Bool.or_false, Bool.false_eq_true, if_false]
    rw [Nat.lt_succ_iff, Nat.le_div_iff_mul_le h]
    omega

theorem occasions_add {u v : Nat} (h : u ≤ v) (first period : Nat) :
    occasions first period v =
      occasions first period u +
        occasions (first + occasions first period u * period) period v := by
  rcases Nat.eq_zero_or_pos period with rfl | hperiod
  · simp [occasions_zero]
  · apply eq_of_forall_lt_iff
    intro k
    rw [lt_occasions_iff hperiod]
    rcases Nat.lt_or_ge k (occasions first period u) with hk | hk
    · have hle := (lt_occasions_iff hperiod).1 hk
      omega
    · obtain ⟨j, rfl⟩ := Nat.exists_eq_add_of_le hk
      rw [Nat.add_lt_add_iff_left, lt_occasions_iff hperiod, Nat.add_mul, Nat.add_assoc]

/-- The first of the instants that have come, and those after it. -/
theorem occasions_succ {first period u : Nat} (hperiod : 0 < period) (h : first ≤ u) :
    occasions first period u = occasions (first + period) period u + 1 := by
  have hone : occasions first period first = 1 := by
    have hperiod' : period ≠ 0 := by omega
    simp [occasions, hperiod']
  rw [occasions_add h, hone, Nat.one_mul, Nat.add_comm]

namespace Registry

variable {r : Registry} {u v : Nat}

/-! ## Snapshots at their instants -/

/-- The time between two snapshots for the dashboard, or zero if there are none. -/
def period (r : Registry) : Nat :=
  r.settings.dashboardInterval.elim 0 Duration.millis

/-- The snapshot that is published at an instant. -/
def shownAt (r : Registry) (t : Nat) : Stamped Snapshot :=
  ⟨t, (r.tickUntil t).1.snapshot⟩

/-- The instants up to `u` at which snapshots are due. -/
def instants (u : Nat) (r : Registry) : List Nat :=
  r.nextSnapshot.elim [] fun next =>
    (List.range (occasions next r.period u)).map fun k => next + k * r.period

theorem snapshotsDue_eq_occasions (r : Registry) (u : Nat) :
    r.snapshotsDue u = r.nextSnapshot.elim 0 fun next => occasions next r.period u := by
  unfold snapshotsDue period
  cases r.nextSnapshot with
  | none => rfl
  | some next =>
    cases r.settings.dashboardInterval with
    | none => exact (occasions_zero next u).symm
    | some interval => rfl

theorem tickUntil_tickUntil (h : u ≤ v) (r : Registry) :
    ((r.tickUntil u).1.tickUntil v).1 = (r.tickUntil v).1 := by
  have hprobes := ((passage_tickUntil r u).trans h (passage_tickUntil _ v)).probes_eq
  exact congrArg (fun probes => { r with probes := probes }) hprobes

theorem publishTimes_snapshots {next : Nat} {interval : Duration}
    (hnext : r.nextSnapshot = some next)
    (hinterval : r.settings.dashboardInterval = some interval) (n : Nat) (past : List Trace) :
    (publishTimes n r past).1.nextSnapshot = some (next + n * interval.millis) ∧
      (publishTimes n r past).2.reverse.flatMap Trace.snapshots =
        past.reverse.flatMap Trace.snapshots ++
          (List.range n).map fun k => r.shownAt (next + k * interval.millis) := by
  induction n generalizing r next past with
  | zero => simp [publishTimes, hnext]
  | succ n ih =>
    have hnext' : r.publish.1.nextSnapshot = some (next + interval.millis) := by
      rw [publish_eq hnext hinterval]
    have hinterval' : r.publish.1.settings.dashboardInterval = some interval := by
      rw [publish_eq hnext hinterval]
      exact hinterval
    obtain ⟨hlast, hsnapshots⟩ := ih hnext' hinterval' (r.publish.2 :: past)
    have hshown : ∀ k, r.publish.1.shownAt (next + interval.millis + k * interval.millis) =
        r.shownAt (next + (k + 1) * interval.millis) := by
      intro k
      have hinstant : next + interval.millis + k * interval.millis =
          next + (k + 1) * interval.millis := by
        rw [Nat.succ_mul]
        omega
      have hticked := tickUntil_tickUntil (Nat.le_add_right next ((k + 1) * interval.millis)) r
      rw [hinstant, publish_eq hnext hinterval, shownAt, shownAt, ← hticked]
      rfl
    have hfirst : r.publish.2.snapshots = [r.shownAt next] := by
      rw [publish_eq hnext hinterval]
      rfl
    refine ⟨?_, ?_⟩
    · rw [publishTimes, hlast, Nat.succ_mul, Nat.add_assoc, Nat.add_comm interval.millis]
    · rw [publishTimes, hsnapshots, List.range_succ_eq_map]
      simp [hfirst, hshown]

theorem snapshots_advance (r : Registry) (u : Nat) :
    (r.advance u).2.snapshots = (r.instants u).map r.shownAt := by
  have hall : (r.advance u).2.snapshots =
      (publishTimes (r.snapshotsDue u) r []).2.reverse.flatMap Trace.snapshots := by
    simp [advance, Trace.join]
  rw [hall, snapshotsDue_eq_occasions, instants]
  cases hnext : r.nextSnapshot with
  | none => rfl
  | some next =>
    cases hinterval : r.settings.dashboardInterval with
    | none =>
      have hperiod : r.period = 0 := by rw [period, hinterval]; rfl
      simp [hperiod, occasions_zero, publishTimes]
    | some interval =>
      have hperiod : r.period = interval.millis := by rw [period, hinterval]; rfl
      have hsnapshots := (publishTimes_snapshots hnext hinterval
        (occasions next interval.millis u) []).2
      simp [hperiod, hsnapshots, Function.comp_def]

theorem nextSnapshot_advance (r : Registry) (u : Nat) :
    (r.advance u).1.nextSnapshot =
      r.nextSnapshot.map fun next => next + occasions next r.period u * r.period := by
  change (publishTimes (r.snapshotsDue u) r []).1.nextSnapshot = _
  rw [snapshotsDue_eq_occasions]
  cases hnext : r.nextSnapshot with
  | none => exact hnext
  | some next =>
    cases hinterval : r.settings.dashboardInterval with
    | none =>
      have hperiod : r.period = 0 := by rw [period, hinterval]; rfl
      simp [hperiod, occasions_zero, publishTimes, hnext]
    | some interval =>
      have hperiod : r.period = interval.millis := by rw [period, hinterval]; rfl
      simp [hperiod, (publishTimes_snapshots hnext hinterval _ []).1]

/-- What time does to the registry: its probes are taken to the end, and the next snapshot is the
first one after it. -/
theorem advance_eq (r : Registry) (u : Nat) :
    (r.advance u).1 =
      { (r.tickUntil u).1 with
        nextSnapshot := r.nextSnapshot.map fun next =>
          next + occasions next r.period u * r.period } := by
  have hpassage := passage_advance r u
  have heta : (r.advance u).1 =
      ⟨(r.advance u).1.settings, (r.advance u).1.probes, (r.advance u).1.nextSnapshot⟩ := rfl
  rw [heta, hpassage.settings_eq, hpassage.probes_eq, nextSnapshot_advance]
  rfl

/-! ## One span after the other -/

theorem instants_advance (h : u ≤ v) (r : Registry) :
    r.instants v = r.instants u ++ (r.advance u).1.instants v := by
  have hperiod : (r.advance u).1.period = r.period := by rw [advance_eq]; rfl
  rw [instants, instants, instants, hperiod, nextSnapshot_advance]
  cases r.nextSnapshot with
  | none => rfl
  | some next =>
    simp only [Option.elim_some, Option.map_some]
    rw [occasions_add h, List.range_add, List.map_append, List.map_map]
    congr 1
    apply List.map_congr_left
    intro k _
    simp only [Function.comp_apply, Nat.add_mul]
    omega

/-- The instants that are left over by a span lie after it. -/
theorem lt_of_mem_instants {t : Nat} (h : t ∈ (r.advance u).1.instants v) : u < t := by
  have hperiod : (r.advance u).1.period = r.period := by rw [advance_eq]; rfl
  rw [instants, hperiod, nextSnapshot_advance] at h
  cases hnext : r.nextSnapshot with
  | none => simp [hnext] at h
  | some next =>
    simp only [hnext, Option.map_some, Option.elim_some] at h
    obtain ⟨k, hk, rfl⟩ := List.mem_map.1 h
    rcases Nat.eq_zero_or_pos r.period with hzero | hpos
    · rw [List.mem_range, hzero, occasions_zero] at hk
      exact absurd hk (Nat.not_lt_zero k)
    · have hpast : ¬occasions next r.period u < occasions next r.period u := Nat.lt_irrefl _
      rw [lt_occasions_iff hpos] at hpast
      omega

theorem shownAt_advance {t : Nat} (h : u ≤ t) (r : Registry) :
    (r.advance u).1.shownAt t = r.shownAt t := by
  rw [shownAt, shownAt, ← tickUntil_tickUntil h r, advance_eq]
  rfl

/-- One course of events and then another. -/
def Trace.followedBy (trace trace' : Trace) : Trace :=
  ⟨trace.events ++ trace'.events, trace.snapshots ++ trace'.snapshots⟩

/-- The same snapshots in the same order, and the same events at the same instants. -/
structure Trace.Matches (trace trace' : Trace) : Prop where
  snapshots_eq : trace.snapshots = trace'.snapshots
  events_perm : trace.events.Perm trace'.events

/-- To take time in one go is the same as to take it in two. -/
structure AdditionSpec (r : Registry) (u v : Nat) : Prop where
  registry_eq : (r.advance v).1 = ((r.advance u).1.advance v).1
  trace : (r.advance v).2.Matches ((r.advance u).2.followedBy ((r.advance u).1.advance v).2)

theorem advance_advance (h : u ≤ v) (r : Registry) : AdditionSpec r u v := by
  refine ⟨?_, ?_, ?_⟩
  · have hperiod : (r.advance u).1.period = r.period := by rw [advance_eq]; rfl
    have hnext : (r.nextSnapshot.map fun next => next + occasions next r.period v * r.period) =
        (r.nextSnapshot.map fun next => next + occasions next r.period u * r.period).map
          fun next => next + occasions next r.period v * r.period := by
      cases r.nextSnapshot with
      | none => rfl
      | some next =>
        simp only [Option.map_some]
        rw [occasions_add h, Nat.add_mul, Nat.add_assoc]
    rw [advance_eq (r.advance u).1, hperiod, nextSnapshot_advance, advance_eq, hnext,
      ← tickUntil_tickUntil h r, advance_eq]
    rfl
  · have hlater : ∀ t ∈ (r.advance u).1.instants v,
        r.shownAt t = (r.advance u).1.shownAt t := by
      intro t ht
      exact (shownAt_advance (Nat.le_of_lt (lt_of_mem_instants ht)) r).symm
    rw [Trace.followedBy, snapshots_advance, snapshots_advance, snapshots_advance,
      instants_advance h, List.map_append, List.map_congr_left hlater]
  · have hhalves := (passage_advance r u).trans h (passage_advance _ v)
    exact (passage_advance r v).events_perm.trans hhalves.events_perm.symm

end Registry

end Vigil

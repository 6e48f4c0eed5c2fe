import Vigil.Proofs.Monitor.Product
import Vigil.Proofs.Traffic.Display

/-!
# What checked settings ask of the clock

A delay that passes the check is not zero, nor is the interval of a dashboard, but both may be as
long as 64 bits allow, and the clock does not reach that far. At each reading in the first half of
its reach the clock has room for all spans that are shorter than this half; with such spans no
worker is lost and the registry runs on. The check does not look at the sum of two thresholds
either, which may be too large for a word.
-/

namespace Vigil

namespace Duration

/-- The seconds that the clock has counted at half of its reach, `2 ^ 62` of them. -/
def halfway : Nat := 4611686018427387904

theorem two_mul_halfway : 2 * halfway = clockSeconds :=
  rfl

theorem reaches_of_early {reading : Nat} {d : Duration} (early : reading ≤ 1000 * halfway)
    (h : d.seconds < halfway) : reaches (reading + d.millis) = true := by
  have hwhole := two_mul_halfway
  unfold seconds at h
  unfold reaches
  rw [decide_eq_true_eq]
  omega

/-- The clock has room for a span at all early readings if it has at the last one of them. -/
theorem forall_early_reaches_iff (d : Duration) :
    (∀ reading ≤ 1000 * halfway, reaches (reading + d.millis) = true) ↔ d.seconds < halfway := by
  refine ⟨fun h => ?_, fun h reading early => reaches_of_early early h⟩
  have hwhole := two_mul_halfway
  have hlast := h (1000 * halfway) (Nat.le_refl _)
  unfold reaches at hlast
  rw [decide_eq_true_eq] at hlast
  unfold seconds
  omega

end Duration

/-! ## Checked sums -/

theorem Observation.evaluate?_eq_none_iff {o : Observation} {t : Thresholds} :
    o.evaluate? t = none ↔ o.state = .fail ∧ Positional.word64 ≤ t.toLow + t.toHigh := by
  have hboundary : t.highBoundary? = none ↔ Positional.word64 ≤ t.toLow + t.toHigh := by
    simp [Thresholds.highBoundary?]
  rw [← hboundary]
  simp [evaluate?]

theorem Observation.evaluate?_eq_some {o : Observation} {t : Thresholds}
    (h : o.evaluate? t ≠ none) : o.evaluate? t = some (o.evaluate t) := by
  unfold evaluate? at h ⊢
  split at h
  · exact absurd rfl h
  · rw [if_neg ‹_›]

/-! ## Checked settings -/

namespace Config

variable {c : Config} {s : Settings} {epoch : Nat}

theorem settings_eq_ok_iff :
    c.settings epoch = .ok s ↔
      c.delay? = some s.delay ∧ (∀ t ∈ c.namedThresholds, t.2 ≠ 0) ∧
        s.thresholds = c.thresholds ∧ s.dashboardInterval = c.interval? ∧ s.epoch = epoch := by
  have hfind : c.namedThresholds.find? (·.2 = 0) = none ↔ ∀ t ∈ c.namedThresholds, t.2 ≠ 0 := by
    simp [List.find?_eq_none]
  obtain ⟨delay, thresholds, interval?, start⟩ := s
  unfold settings
  cases hdelay : c.delay? with
  | none => simp
  | some d =>
    cases hzero : c.namedThresholds.find? (·.2 = 0) with
    | none =>
      have hall := hfind.1 hzero
      simp only [Except.ok.injEq, Settings.mk.injEq, Option.some.injEq]
      exact ⟨fun ⟨hd, ht, hi, he⟩ => ⟨hd, hall, ht.symm, hi.symm, he.symm⟩,
        fun ⟨hd, _, ht, hi, he⟩ => ⟨hd, ht.symm, hi.symm, he.symm⟩⟩
    | some t =>
      refine ⟨nofun, fun ⟨_, hall, _⟩ => ?_⟩
      rw [hfind.2 hall] at hzero
      cases hzero

theorem delay?_pos {d : Duration} (h : c.delay? = some d) : 0 < d.millis := by
  have hne := (Option.filter_eq_some_iff.1 h).2
  exact Nat.pos_of_ne_zero (of_decide_eq_true hne)

theorem interval?_pos {d : Duration} (h : c.interval? = some d) : 0 < d.millis := by
  unfold interval? at h
  split at h
  · cases h
    change 0 < 1000 * max 1 c.dashboardInterval
    omega
  · cases h

end Config

/-! ## Monitors with checked settings -/

namespace Monitor

/-- A registry starts to run unless the first snapshot is beyond the reach of the clock. -/
theorem isSome_start_iff {s : Settings} {dashboard : Bool}
    (hpos : ∀ interval ∈ s.dashboardInterval, 0 < interval.millis) :
    (Monitor.start s dashboard).registry.isSome ↔
      (dashboard = true → ∀ interval ∈ s.dashboardInterval, s.reaches interval.millis = true) := by
  cases dashboard with
  | false => simp [start]
  | true =>
    cases hinterval : s.dashboardInterval with
    | none => simp [start, hinterval]
    | some interval =>
      have hne : interval.millis ≠ 0 := Nat.ne_of_gt (hpos interval hinterval)
      cases hreach : s.reaches interval.millis <;> simp [start, hinterval, canKeep, hne, hreach]

end Monitor

namespace Config

open Duration (halfway reaches)
open Monitor (Operation)
open Positional (word64)

/-- What checked settings promise, and what else it takes so that nothing runs out of the clock or
out of a word. -/
structure ReachSpec (c : Config) (s : Settings) : Prop where
  delay_pos : 0 < s.delay.millis
  interval_pos : ∀ interval ∈ s.dashboardInterval, 0 < interval.millis
  thresholds_pos : 0 < s.thresholds.toFailed ∧ 0 < s.thresholds.toLow ∧ 0 < s.thresholds.toHigh
  /-- At any early reading a timer can be armed with the delay if it is not too long. -/
  delay_iff :
    (∀ reading ≤ 1000 * halfway, reaches (reading + s.delay.millis) = true) ↔
      s.delay.seconds < halfway
  interval_iff : ∀ interval ∈ s.dashboardInterval,
    ((∀ reading ≤ 1000 * halfway, reaches (reading + interval.millis) = true) ↔
      interval.seconds < halfway)
  /-- Where sums are checked, a worker comes through all evaluations if the thresholds are not too
  large. -/
  evaluation_iff :
    (∀ o : Observation, o.evaluate? s.thresholds = some (o.evaluate s.thresholds)) ↔
      s.thresholds.toLow + s.thresholds.toHigh < word64
  /-- With such a delay and such thresholds no worker is lost, in whatever order things happen,
  neither to its timer nor to a report that it has stored. -/
  workers : s.delay.seconds < halfway → s.thresholds.toLow + s.thresholds.toHigh < word64 →
    ∀ log σ, Traffic.Run s log σ → s.epoch + σ.now ≤ 1000 * halfway → ∀ p ∈ σ.posts,
      p.tended.probe.lost = false ∧ ∀ entry ∈ p.tended.probe.history.entries,
        ∀ o ∈ entry.services.values, (o.evaluate? s.thresholds).isSome
  /-- A worker is lost to its timer if the clock does not reach that far. -/
  lost_iff : ∀ ops machine p,
    ((Monitor.start s c.dashboard).after ops).probe? machine = some p →
      (p.lost = true ↔ s.reaches p.deadline = false)
  /-- The report of a service that fails is too much for a worker if the thresholds are too large.
  -/
  overflow_iff : ∀ o : Observation,
    o.evaluate? s.thresholds = none ↔
      o.state = .fail ∧ word64 ≤ s.thresholds.toLow + s.thresholds.toHigh
  running_iff : (Monitor.start s c.dashboard).registry.isSome ↔
    ∀ interval ∈ s.dashboardInterval, s.reaches interval.millis = true
  /-- With such an interval the registry runs, and goes on running. -/
  running : s.epoch ≤ 1000 * halfway →
    (∀ interval ∈ s.dashboardInterval, interval.seconds < halfway) →
      ∀ log m, Monitor.Run s c.dashboard log m → m.registry.isSome

/-- Checked settings are safe for all timers if no span is as long as half the reach of the clock,
and for all sums if the thresholds add up to a word, whatever the clock reads at the start. -/
theorem reach_of_settings {c : Config} {s : Settings} {epoch : Nat}
    (h : c.settings epoch = .ok s) : ReachSpec c s := by
  obtain ⟨hdelay, hthresholds, hteq, hieq, -⟩ := settings_eq_ok_iff.1 h
  have hinterval : ∀ interval ∈ s.dashboardInterval, 0 < interval.millis := fun interval hmem =>
    interval?_pos (hieq.symm.trans hmem)
  have hrunning : (Monitor.start s c.dashboard).registry.isSome ↔
      ∀ interval ∈ s.dashboardInterval, s.reaches interval.millis = true := by
    rw [Monitor.isSome_start_iff hinterval]
    refine ⟨fun hall interval hmem => hall ?_ interval hmem, fun hall _ => hall⟩
    by_contra hno
    rw [hieq, interval?, if_neg hno] at hmem
    cases hmem
  have hevaluates (hfits : s.thresholds.toLow + s.thresholds.toHigh < word64) (o : Observation) :
      o.evaluate? s.thresholds ≠ none := by
    rw [Ne, Observation.evaluate?_eq_none_iff]
    exact fun ⟨_, hlarge⟩ => Nat.not_le_of_lt hfits hlarge
  refine ⟨delay?_pos hdelay, hinterval, ?_, Duration.forall_early_reaches_iff _,
    fun interval _ => Duration.forall_early_reaches_iff interval, ?_, ?_, ?_,
    fun o => Observation.evaluate?_eq_none_iff, hrunning, ?_⟩
  · rw [hteq]
    simp only [namedThresholds, List.forall_mem_cons] at hthresholds
    omega
  · refine ⟨fun hall => ?_, fun hfits o => ?_⟩
    · by_contra hlarge
      have hfailing := Observation.evaluate?_eq_none_iff (o := ⟨.fail, 1⟩).2
        ⟨rfl, Nat.le_of_not_lt hlarge⟩
      rw [hall] at hfailing
      cases hfailing
    · exact Observation.evaluate?_eq_some (hevaluates hfits o)
  · intro hshort hfits log σ hrun hearly p hp
    refine ⟨?_, fun _ _ o _ => Option.isSome_iff_ne_none.2 (hevaluates hfits o)⟩
    obtain ⟨serial, hpost⟩ := List.mem_iff_getElem?.1 hp
    by_contra hlost
    have hout := hrun.lost hpost ((Bool.not_eq_false _).mp hlost)
    rw [Settings.reaches, ← Nat.add_assoc, Duration.reaches_of_early hearly hshort] at hout
    cases hout
  · intro ops machine p hp
    obtain ⟨r, hr, hfind⟩ := Option.bind_eq_some_iff.1 hp
    obtain ⟨xs, alerts, hcourse⟩ := Traffic.exists_course s c.dashboard hr
    rw [(Traffic.kept_of_course hcourse hfind).lost_eq, Bool.not_eq_true']
  · intro hstart hshort log m hrun
    exact hrun.registry_isSome (hrunning.2 fun interval hmem =>
      Duration.reaches_of_early hstart (hshort interval hmem))

/-- A delay in three units, and a worker that has folded a report, an hour after the clock began. -/
theorem reach_of_settings_of_ninety_minutes :
    let c : Config := { Config.default with inactivityDelay := " 1h29m60s " }
    let s : Settings := ⟨⟨5400000⟩, ⟨2, 3, 5⟩, some ⟨5000⟩, 3600000⟩
    let m := (Monitor.start s true).after [.submit [.report "web" .empty]]
    c.settings 3600000 = .ok s ∧ ReachSpec c s ∧
      (m.probe? "web").map (fun p => (p.deadline, p.lost)) = some (5400000, false) := by
  intro c s m
  have hsettings : c.settings 3600000 = .ok s := by decide +kernel
  exact ⟨hsettings, reach_of_settings hsettings, by decide +kernel⟩

/-- The longest spans and the largest thresholds that can be written pass the check. But the clock
does not reach that far: a worker is lost with its first report, and a registry does not even start
to run. And the thresholds have a sum that is no word: a worker does not come through the first
report of a service that fails. -/
theorem lost_with_longest_spans :
    let longDelay : Config := { Config.default with inactivityDelay := "18446744073709551615s" }
    let longInterval : Config := { Config.default with dashboardInterval := 18446744073709551615 }
    let largeSum : Config := { Config.default with thresholds := ⟨1, 1, 18446744073709551615⟩ }
    let failing : Observation := ⟨.fail, 1⟩
    let report : Operation := .submit [.report "web" .empty]
    (∃ s, longDelay.settings 0 = .ok s ∧
      (((Monitor.start s true).after [report]).probe? "web").map Probe.lost = some true) ∧
    (∃ s, longInterval.settings 0 = .ok s ∧ (Monitor.start s true).registry = none) ∧
      ∃ s, largeSum.settings 0 = .ok s ∧ failing.evaluate? s.thresholds = none := by
  intro longDelay longInterval largeSum failing report
  refine ⟨?_, ?_, ?_⟩
  · exact ⟨⟨⟨18446744073709551615000⟩, ⟨2, 3, 5⟩, some ⟨5000⟩, 0⟩, by decide +kernel,
      by decide +kernel⟩
  · exact ⟨⟨⟨30000⟩, ⟨2, 3, 5⟩, some ⟨18446744073709551615000⟩, 0⟩, by decide +kernel, rfl⟩
  · exact ⟨⟨⟨30000⟩, ⟨1, 1, 18446744073709551615⟩, some ⟨5000⟩, 0⟩, by decide +kernel,
      by decide +kernel⟩

end Config

end Vigil

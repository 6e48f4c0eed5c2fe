import Vigil.Proofs.Monitor.Operation
import Vigil.Proofs.Registry.Timers

/-!
# Spans of time

A span of time may be cut in two anywhere: the machines, their probes and all timers end up the
same, and the same events and snapshots come at the same instants. This is so for the monitor, which
takes each probe to the end at once, and for timers that fire one after the other.
-/

namespace Vigil

namespace Probe

/-- As long as the clock reaches, the deadlines of a probe are a delay apart. -/
theorem deadline_ticks {s : Settings} {p : Probe} {n : Nat}
    (h : (p.ticks s n []).1.lost = false) :
    (p.ticks s n []).1.deadline = p.deadline + n * s.delay.millis := by
  induction n generalizing p with
  | zero => simp [ticks]
  | succ n ih =>
    rw [ticks_succ] at h ⊢
    cases hlost : p.lost with
    | true =>
      have htick : (p.tick s).1 = p := by rw [tick, if_pos hlost]
      rw [htick, ticks_of_lost hlost, hlost] at h
      cases h
    | false =>
      have hlater := ih h
      dsimp only
      rw [hlater, deadline_tick hlost, Nat.succ_mul]
      omega

end Probe

namespace Monitor

open Registry (Trace Fires Passes)

/-- A monitor that is taken over a span of time at once, and over its two parts. -/
structure SpanSpec (m : Monitor) (a b : Nat) : Prop where
  monitor_eq : (m.advance (a + b)).1 = ((m.advance a).1.advance b).1
  trace : (m.advance (a + b)).2.Matches ((m.advance a).2.followedBy ((m.advance a).1.advance b).2)

/-- The timers of a registry that fire one after the other, over a span of time and over its two
parts. -/
structure FiringSpec (m : Monitor) (a b : Nat) (r : Registry) : Prop where
  ends : Acc (fun r' r => ∃ trace, Fires (m.now + (a + b)) r trace r') r
  arrives : ∃ trace r', Passes (m.now + (a + b)) r trace r'
  whole : ∀ trace r', Passes (m.now + (a + b)) r trace r' →
    (m.advance (a + b)).1.registry = some r' ∧ trace.Matches (m.advance (a + b)).2
  parts : ∀ trace r' trace' r'', Passes (m.now + a) r trace r' →
    Passes (m.now + (a + b)) r' trace' r'' →
      (m.advance (a + b)).1.registry = some r'' ∧
        (trace.followedBy trace').Matches (m.advance (a + b)).2

theorem advance_parts (m : Monitor) (a b : Nat) : SpanSpec m a b := by
  have hsum : m.now + a + b = m.now + (a + b) := Nat.add_assoc _ _ _
  cases hr : m.registry with
  | none =>
    have hlater : (m.advance a).1.registry = none := by rw [advance_of_stopped hr]
    refine ⟨?_, ?_⟩
    · rw [advance_of_stopped hlater, advance_of_stopped hr, advance_of_stopped hr, hsum]
    · rw [advance_of_stopped hlater, advance_of_stopped hr, advance_of_stopped hr]
      exact ⟨rfl, .refl _⟩
  | some r =>
    have hlater : (m.advance a).1.registry = some (r.advance (m.now + a)).1 := by
      rw [advance_of_running hr]
    have hle : m.now + a ≤ m.now + (a + b) := by omega
    obtain ⟨hregistry, htrace⟩ := Registry.advance_advance hle r
    refine ⟨?_, ?_⟩
    · rw [advance_of_running hlater, advance_of_running hr, advance_of_running hr, hsum, hregistry]
    · rw [advance_of_running hlater, advance_of_running hr, advance_of_running hr, hsum]
      exact htrace

theorem fires_through {m : Monitor} {r : Registry} (hr : m.registry = some r) (a b : Nat)
    (paced : r.Paced) (apart : r.Apart (m.now + (a + b))) : FiringSpec m a b r := by
  have hwhole : ∀ trace r', Passes (m.now + (a + b)) r trace r' →
      (m.advance (a + b)).1.registry = some r' ∧ trace.Matches (m.advance (a + b)).2 := by
    intro trace r' h
    obtain ⟨hregistry, htrace⟩ := h.eq_advance paced apart
    rw [advance_of_running hr]
    exact ⟨congrArg some hregistry.symm, htrace⟩
  refine ⟨Registry.acc_fires _ paced, Registry.exists_passes _ paced, hwhole, ?_⟩
  intro trace r' trace' r'' h h'
  exact hwhole _ _ (h.trans (by omega) h')

/-- To take the clock on by `a + b` is to take it on by `a` and then by `b`. Probes and dashboard
are asked not to meet only where timers fire one by one, as the tick and the snapshot of one instant
may then come in either order. -/
theorem advance_add (m : Monitor) (a b : Nat) :
    SpanSpec m a b ∧ ∀ r, m.registry = some r → r.Paced → r.Apart (m.now + (a + b)) →
      FiringSpec m a b r :=
  ⟨advance_parts m a b, fun _ hr paced apart => fires_through hr a b paced apart⟩

/-- Two machines that tick out of step, on a dashboard of its own pace. The first part ends at the
very instant of a tick. -/
theorem advance_add_of_two_machines :
    ∃ (m : Monitor) (r : Registry), m.registry = some r ∧ r.Paced ∧
      r.Apart (m.now + (700 + 2000)) ∧ SpanSpec m 700 2000 ∧ FiringSpec m 700 2000 r ∧
      (m.advance 2700).2.snapshots.map Stamped.instant = [700, 1400, 2100, 2800] ∧
      (r.probes.values.map Probe.deadline = [1000, 1300]) := by
  let s : Settings := ⟨⟨1000⟩, ⟨1, 1, 1⟩, some ⟨700⟩, 0⟩
  let report (machine : String) : Submission := .report machine (.ofList [("nginx", "pass")])
  let r : Registry :=
    ((((Registry.start s true 0).ingest 0 [report "web"]).1.advance 300).1.ingest 300
      [report "mail"]).1
  let m : Monitor := ⟨300, some r⟩
  have hsettings : r.settings = s := by decide +kernel
  have hdeadlines : ∀ p ∈ r.probes.values, p.deadline = 1000 ∨ p.deadline = 1300 := by
    decide +kernel
  have hfirst : r.nextSnapshot = some 700 := by decide +kernel
  have paced : r.Paced := by
    refine ⟨by rw [hsettings]; decide, fun interval hinterval => ?_⟩
    rw [hsettings] at hinterval
    cases hinterval
    decide
  have apart : r.Apart (300 + (700 + 2000)) := by
    intro machine p next hp hnext j k alive hmeet
    have hdeadline := hdeadlines p (Roster.mem_values_of_find? hp)
    have hperiod : r.period = 700 := by rw [Registry.period, hsettings]; rfl
    have hdelay : r.settings.delay.millis = 1000 := by rw [hsettings]
    rw [hfirst] at hnext
    cases hnext
    rw [Probe.deadline_ticks alive, hperiod, hdelay] at hmeet
    rw [hperiod]
    omega
  exact ⟨m, r, rfl, paced, apart, (advance_add m 700 2000).1,
    (advance_add m 700 2000).2 r rfl paced apart, by decide +kernel, by decide +kernel⟩

end Monitor

end Vigil

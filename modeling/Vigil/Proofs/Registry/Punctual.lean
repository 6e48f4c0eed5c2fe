import Vigil.Proofs.Probe.Ladder
import Vigil.Proofs.Registry.Submission

/-!
# Punctuality

Whenever nothing is going on, a probe whose timer is armed has ticked as often as the delay has
passed since its machine was last heard of. Where the machine stands on the ladder can therefore be
told by the clock.
-/

namespace Vigil

namespace Probe

variable {s : Settings} {now u n : Nat} {p : Probe}

/-- A probe that has ticked `n` times since its machine was last heard of. -/
structure Ticked (s : Settings) (n : Nat) (p : Probe) : Prop where
  rung_eq : (p.rung, p.counter) = ladder s.thresholds n
  deadline_eq : p.deadline = p.heard + (n + 1) * s.delay.millis

/-- A probe that has ticked as often as the delay has passed since its machine was last heard of. -/
structure Punctual (s : Settings) (now : Nat) (p : Probe) : Prop where
  heard_le : p.heard ≤ now
  ticked : p.Ticked s ((now - p.heard) / s.delay.millis)

theorem Ticked.tick (h : p.Ticked s n) (alive : p.lost = false) :
    (p.tick s).1.Ticked s (n + 1) ∧ (p.tick s).1.heard = p.heard := by
  have hrung := (step_ladder h.rung_eq p.deadline).rung_eq
  have hdeadline := deadline_tick (s := s) alive
  obtain ⟨rung, counter, shown, publications, hframe⟩ := step_frame s.thresholds p.deadline p
  have hheard : (p.tick s).1.heard = p.heard := by
    rw [tick_of_alive alive, hframe]
    rfl
  refine ⟨⟨?_, ?_⟩, hheard⟩
  · rw [tick_of_alive alive]
    exact hrung
  · rw [hdeadline, hheard, h.deadline_eq, Nat.succ_mul (n + 1), Nat.add_assoc]

theorem punctual_start (s : Settings) (machine : String) (now : Nat) (history : History) :
    (Probe.start s machine now history).Punctual s now := by
  have hnone : (now - now) / s.delay.millis = 0 := by rw [Nat.sub_self, Nat.zero_div]
  refine ⟨Nat.le_refl now, ?_⟩
  change Ticked s ((now - now) / s.delay.millis) _
  rw [hnone]
  refine ⟨rfl, ?_⟩
  rw [Nat.zero_add, Nat.one_mul]
  rfl

theorem punctual_report (s : Settings) (now : Nat) (timestamp : Int) (services : Roster String)
    (p : Probe) : (p.report s now timestamp services).1.Punctual s now := by
  have hstart := punctual_start s p.name now p.history
  exact ⟨hstart.heard_le, hstart.ticked.rung_eq, hstart.ticked.deadline_eq⟩

/-- A probe that is not lost when the clock has been taken to an instant has made all its ticks. -/
theorem Ticked.advance (h : p.Ticked s n) (begun : p.heard + n * s.delay.millis ≤ u)
    (hdelay : 0 < s.delay.millis) (alive : (p.advance s u).1.lost = false) :
    (p.advance s u).1.Punctual s u := by
  refine advance_induction
    (P := fun p q _ => ∀ n, p.Ticked s n → p.heard + n * s.delay.millis ≤ u → q.lost = false →
      q.Punctual s u) ?_ ?_ ?_ p n h begun alive
  · intro p hidle n h begun _
    have hahead := lt_deadline_of_firings hdelay hidle
    rw [h.deadline_eq] at hahead
    have hcount : (u - p.heard) / s.delay.millis = n :=
      Nat.div_eq_of_lt_le (by omega) (by omega)
    refine ⟨Nat.le_trans (Nat.le_add_right _ _) begun, ?_⟩
    rw [hcount]
    exact h
  · intro p hlost n _ _ alive
    rw [hlost] at alive
    cases alive
  · intro p m hrunning hm ih n h _ alive
    obtain ⟨hticked, hheard⟩ := h.tick hrunning
    have hdue := deadline_le_of_firings hm
    rw [h.deadline_eq, ← hheard] at hdue
    exact ih (n + 1) hticked hdue alive

theorem Punctual.advance (h : p.Punctual s now) (later : now ≤ u)
    (alive : (p.advance s u).1.lost = false) : (p.advance s u).1.Punctual s u := by
  have hbegun := Nat.div_mul_le_self (now - p.heard) s.delay.millis
  have hheard := h.heard_le
  rcases Nat.eq_zero_or_pos s.delay.millis with hzero | hpos
  · have hidle : p.firings s u = 0 := by simp [firings, hzero]
    have hticked := h.ticked
    rw [hzero, Nat.div_zero] at hticked
    rw [advance_idle hidle]
    refine ⟨Nat.le_trans hheard later, ?_⟩
    rw [hzero, Nat.div_zero]
    exact hticked
  · exact h.ticked.advance (by omega) hpos alive

end Probe

namespace Registry

variable {s : Settings} {r r' : Registry} {now u : Nat}

/-- All probes of a registry that are not lost are punctual. -/
structure Punctual (s : Settings) (now : Nat) (r : Registry) : Prop where
  settings_eq : r.settings = s
  probes : ∀ machine p, r.probes.find? machine = some p → p.lost = false → p.Punctual s now

theorem punctual_start (s : Settings) (dashboard : Bool) (now : Nat) :
    (Registry.start s dashboard now).Punctual s now :=
  ⟨rfl, nofun⟩

theorem Reworked.punctual (h : Reworked now r r') (punctual : r.Punctual s now) :
    r'.Punctual s now := by
  induction h with
  | refl => exact punctual
  | register r machine =>
    obtain ⟨hsettings, hprobes⟩ := punctual
    refine ⟨settings_register.trans hsettings, fun other p hp alive => ?_⟩
    rw [find?_register, probeFor, hsettings] at hp
    split at hp
    · cases hfound : r.probes.find? machine with
      | none =>
        rw [hfound] at hp
        cases hp
        exact Probe.punctual_start s machine now .empty
      | some q =>
        rw [hfound] at hp
        cases hp
        exact hprobes machine q hfound alive
    · exact hprobes other p hp alive
  | fold r machine services =>
    obtain ⟨hsettings, hprobes⟩ := punctual
    refine ⟨(settings_fold services).trans hsettings, fun other p hp alive => ?_⟩
    cases hfound : r.probes.find? machine with
    | none =>
      rw [Registry.fold, hfound] at hp
      exact hprobes other p hp alive
    | some q =>
      rw [find?_fold services hfound, hsettings, Probe.receive] at hp
      split at hp
      · split at hp
        · cases hp
          exact hprobes machine q hfound alive
        · cases hp
          exact Probe.punctual_report s now _ services q
      · exact hprobes other p hp alive
  | erase r machine =>
    refine ⟨punctual.settings_eq, fun other p hp alive => ?_⟩
    rw [Roster.find?_erase] at hp
    split at hp
    · cases hp
    · exact punctual.probes other p hp alive
  | trans _ _ ih ih' => exact ih' (ih punctual)

theorem Punctual.advance (h : r.Punctual s now) (later : now ≤ u) :
    (r.advance u).1.Punctual s u := by
  obtain ⟨hsettings, hprobes⟩ := h
  have hpassage := passage_advance r u
  refine ⟨hpassage.settings_eq.trans hsettings, fun machine p hp alive => ?_⟩
  rw [hpassage.probes_eq, Roster.find?_map, hsettings] at hp
  obtain ⟨q, hq, rfl⟩ := Option.map_eq_some_iff.1 hp
  cases hlost : q.lost with
  | true =>
    rw [Probe.advance_of_lost hlost, hlost] at alive
    cases alive
  | false => exact (hprobes machine q hq hlost).advance later alive

end Registry

end Vigil

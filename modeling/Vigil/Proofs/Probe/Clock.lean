import Vigil.Proofs.Probe.Course

/-!
# Probes on a clock

To take a probe to an instant and from there to a later one is the same as to take it to the later
one at once. The ticks in between are taken one at a time: the timer of a probe that ticks is armed
a delay later.
-/

namespace Vigil

theorem Settings.reaches_of_le {s : Settings} {u v : Nat} (h : u ≤ v) (hv : s.reaches v = true) :
    s.reaches u = true := by
  unfold Settings.reaches Duration.reaches at hv ⊢
  rw [decide_eq_true_eq] at hv ⊢
  have hseconds := Nat.div_le_div_right (c := 1000) (Nat.add_le_add_left h s.epoch)
  omega

theorem Settings.not_reaches_of_le {s : Settings} {u v : Nat} (h : u ≤ v)
    (hu : s.reaches u = false) : s.reaches v = false := by
  apply Bool.eq_false_iff.2
  intro hv
  rw [reaches_of_le h hv] at hu
  cases hu

namespace Probe

variable {s : Settings} {p : Probe} {u : Nat}

/-! ## Ticks -/

theorem ticks_past (n : Nat) (p : Probe) (past : List (Stamped Event)) :
    p.ticks s n past = ((p.ticks s n []).1, (p.ticks s n []).2 ++ past) := by
  induction n generalizing p past with
  | zero => rfl
  | succ n ih =>
    simp only [ticks]
    rw [ih _ (_ ++ past), ih _ (_ ++ [])]
    simp only [List.append_assoc, List.nil_append]

theorem ticks_of_lost (hlost : p.lost = true) (n : Nat) : p.ticks s n [] = (p, []) := by
  induction n with
  | zero => rfl
  | succ n ih =>
    have htick : p.tick s = (p, []) := by rw [tick, if_pos hlost]
    simp only [ticks, htick]
    exact ih

/-- What a single tick gives rise to, and when. -/
def tickEvents (s : Settings) (p : Probe) : List (Stamped Event) :=
  (p.tick s).2.map (Stamped.mk p.deadline)

theorem ticks_succ (n : Nat) (p : Probe) :
    p.ticks s (n + 1) [] =
      (((p.tick s).1.ticks s n []).1,
        ((p.tick s).1.ticks s n []).2 ++ (p.tickEvents s).reverse) := by
  simp only [ticks, tickEvents]
  rw [ticks_past, List.append_nil]

/-! ## From one instant to another -/

/-- Nothing happens to a probe whose timer is not due. -/
theorem advance_idle (h : p.firings s u = 0) : p.advance s u = (p, []) := by
  simp [advance, h, ticks]

theorem advance_of_lost (hlost : p.lost = true) : p.advance s u = (p, []) := by
  simp [advance, ticks_of_lost hlost]

/-- No timer is due before its deadline. -/
theorem firings_of_lt (h : u < p.deadline) : p.firings s u = 0 := by
  simp [firings, h]

/-- Right after its timer has been armed, a probe has nothing to do. -/
theorem firings_arm (p : Probe) : (p.arm s u).firings s u = 0 := by
  by_cases hdelay : s.delay.millis = 0
  · simp [firings, hdelay]
  · apply firings_of_lt
    change u < u + s.delay.millis
    omega

theorem deadline_tick (alive : p.lost = false) :
    (p.tick s).1.deadline = p.deadline + s.delay.millis := by
  rw [tick_of_alive alive]
  rfl

/-- Of the instants from `d` on that are `k` apart, one less is left after the first one. -/
theorem due_next {d k n : Nat} (h : (if k = 0 || u < d then 0 else (u - d) / k + 1) = n + 1) :
    d ≤ u ∧ (if k = 0 || u < d + k then 0 else (u - (d + k)) / k + 1) = n := by
  split at h
  · cases h
  · rename_i hdue
    rw [Bool.or_eq_true, decide_eq_true_eq, decide_eq_true_eq] at hdue
    have hk : 0 < k := by omega
    refine ⟨by omega, ?_⟩
    by_cases hlast : u < d + k
    · have hzero : (u - d) / k = 0 := Nat.div_eq_of_lt (by omega)
      rw [if_pos (by simp [hlast])]
      omega
    · have hsub : u - (d + k) = u - d - k := by omega
      have hdiv := Nat.div_eq_sub_div hk (show k ≤ u - d by omega)
      rw [if_neg (by simp; omega), hsub]
      omega

theorem lt_deadline_of_firings (hdelay : 0 < s.delay.millis) (h : p.firings s u = 0) :
    u < p.deadline := by
  unfold firings at h
  split at h
  · rename_i hdue
    rw [Bool.or_eq_true, decide_eq_true_eq, decide_eq_true_eq] at hdue
    omega
  · exact absurd h (Nat.succ_ne_zero _)

theorem deadline_le_of_firings {n : Nat} (h : p.firings s u = n + 1) : p.deadline ≤ u := by
  unfold firings at h
  exact (due_next h).1

/-- Each tick takes one from the number of times that the timer fires. -/
theorem firings_tick {n : Nat} (alive : p.lost = false) (h : p.firings s u = n + 1) :
    (p.tick s).1.firings s u = n := by
  unfold firings at h ⊢
  rw [deadline_tick alive]
  exact (due_next h).2

/-- A timer that is due at an instant is due at a later one. -/
theorem firings_pos_of_le {v n : Nat} (h : u ≤ v) (hu : p.firings s u = n + 1) :
    ∃ m, p.firings s v = m + 1 := by
  unfold firings at hu ⊢
  split at hu
  · cases hu
  · rename_i hdue
    rw [Bool.or_eq_true, decide_eq_true_eq, decide_eq_true_eq] at hdue
    rw [if_neg (by simp; omega)]
    exact ⟨_, rfl⟩

/-- A probe whose timer is due ticks, and goes on from there. -/
theorem advance_due {n : Nat} (alive : p.lost = false) (h : p.firings s u = n + 1) :
    p.advance s u =
      (((p.tick s).1.advance s u).1, p.tickEvents s ++ ((p.tick s).1.advance s u).2) := by
  simp only [advance]
  rw [h, ticks_succ, firings_tick alive h]
  simp only [List.reverse_append, List.reverse_reverse]

/-- Time takes a probe from tick to tick, until its timer is not due any more or it is lost. -/
theorem advance_induction {P : Probe → Probe → List (Stamped Event) → Prop}
    (idle : ∀ p, p.firings s u = 0 → P p p []) (gone : ∀ p, p.lost = true → P p p [])
    (tick : ∀ p n, p.lost = false → p.firings s u = n + 1 →
      P (p.tick s).1 ((p.tick s).1.advance s u).1 ((p.tick s).1.advance s u).2 →
        P p ((p.tick s).1.advance s u).1 (p.tickEvents s ++ ((p.tick s).1.advance s u).2))
    (p : Probe) : P p (p.advance s u).1 (p.advance s u).2 := by
  generalize hn : p.firings s u = n
  induction n generalizing p with
  | zero =>
    rw [advance_idle hn]
    exact idle p hn
  | succ n ih =>
    cases hlost : p.lost with
    | true =>
      rw [advance_of_lost hlost]
      exact gone p hlost
    | false =>
      rw [advance_due hlost hn]
      exact tick p n hlost hn (ih (p.tick s).1 (firings_tick hlost hn))

/-- A clock that is taken further does the rest of the way only. -/
theorem advance_advance {v : Nat} (h : u ≤ v) (p : Probe) :
    p.advance s v =
      (((p.advance s u).1.advance s v).1,
        (p.advance s u).2 ++ ((p.advance s u).1.advance s v).2) := by
  refine advance_induction
    (P := fun p q events => p.advance s v = ((q.advance s v).1, events ++ (q.advance s v).2))
    (fun _ _ => rfl) (fun _ _ => rfl) ?_ p
  intro p n alive hn ih
  obtain ⟨m, hm⟩ := firings_pos_of_le h hn
  rw [advance_due alive hm, ih, List.append_assoc]

theorem name_advance (p : Probe) : (p.advance s u).1.name = p.name := by
  refine advance_induction (P := fun p q _ => q.name = p.name) (fun _ _ => rfl) (fun _ _ => rfl)
    ?_ p
  intro p n alive _ ih
  exact ih.trans (name_serve (s := s) alive .tick)

/-! ## Alerts of the machine -/

theorem alert_of_mem_step {t : Thresholds} {now : Nat} {a : Alert}
    (h : .alert a ∈ (p.step t now).2) : a.name = p.name := by
  unfold step countTo silence alert at h
  dsimp only at h
  cases hrung : p.rung <;> rw [hrung] at h <;> dsimp only at h <;> split at h <;> simp at h
  · rw [h]
  · rw [h]

theorem alert_of_mem_advance {e : Stamped Event} {a : Alert} (he : e ∈ (p.advance s u).2)
    (ha : e.value = .alert a) : a.name = p.name := by
  revert he
  refine advance_induction (P := fun p _ events => e ∈ events → a.name = p.name) (fun _ _ => nofun)
    (fun _ _ => nofun) ?_ p
  intro p n alive _ ih he
  rcases List.mem_append.1 he with he | he
  · obtain ⟨event, hevent, rfl⟩ := List.mem_map.1 he
    change event = .alert a at ha
    rw [tick_of_alive alive, ha] at hevent
    exact alert_of_mem_step hevent
  · rw [ih he]
    exact name_serve (s := s) alive .tick

end Probe

end Vigil

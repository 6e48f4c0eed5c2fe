import Vigil.Proofs.Duration.Component

/-!
# Reading durations

What is read from the components of a duration is their sum, and nothing is read from a text that no
components write.
-/

namespace Vigil.Duration

variable {t n : Nat} {v : Option Nat} {c : Component} {cs : List Component} {chars : List Char}

/-! ## Sums -/

/-- The sum of components on top of `t`, if it is within bounds all along. -/
def sum? (t : Nat) : List Component → Option Nat
  | [] => some t
  | c :: cs => do sum? (← add? t (← c.unit.span? c.value)) cs

theorem span?_eq_some_iff : c.unit.span? c.value = some n ↔ c.Fits ∧ c.millis = n := by
  have hfits : c.Fits ↔ c.value < Positional.word64 ∧
      (c.unit = .hour → c.value * 3600 < Positional.word64) ∧
        (c.unit = .minute → c.value * 60 < Positional.word64) :=
    ⟨fun h => ⟨h.1, h.2, h.3⟩, fun h => ⟨h.1, h.2.1, h.2.2⟩⟩
  rw [hfits, Component.millis]
  cases c.unit <;> simp [Unit.span?, Unit.millis] <;> omega

theorem add?_eq_some_iff {span : Nat} :
    add? t span = some n ↔ n / 1000 < Positional.word64 ∧ t + span = n := by
  unfold add?
  split
  · rename_i hlt
    rw [Option.some.injEq]
    refine ⟨?_, And.right⟩
    rintro rfl
    exact ⟨hlt, rfl⟩
  · rename_i hge
    refine ⟨nofun, ?_⟩
    rintro ⟨hlt, rfl⟩
    exact absurd hlt hge

/-- The bound is met all along if it is met by the whole sum. -/
theorem sum?_eq_some_iff (ht : t / 1000 < Positional.word64) :
    sum? t cs = some n ↔
      (∀ c ∈ cs, c.Fits) ∧ n / 1000 < Positional.word64 ∧ t + total cs = n := by
  induction cs generalizing t with
  | nil =>
    rw [sum?, total, Nat.add_zero, Option.some.injEq]
    constructor
    · rintro rfl
      exact ⟨by simp, ht, rfl⟩
    · exact fun h => h.2.2
  | cons c cs ih =>
    rw [sum?, Option.bind_eq_bind, Option.bind_eq_some_iff, List.forall_mem_cons, total]
    constructor
    · rintro ⟨span, hspan, hrest⟩
      obtain ⟨next, hnext, hrest⟩ := Option.bind_eq_some_iff.1 hrest
      obtain ⟨hfits, rfl⟩ := span?_eq_some_iff.1 hspan
      obtain ⟨hlt, rfl⟩ := add?_eq_some_iff.1 hnext
      obtain ⟨hall, hn, rfl⟩ := (ih hlt).1 hrest
      exact ⟨⟨hfits, hall⟩, hn, by omega⟩
    · rintro ⟨⟨hfits, hall⟩, hn, rfl⟩
      have hlt : (t + c.millis) / 1000 < Positional.word64 := by omega
      refine ⟨c.millis, span?_eq_some_iff.2 ⟨hfits, rfl⟩, Option.bind_eq_some_iff.2 ?_⟩
      exact ⟨_, add?_eq_some_iff.2 ⟨hlt, rfl⟩, (ih hlt).2 ⟨hall, hn, by omega⟩⟩

/-! ## Components are read -/

theorem total?_digit {d : Char} (h : Text.IsDigit d) (t : Nat) (v : Option Nat)
    (chars : List Char) :
    total? t v (d :: chars) = total? t (some (10 * v.getD 0 + (d.toNat - '0'.toNat))) chars := by
  have hm : d ≠ 'm' := by
    rintro rfl
    exact absurd h (by decide)
  have hh : d ≠ 'h' := by
    rintro rfl
    exact absurd h (by decide)
  have hs : d ≠ 's' := by
    rintro rfl
    exact absurd h (by decide)
  rw [total?, Text.digit?_of_isDigit h]
  · rfl
  all_goals simp_all

theorem total?_digits {ds : List Char} (h : ∀ d ∈ ds, Text.IsDigit d) (t value : Nat)
    (chars : List Char) :
    total? t (some value) (ds ++ chars) =
      total? t (some ((ds.map fun d => d.toNat - '0'.toNat).foldl (fun n d => n * 10 + d) value))
        chars := by
  induction ds generalizing value with
  | nil => rfl
  | cons d ds ih =>
    rw [List.forall_mem_cons] at h
    rw [List.cons_append, total?_digit h.1, ih h.2, Option.getD_some, Nat.mul_comm]
    rfl

theorem total?_numeral (c : Component) (t : Nat) (chars : List Char) :
    total? t none (c.digits ++ chars) = total? t (some c.value) chars := by
  obtain ⟨d, ds, hdigits, hd⟩ := c.exists_cons
  have hall := c.numeral.digits
  rw [Component.value, Text.decimal, hdigits] at *
  rw [List.forall_mem_cons] at hall
  rw [List.cons_append, total?_digit hd, total?_digits hall.2]
  simp [Positional.value]

theorem total?_unit (u : Unit) (t value : Nat) (cs : List Component) :
    total? t (some value) (u.symbol ++ written cs) =
      (u.span? value).bind fun span =>
        (add? t span).bind fun next => total? next none (written cs) := by
  have hhead := head?_written_ne cs
  generalize written cs = rest at hhead
  cases u with
  | minute =>
    cases rest with
    | nil => simp [Unit.symbol, total?]
    | cons d rest =>
      have hd : d ≠ 's' := by simpa using hhead
      simp [Unit.symbol, total?, hd]
  | hour | second | milli => simp [Unit.symbol, total?]

theorem total?_written (t : Nat) (cs : List Component) :
    total? t none (written cs) = sum? t cs := by
  induction cs generalizing t with
  | nil => rfl
  | cons c cs ih =>
    rw [written_cons, total?_numeral, total?_unit, sum?]
    simp only [ih]
    rfl

/-! ## Nothing else is read -/

theorem exists_of_unit {u : Unit}
    (h : (do total? (← add? t (← u.span? (← v))) none chars) = some n) :
    v ≠ none ∧ ∃ next, total? next none chars = some n := by
  obtain ⟨value, hv, hrest⟩ := Option.bind_eq_some_iff.1 h
  obtain ⟨span, -, hrest⟩ := Option.bind_eq_some_iff.1 hrest
  obtain ⟨next, -, hrest⟩ := Option.bind_eq_some_iff.1 hrest
  exact ⟨by simp [hv], next, hrest⟩

theorem exists_written_unit {pre : List Char} (hpre : ∀ d ∈ pre, Text.IsDigit d) (hne : pre ≠ [])
    (u : Unit) (h : ∃ cs, [] ++ chars = written cs) :
    ∃ cs, pre ++ (u.symbol ++ chars) = written cs := by
  obtain ⟨cs, hcs⟩ := h
  rw [List.nil_append] at hcs
  exact ⟨⟨pre, u, hne, hpre⟩ :: cs, by rw [written_cons, hcs]⟩

/-- If something is read after some digits, components write these digits and what follows. -/
theorem exists_written (h : total? t v chars = some n) {pre : List Char}
    (hpre : ∀ d ∈ pre, Text.IsDigit d) (hv : v = none ↔ pre = []) :
    ∃ cs, pre ++ chars = written cs := by
  fun_induction total? t v chars generalizing pre with
  | case1 t v hnone => exact ⟨[], by simp [hv.1 (by simpa using hnone), written]⟩
  | case2 => cases h
  | case3 t v chars ih =>
    obtain ⟨hsome, next, h⟩ := exists_of_unit h
    exact exists_written_unit hpre (mt hv.2 hsome) .milli (ih next h (by simp) (by simp))
  | case4 t v chars _ ih =>
    obtain ⟨hsome, next, h⟩ := exists_of_unit h
    exact exists_written_unit hpre (mt hv.2 hsome) .minute (ih next h (by simp) (by simp))
  | case5 t v chars ih =>
    obtain ⟨hsome, next, h⟩ := exists_of_unit h
    exact exists_written_unit hpre (mt hv.2 hsome) .hour (ih next h (by simp) (by simp))
  | case6 t v chars ih =>
    obtain ⟨hsome, next, h⟩ := exists_of_unit h
    exact exists_written_unit hpre (mt hv.2 hsome) .second (ih next h (by simp) (by simp))
  | case7 t v c chars _ _ _ _ ih =>
    obtain ⟨d, hd, h⟩ := Option.bind_eq_some_iff.1 h
    have hdigits : ∀ e ∈ pre ++ [c], Text.IsDigit e := by
      simpa [or_imp, forall_and] using ⟨hpre, Text.isDigit_of_digit? hd⟩
    obtain ⟨cs, hcs⟩ := ih d h hdigits (by simp)
    exact ⟨cs, by rw [← hcs, List.append_assoc, List.singleton_append]⟩

theorem exists_written_all (h : total? t none chars = some n) : ∃ cs, chars = written cs := by
  have hnone : ∀ d ∈ ([] : List Char), Text.IsDigit d := by simp
  simpa using exists_written h hnone (by simp)

/-- What is read of a text is the sum of the components that write it. -/
theorem total?_eq_some_iff (ht : t / 1000 < Positional.word64) :
    total? t none chars = some n ↔ ∃ cs, chars = written cs ∧ (∀ c ∈ cs, c.Fits) ∧
      n / 1000 < Positional.word64 ∧ t + total cs = n := by
  constructor
  · intro h
    obtain ⟨cs, rfl⟩ := exists_written_all h
    rw [total?_written, sum?_eq_some_iff ht] at h
    exact ⟨cs, rfl, h⟩
  · rintro ⟨cs, rfl, h⟩
    rwa [total?_written, sum?_eq_some_iff ht]

/-! ## Whole texts -/

variable {raw raw' : String} {cs' : List Component}

theorem writes_iff : Writes cs raw ↔ cs ≠ [] ∧ Text.trimChars raw.toList = written cs := by
  rw [Text.trimChars_eq_iff]
  exact ⟨fun h => ⟨h.ne_nil, h.trims⟩, fun h => ⟨h.1, h.2⟩⟩

theorem Writes.unique (h : Writes cs raw) (h' : Writes cs' raw) : cs' = cs :=
  written_inj ((writes_iff.1 h').2.symm.trans (writes_iff.1 h).2)

theorem parse?_eq_some_iff {d : Duration} :
    parse? raw = some d ↔ ∃ cs, Writes cs raw ∧ Representable cs ∧ d.millis = total cs := by
  have hzero : 0 / 1000 < Positional.word64 := by decide
  simp only [writes_iff]
  unfold parse?
  split
  · rename_i hempty
    refine ⟨nofun, ?_⟩
    rintro ⟨cs, ⟨hne, hcs⟩, -⟩
    rw [hempty] at hcs
    have hnil : written [] = written cs := hcs
    exact absurd (written_inj hnil).symm hne
  · rename_i hsome
    rw [Option.map_eq_some_iff]
    constructor
    · rintro ⟨n, hn, rfl⟩
      obtain ⟨cs, hcs, hfits, hlt, hsum⟩ := (total?_eq_some_iff hzero).1 hn
      rw [Nat.zero_add] at hsum
      refine ⟨cs, ⟨?_, hcs⟩, ⟨hfits, hsum ▸ hlt⟩, hsum.symm⟩
      rintro rfl
      exact hsome hcs
    · rintro ⟨cs, ⟨-, hcs⟩, ⟨hfits, hlt⟩, hsum⟩
      refine ⟨d.millis, (total?_eq_some_iff hzero).2 ⟨cs, hcs, hfits, ?_, ?_⟩, rfl⟩
      · rwa [hsum]
      · rw [hsum, Nat.zero_add]

theorem Writes.parse?_eq_some_iff (h : Writes cs raw) {d : Duration} :
    parse? raw = some d ↔ Representable cs ∧ d.millis = total cs := by
  rw [Duration.parse?_eq_some_iff]
  constructor
  · rintro ⟨cs', h', hrest⟩
    rwa [h.unique h'] at hrest
  · exact fun hrest => ⟨cs, h, hrest⟩

theorem Writes.parse?_perm (h : Writes cs raw) (h' : Writes cs' raw') (hperm : cs.Perm cs') :
    parse? raw' = parse? raw := by
  refine Option.ext fun d => ?_
  rw [h.parse?_eq_some_iff, h'.parse?_eq_some_iff, total_perm hperm]
  exact and_congr_left fun _ => ⟨fun hr => hr.perm hperm.symm, fun hr => hr.perm hperm⟩

end Vigil.Duration

import Vigil.Positional
import Vigil.Text.Numeral

/-!
# Numerals

What a numeral is and which number it writes, said without a look at how it is read.
-/

namespace Vigil.Text

variable {c : Char} {cs : List Char} {n m : Nat}

/-- A decimal digit of ASCII. -/
def IsDigit (c : Char) : Prop :=
  '0' ≤ c ∧ c ≤ '9'

instance : DecidablePred IsDigit :=
  fun _ => inferInstanceAs (Decidable (_ ∧ _))

/-- One or more decimal digits; leading zeros are admitted. -/
structure IsNumeral (cs : List Char) : Prop where
  ne_nil : cs ≠ []
  digits : ∀ c ∈ cs, IsDigit c

/-- The number that decimal digits write. -/
def decimal (cs : List Char) : Nat :=
  Positional.value 10 (cs.map fun c => c.toNat - '0'.toNat)

/-- A numeral below `bound`, with a plus sign in front or without one. -/
structure WritesUnsigned (bound : Nat) (s : String) (n : Nat) : Prop where
  written : ∃ cs, (s.toList = cs ∨ s.toList = '+' :: cs) ∧ IsNumeral cs ∧ decimal cs = n
  lt : n < bound

theorem digit?_of_isDigit (h : IsDigit c) : digit? c = some (c.toNat - '0'.toNat) :=
  if_pos h

theorem isDigit_of_digit? {d : Nat} (h : digit? c = some d) : IsDigit c := by
  unfold digit? at h
  split at h
  · assumption
  · cases h

theorem appendDigits?_of_digits (h : ∀ c ∈ cs, IsDigit c) (n : Nat) :
    appendDigits? n cs =
      some ((cs.map fun c => c.toNat - '0'.toNat).foldl (fun n d => n * 10 + d) n) := by
  induction cs generalizing n with
  | nil => rfl
  | cons c cs ih =>
    rw [List.forall_mem_cons] at h
    simp only [appendDigits?, digit?_of_isDigit h.1, List.map_cons, List.foldl_cons]
    rw [ih h.2, Nat.mul_comm]

theorem digits_of_appendDigits? (h : appendDigits? n cs = some m) : ∀ c ∈ cs, IsDigit c := by
  induction cs generalizing n with
  | nil => nofun
  | cons c cs ih =>
    rw [appendDigits?] at h
    cases hc : digit? c with
    | none =>
      rw [hc] at h
      cases h
    | some d =>
      rw [hc] at h
      exact List.forall_mem_cons.2 ⟨isDigit_of_digit? hc, ih h⟩

theorem natural?_of_isNumeral (h : IsNumeral cs) : natural? cs = some (decimal cs) := by
  rw [natural?, if_neg (by simpa using h.ne_nil), appendDigits?_of_digits h.digits]
  rfl

theorem natural?_eq_some_iff : natural? cs = some n ↔ IsNumeral cs ∧ decimal cs = n := by
  constructor
  · intro h
    have hnumeral : IsNumeral cs := by
      unfold natural? at h
      split at h
      · cases h
      · rename_i hne
        exact ⟨by simpa using hne, digits_of_appendDigits? h⟩
    rw [natural?_of_isNumeral hnumeral] at h
    exact ⟨hnumeral, Option.some.inj h⟩
  · rintro ⟨hnumeral, rfl⟩
    exact natural?_of_isNumeral hnumeral

theorem not_isNumeral_plus (cs : List Char) : ¬IsNumeral ('+' :: cs) := fun h =>
  absurd (h.digits '+' List.mem_cons_self) (by decide)

theorem unsigned?_eq_some_iff {bound : Nat} {s : String} :
    unsigned? bound s = some n ↔ WritesUnsigned bound s n := by
  unfold unsigned?
  dsimp only
  split
  · rename_i cs hs
    rw [Option.filter_eq_some_iff, natural?_eq_some_iff, decide_eq_true_eq]
    constructor
    · rintro ⟨⟨hnumeral, hvalue⟩, hlt⟩
      exact ⟨⟨cs, .inr hs, hnumeral, hvalue⟩, hlt⟩
    · rintro ⟨⟨cs', hwritten | hwritten, hnumeral, hvalue⟩, hlt⟩
      · rw [← hwritten, hs] at hnumeral
        exact absurd hnumeral (not_isNumeral_plus cs)
      · rw [hs, List.cons.injEq] at hwritten
        rw [hwritten.2]
        exact ⟨⟨hnumeral, hvalue⟩, hlt⟩
  · rename_i hs
    rw [Option.filter_eq_some_iff, natural?_eq_some_iff, decide_eq_true_eq]
    constructor
    · rintro ⟨⟨hnumeral, hvalue⟩, hlt⟩
      exact ⟨⟨s.toList, .inl rfl, hnumeral, hvalue⟩, hlt⟩
    · rintro ⟨⟨cs, hwritten | hwritten, hnumeral, hvalue⟩, hlt⟩
      · rw [hwritten]
        exact ⟨⟨hnumeral, hvalue⟩, hlt⟩
      · exact absurd hwritten (hs cs)

end Vigil.Text

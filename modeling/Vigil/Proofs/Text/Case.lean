import Mathlib.Data.List.Forall2
import Vigil.Text.Blank

/-!
# Letters of either case

A text can be a word whatever the case of its letters. Only the letters of ASCII have two cases.
-/

namespace Vigil.Text

variable {c d : Char} {cs ds : List Char}

/-- A text is a word of small letters, each of which may be a capital as well. -/
def Spelled (word cs : List Char) : Prop :=
  List.Forall₂ (fun c d => c = d ∨ c = d.toUpper) cs word

theorem toNat_toLower (c : Char) : c.toLower.val.toNat =
    if 65 ≤ c.val.toNat ∧ c.val.toNat ≤ 90 then c.val.toNat + 32 else c.val.toNat := by
  unfold Char.toLower
  simp only [ge_iff_le, UInt32.le_iff_toNat_le]
  split
  · rename_i hcapital
    have hrange : 65 ≤ c.val.toNat ∧ c.val.toNat ≤ 90 := hcapital
    have hshift : ('a'.val - 'A'.val).toNat = 32 := by decide
    rw [if_pos hrange, UInt32.toNat_add]
    omega
  · rename_i hother
    exact (if_neg hother).symm

theorem toNat_toUpper (h : 97 ≤ d.val.toNat ∧ d.val.toNat ≤ 122) :
    d.toUpper.val.toNat = d.val.toNat - 32 := by
  unfold Char.toUpper
  simp only [UInt32.le_iff_toNat_le]
  split
  · have hshift : ('A'.val - 'a'.val).toNat = 4294967264 := by decide
    rw [UInt32.toNat_add]
    omega
  · rename_i hother
    exact absurd h hother

theorem toLower_eq_iff (h : d.isLower = true) : c.toLower = d ↔ c = d ∨ c = d.toUpper := by
  have hd : 97 ≤ d.val.toNat ∧ d.val.toNat ≤ 122 := by
    change (decide ('a'.val ≤ d.val) && decide (d.val ≤ 'z'.val)) = true at h
    simpa [UInt32.le_iff_toNat_le] using h
  have hval (x y : Char) : x = y ↔ x.val.toNat = y.val.toNat := by
    rw [← Char.val_inj, UInt32.toNat_inj]
  rw [hval, hval c d, hval c d.toUpper, toNat_toLower, toNat_toUpper hd]
  split <;> omega

theorem map_toLower_eq_iff (h : ∀ d ∈ ds, d.isLower = true) :
    cs.map Char.toLower = ds ↔ Spelled ds cs := by
  rw [Spelled]
  induction ds generalizing cs with
  | nil => simp
  | cons d ds ih =>
    rw [List.forall_mem_cons] at h
    cases cs with
    | nil => simp
    | cons c cs =>
      rw [List.map_cons, List.cons.injEq, List.forall₂_cons, ih h.2, toLower_eq_iff h.1]

end Vigil.Text

import Vigil.Text.Code

/-!
# UTF-8

Bytes that encode a text are read as the characters of the text, whichever these are. A printable
text has a byte for each of its characters.
-/

namespace Vigil.Text

variable {n x y z w : Nat}

/-! ## Bytes of one character -/

theorem toNat_ofNat_of_lt (h : n < 256) : (UInt8.ofNat n).toNat = n := by
  rw [UInt8.toNat_ofNat', Nat.mod_eq_of_lt h]

theorem continuation?_ofNat (h : n < 64) : continuation? (UInt8.ofNat (n + 128)) = some n := by
  have hbyte := toNat_ofNat_of_lt (n := n + 128) (by omega)
  have hrange : (0x80 : UInt8) ≤ UInt8.ofNat (n + 128) ∧ UInt8.ofNat (n + 128) ≤ 0xBF := by
    simp only [UInt8.le_iff_toNat_le, hbyte, UInt8.reduceToNat]
    omega
  rw [continuation?, if_pos hrange, hbyte, Nat.add_sub_cancel]

theorem firstChar?_one (h : n < 128) (rest : List UInt8) :
    firstChar? (UInt8.ofNat n :: rest) = some (Char.ofNat n, 1) := by
  have hbyte := toNat_ofNat_of_lt (n := n) (by omega)
  simp only [firstChar?, UInt8.lt_iff_toNat_lt, hbyte, UInt8.reduceToNat]
  rw [if_pos h]

theorem firstChar?_two (hx : 2 ≤ x) (hx' : x < 32) (hy : y < 64) (rest : List UInt8) :
    firstChar? (UInt8.ofNat (x + 192) :: UInt8.ofNat (y + 128) :: rest) =
      some (Char.ofNat (x * 64 + y), 2) := by
  have hbyte := toNat_ofNat_of_lt (n := x + 192) (by omega)
  simp only [firstChar?, UInt8.lt_iff_toNat_lt, hbyte, UInt8.reduceToNat]
  rw [if_neg (by omega), if_neg (by omega), if_pos (by omega), continuation?_ofNat hy]
  simp

theorem firstChar?_three (hx : x < 16) (hy : y < 64) (hz : z < 64)
    (hlow : 0x800 ≤ (x * 64 + y) * 64 + z)
    (hvalid : (x * 64 + y) * 64 + z < 0xD800 ∨ 0xDFFF < (x * 64 + y) * 64 + z)
    (rest : List UInt8) :
    firstChar? (UInt8.ofNat (x + 224) :: UInt8.ofNat (y + 128) :: UInt8.ofNat (z + 128) :: rest) =
      some (Char.ofNat ((x * 64 + y) * 64 + z), 3) := by
  have hbyte := toNat_ofNat_of_lt (n := x + 224) (by omega)
  simp only [firstChar?, UInt8.lt_iff_toNat_lt, hbyte, UInt8.reduceToNat]
  rw [if_neg (by omega), if_neg (by omega), if_neg (by omega), if_pos (by omega),
    continuation?_ofNat hy, continuation?_ofNat hz]
  simp only [Option.bind_eq_bind, Option.bind_some, Nat.add_sub_cancel]
  rw [if_neg]
  · rfl
  · simp only [Bool.or_eq_true, Bool.and_eq_true, decide_eq_true_eq]
    omega

theorem firstChar?_four (hw : w < 5) (hx : x < 64) (hy : y < 64) (hz : z < 64)
    (hlow : 0x10000 ≤ ((w * 64 + x) * 64 + y) * 64 + z)
    (hhigh : ((w * 64 + x) * 64 + y) * 64 + z ≤ 0x10FFFF) (rest : List UInt8) :
    firstChar? (UInt8.ofNat (w + 240) :: UInt8.ofNat (x + 128) :: UInt8.ofNat (y + 128) ::
      UInt8.ofNat (z + 128) :: rest) =
      some (Char.ofNat (((w * 64 + x) * 64 + y) * 64 + z), 4) := by
  have hbyte := toNat_ofNat_of_lt (n := w + 240) (by omega)
  simp only [firstChar?, UInt8.lt_iff_toNat_lt, hbyte, UInt8.reduceToNat]
  rw [if_neg (by omega), if_neg (by omega), if_neg (by omega), if_neg (by omega),
    if_pos (by omega), continuation?_ofNat hx, continuation?_ofNat hy, continuation?_ofNat hz]
  simp only [Option.bind_eq_bind, Option.bind_some, Nat.add_sub_cancel]
  rw [if_neg]
  · rfl
  · simp only [Bool.or_eq_true, decide_eq_true_eq]
    omega

/-- The bytes of a character are read as this character, whatever follows them. -/
theorem firstChar?_encoded (c : Char) (rest : List UInt8) :
    firstChar? (String.utf8EncodeChar c ++ rest) =
      some (c, (String.utf8EncodeChar c).length) := by
  have hvalid : c.val.toNat < 0xD800 ∨ 0xDFFF < c.val.toNat ∧ c.val.toNat < 0x110000 := c.valid
  have hself : Char.ofNat c.val.toNat = c := Char.ofNat_toNat c
  unfold String.utf8EncodeChar
  dsimp only
  generalize c.val.toNat = n at hvalid hself ⊢
  split
  · rename_i h
    rw [List.singleton_append, firstChar?_one (by omega), hself]
    rfl
  · split
    · rename_i h
      have hjoin : n / 64 % 32 * 64 + n % 64 = n := by omega
      simp only [List.cons_append, List.nil_append]
      rw [firstChar?_two (by omega) (by omega) (by omega), hjoin, hself]
      rfl
    · split
      · rename_i h
        have hjoin : (n / 4096 % 16 * 64 + n / 64 % 64) * 64 + n % 64 = n := by omega
        simp only [List.cons_append, List.nil_append]
        rw [firstChar?_three (by omega) (by omega) (by omega) (by omega) (by omega), hjoin, hself]
        rfl
      · have hjoin : ((n / 262144 % 8 * 64 + n / 4096 % 64) * 64 + n / 64 % 64) * 64 + n % 64 = n :=
          by omega
        simp only [List.cons_append, List.nil_append]
        rw [firstChar?_four (by omega) (by omega) (by omega) (by omega) (by omega) (by omega), hjoin,
          hself]
        rfl

/-! ## Texts -/

theorem codesFrom_skip (done : List Code) (bs rest : List UInt8) :
    codesFrom done bs.length (bs ++ rest) = codesFrom done 0 rest := by
  induction bs with
  | nil => rfl
  | cons b bs ih => exact ih

theorem codesFrom_encoded (done : List Code) (c : Char) (rest : List UInt8) :
    codesFrom done 0 (String.utf8EncodeChar c ++ rest) = codesFrom (.char c :: done) 0 rest := by
  have hfirst := firstChar?_encoded c rest
  cases hbytes : String.utf8EncodeChar c with
  | nil =>
    have hlength := String.length_utf8EncodeChar c
    rw [hbytes] at hlength
    exact absurd hlength (Nat.ne_of_lt c.utf8Size_pos)
  | cons b bs =>
    rw [hbytes, List.cons_append] at hfirst
    rw [List.cons_append, codesFrom, hfirst]
    exact codesFrom_skip _ bs rest

theorem codesFrom_utf8 (done : List Code) (cs : List Char) :
    codesFrom done 0 (cs.flatMap String.utf8EncodeChar) = done.reverse ++ cs.map .char := by
  induction cs generalizing done with
  | nil => simp [codesFrom]
  | cons c cs ih =>
    rw [List.flatMap_cons, codesFrom_encoded, ih]
    simp

/-- What is written of a text is read as the text. -/
theorem codes_utf8 (s : String) : codes (utf8 s) = Code.ofString s := by
  rw [codes, utf8, codesFrom_utf8]
  rfl

theorem mapM_char? (cs : List Char) : (cs.map Code.char).mapM Code.char? = some cs := by
  induction cs with
  | nil => rfl
  | cons c cs ih =>
    rw [List.map_cons, List.mapM_cons, ih]
    rfl

theorem text?_utf8 (s : String) : text? (utf8 s) = some s := by
  rw [text?, codes_utf8, Code.ofString, mapM_char?, Option.map_some, String.ofList_toList]

/-! ## Printable texts -/

/-- A text of printable ASCII characters. -/
def Printable (cs : List Char) : Prop :=
  ∀ c ∈ cs, 0x20 ≤ c.toNat ∧ c.toNat ≤ 0x7E

instance (cs : List Char) : Decidable (Printable cs) :=
  decidable_of_iff (cs.all fun c => 0x20 ≤ c.toNat && c.toNat ≤ 0x7E) (by simp [Printable])

theorem utf8EncodeChar_of_le {c : Char} (h : c.toNat ≤ 0x7F) :
    String.utf8EncodeChar c = [UInt8.ofNat c.toNat] := by
  change c.val.toNat ≤ 0x7F at h
  rw [String.utf8EncodeChar, if_pos h]
  rfl

theorem Printable.utf8_eq {s : String} (h : Printable s.toList) :
    utf8 s = s.toList.map fun c => UInt8.ofNat c.toNat := by
  rw [utf8, List.map_eq_flatMap, List.flatMap_def, List.flatMap_def]
  refine congrArg List.flatten (List.map_congr_left fun c hc => ?_)
  exact utf8EncodeChar_of_le (Nat.le_succ_of_le (h c hc).2)

end Vigil.Text

import Mathlib.Tactic.IntervalCases
import Vigil.Json.Basic
import Vigil.Json.Token

/-!
# Tokens of written values

The text of a value is scanned into the tokens that the value is made of. Each character of a text
is escaped in a way of its own, and the scan takes every escape back.
-/

namespace Vigil.Json

open Text (Code)

namespace NumberDraft

/-- A number in plain digits, as it is scanned. -/
def ofNat (n : Nat) : NumberDraft :=
  if n < 10 then (empty false).pushWhole n else (ofNat (n / 10)).pushWhole (n % 10)

theorem ofNat_of_lt {n : Nat} (h : n < Positional.word64) :
    ofNat n = { empty false with significand := n } := by
  induction n using Nat.strongRecOn with
  | ind n ih =>
    rw [ofNat]
    split
    · simp [pushWhole, empty, h]
    · have hjoin : 10 * (n / 10) + n % 10 = n := Nat.div_add_mod n 10
      rw [ih (n / 10) (by omega) (by omega)]
      simp [pushWhole, empty, hjoin, h]

theorem value_ofNat {n : Nat} (h : n < Positional.word64) :
    (ofNat n).value = .ok (.natural n) := by
  rw [ofNat_of_lt h]
  rfl

end NumberDraft

mutual

def tokens : Json → List Token
  | null => [.scalar (.literal none ⟨.ok (), none⟩)]
  | bool b => [.scalar (.literal (some b) ⟨.ok (), none⟩)]
  | number n => [.scalar (.number ⟨(NumberDraft.ofNat n).value, none⟩)]
  | text s => [.scalar (.text ⟨.ok s, none⟩)]
  | array items => .openArray :: itemTokens items ++ [.closeArray]
  | object members => .openObject :: memberTokens members ++ [.closeObject]

/-- The tokens of the items of an array, with commas between them. -/
def itemTokens : List Json → List Token
  | [] => []
  | [v] => tokens v
  | v :: w :: rest => tokens v ++ .comma :: itemTokens (w :: rest)

/-- The tokens of the members of an object, with commas between them. -/
def memberTokens : List (String × Json) → List Token
  | [] => []
  | [(k, v)] => .scalar (.text ⟨.ok k, none⟩) :: .colon :: tokens v
  | (k, v) :: m :: rest =>
    .scalar (.text ⟨.ok k, none⟩) :: .colon :: tokens v ++ .comma :: memberTokens (m :: rest)

end

namespace Scan

/-- The scan after more characters. -/
def run (s : Scan) (cs : List Char) : Scan :=
  cs.foldl (fun s c => s.step (.char c)) s

@[simp]
theorem run_nil (s : Scan) : s.run [] = s :=
  rfl

@[simp]
theorem run_cons (s : Scan) (c : Char) (cs : List Char) : s.run (c :: cs) = (s.step (.char c)).run cs :=
  rfl

@[simp]
theorem run_append (s : Scan) (cs ds : List Char) : s.run (cs ++ ds) = (s.run cs).run ds :=
  List.foldl_append

@[simp]
theorem step_openArray (ts : List Token) :
    step ⟨.between, ts⟩ (.char '[') = ⟨.between, .openArray :: ts⟩ :=
  rfl

@[simp]
theorem step_closeArray (ts : List Token) :
    step ⟨.between, ts⟩ (.char ']') = ⟨.between, .closeArray :: ts⟩ :=
  rfl

@[simp]
theorem step_openObject (ts : List Token) :
    step ⟨.between, ts⟩ (.char '\x7b') = ⟨.between, .openObject :: ts⟩ :=
  rfl

@[simp]
theorem step_closeObject (ts : List Token) :
    step ⟨.between, ts⟩ (.char '\x7d') = ⟨.between, .closeObject :: ts⟩ :=
  rfl

@[simp]
theorem step_comma (ts : List Token) :
    step ⟨.between, ts⟩ (.char ',') = ⟨.between, .comma :: ts⟩ :=
  rfl

@[simp]
theorem step_colon (ts : List Token) :
    step ⟨.between, ts⟩ (.char ':') = ⟨.between, .colon :: ts⟩ :=
  rfl

/-! ## Where a number ends -/

/-- The scan with a number that can end here taken for complete. -/
def settle (s : Scan) : Scan :=
  match s.mode with
  | .number p d => if p.complete then s.emit (.scalar (.number ⟨d.value, none⟩)) else s
  | _ => s

/-- A number ends before each character that can follow a value. -/
theorem step_settle (s : Scan) {c : Char} (hc : c ∈ [',', ']', '\x7d']) :
    s.settle.step (.char c) = s.step (.char c) := by
  obtain ⟨mode, ts⟩ := s
  cases mode with
  | number p d =>
    simp only [List.mem_cons, List.not_mem_nil, or_false] at hc
    rcases hc with rfl | rfl | rfl <;> cases p <;> rfl
  | _ => rfl

theorem finish_settle (s : Scan) : s.settle.finish = s.finish := by
  obtain ⟨mode, ts⟩ := s
  cases mode with
  | number p d => cases p <;> rfl
  | _ => rfl

/-! ## Texts -/

/-- The scan of a text that has gone as far as the given characters, the latest first. -/
def within (cs : List Char) (ts : List Token) : Scan :=
  ⟨.text ⟨.ok cs, none, false, .outside⟩, ts⟩

theorem codeUnit?_control : ∀ n < 0x20,
    codeUnit? [.char (Text.hexDigit (n % 16)), .char (Text.hexDigit (n / 16)), .char '0',
      .char '0'] = some n := by
  decide

theorem size_hexDigit : ∀ n < 16, (Code.char (Text.hexDigit n)).size = 1 := by
  decide

theorem step_of_more {d d' : TextDraft} {c : Code} (h : d.next c = .more d') (ts : List Token) :
    step ⟨.text d, ts⟩ c = ⟨.text d', ts⟩ := by
  simp only [step, h]

/-- A control character is escaped as a code unit of four digits. -/
theorem run_control {n : Nat} (h : n < 0x20) (cs : List Char) (ts : List Token) :
    (within cs ts).run ['\\', 'u', '0', '0', Text.hexDigit (n / 16), Text.hexDigit (n % 16)] =
      within (Char.ofNat n :: cs) ts := by
  have hzero : (Code.char '0').size = 1 := rfl
  have hhigh := size_hexDigit (n / 16) (by omega)
  have hlow := size_hexDigit (n % 16) (by omega)
  have hthird : TextDraft.next ⟨.ok cs, none, false, .unit [.char '0', .char '0']⟩
      (.char (Text.hexDigit (n / 16))) = .more ⟨.ok cs, none, false,
        .unit [.char (Text.hexDigit (n / 16)), .char '0', .char '0']⟩ := by
    simp [TextDraft.next, Code.totalSize, hzero, hhigh]
  have hfourth : TextDraft.next ⟨.ok cs, none, false,
      .unit [.char (Text.hexDigit (n / 16)), .char '0', .char '0']⟩
      (.char (Text.hexDigit (n % 16))) = .more ⟨.ok (Char.ofNat n :: cs), none, false, .outside⟩ := by
    have hlone : ¬(0xDC00 ≤ n ∧ n ≤ 0xDFFF) ∧ ¬(0xD800 ≤ n ∧ n ≤ 0xDBFF) := by omega
    simp [TextDraft.next, Code.totalSize, hzero, hhigh, hlow, codeUnit?_control n h,
      TextDraft.pushUnit, hlone, TextDraft.push, Except.map]
  calc
    _ = run ⟨.text ⟨.ok cs, none, false, .unit [.char '0', .char '0']⟩, ts⟩
        [Text.hexDigit (n / 16), Text.hexDigit (n % 16)] := rfl
    _ = _ := by
      rw [run_cons, step_of_more hthird, run_cons, step_of_more hfourth]
      rfl

theorem run_escape (c : Char) (cs : List Char) (ts : List Token) :
    (within cs ts).run (escape c) = within (c :: cs) ts := by
  unfold escape
  split
  case h_8 c hquote hbackslash _ _ _ _ _ =>
    split
    · rename_i hcontrol
      rw [run_control hcontrol, Char.ofNat_toNat]
    · rename_i hplain
      simp [step, within, TextDraft.next, TextDraft.push, hplain, Except.map]
  all_goals rfl

theorem run_escapes (cs ds : List Char) (ts : List Token) :
    (within cs ts).run (ds.flatMap escape) = within (ds.reverse ++ cs) ts := by
  induction ds generalizing cs with
  | nil => rfl
  | cons d ds ih =>
    rw [List.flatMap_cons, run_append, run_escape, ih]
    simp

theorem run_quote (s : String) (ts : List Token) :
    run ⟨.between, ts⟩ (quote s) = ⟨.between, .scalar (.text ⟨.ok s, none⟩) :: ts⟩ := by
  have hopen : step ⟨.between, ts⟩ (.char '"') = within [] ts := rfl
  rw [quote, List.cons_append, run_cons, run_append, hopen, run_escapes, List.append_nil]
  have hvalue : String.ofList s.toList.reverse.reverse = s := by
    rw [List.reverse_reverse, String.ofList_toList]
  calc
    (within s.toList.reverse ts).run ['"'] =
        ⟨.between, .scalar (.text ⟨.ok (String.ofList s.toList.reverse.reverse), none⟩) :: ts⟩ :=
      rfl
    _ = _ := by rw [hvalue]

/-! ## Numbers -/

theorem digit?_digitChar : ∀ n < 10, Text.digit? n.digitChar = some n := by
  decide

theorem run_firstDigit : ∀ n < 10, ∀ ts,
    run ⟨.between, ts⟩ [n.digitChar] =
      ⟨.number (if n = 0 then .zero else .whole) ((NumberDraft.empty false).pushWhole n), ts⟩ := by
  intro n h ts
  interval_cases n <;> rfl

theorem run_digits (n : Nat) (ts : List Token) :
    run ⟨.between, ts⟩ (Nat.toDigits 10 n) =
      ⟨.number (if n = 0 then .zero else .whole) (.ofNat n), ts⟩ := by
  induction n using Nat.strongRecOn with
  | ind n ih =>
    by_cases h : n < 10
    · rw [Nat.toDigits_of_lt_base h, run_firstDigit n h, NumberDraft.ofNat, if_pos h]
    · have hnext : Phase.next .whole (.ofNat (n / 10)) (n % 10).digitChar =
          .more .whole (.ofNat n) := by
        rw [NumberDraft.ofNat.eq_def n, if_neg h]
        simp [Phase.next, digit?_digitChar (n % 10) (by omega)]
      rw [Nat.toDigits_of_base_le (by omega) (by omega), run_append, ih (n / 10) (by omega),
        if_neg (by omega), if_neg (by omega), run_cons, run_nil]
      simp only [step, hnext]

/-! ## Values -/

mutual

/-- A value is scanned into its tokens, if a number that it ends with is taken for complete. -/
theorem run_chars : (v : Json) → (ts : List Token) →
    (run ⟨.between, ts⟩ v.chars).settle = ⟨.between, v.tokens.reverse ++ ts⟩
  | .null, _ => rfl
  | .bool true, _ => rfl
  | .bool false, _ => rfl
  | .number n, ts => by
    rw [chars, run_digits]
    by_cases h : n = 0
    · rw [if_pos h]
      rfl
    · rw [if_neg h]
      rfl
  | .text s, ts => by
    rw [chars, run_quote]
    rfl
  | .array items, ts => by
    rw [chars, List.cons_append, run_cons, step_openArray, run_append, run_cons, run_nil,
      ← step_settle _ (by simp), run_itemChars items, step_closeArray, Json.tokens]
    simp [settle]
  | .object members, ts => by
    rw [chars, List.cons_append, run_cons, step_openObject, run_append, run_cons, run_nil,
      ← step_settle _ (by simp), run_memberChars members, step_closeObject, Json.tokens]
    simp [settle]

theorem run_itemChars : (items : List Json) → (ts : List Token) →
    (run ⟨.between, ts⟩ (itemChars items)).settle = ⟨.between, (itemTokens items).reverse ++ ts⟩
  | [], _ => rfl
  | [v], ts => by
    rw [itemChars, itemTokens]
    exact run_chars v ts
  | v :: w :: rest, ts => by
    rw [itemChars, run_append, run_cons, ← step_settle _ (by simp), run_chars v, step_comma,
      run_itemChars (w :: rest), itemTokens]
    simp

theorem run_memberChars : (members : List (String × Json)) → (ts : List Token) →
    (run ⟨.between, ts⟩ (memberChars members)).settle =
      ⟨.between, (memberTokens members).reverse ++ ts⟩
  | [], _ => rfl
  | [(k, v)], ts => by
    rw [memberChars, run_append, run_quote, run_cons, step_colon, run_chars v, memberTokens]
    simp
  | (k, v) :: m :: rest, ts => by
    rw [memberChars, run_append, run_cons, ← step_settle _ (by simp), run_append, run_quote,
      run_cons, step_colon, run_chars v, step_comma, run_memberChars (m :: rest), memberTokens]
    simp

end

end Scan

/-- The text of a value is scanned into the tokens of the value. -/
theorem scan_render (v : Json) : Token.scan (Code.ofString v.render) = v.tokens := by
  have hrun : (Code.ofString v.render).foldl Scan.step ⟨.between, []⟩ =
      Scan.run ⟨.between, []⟩ v.chars := by
    rw [Code.ofString, render, String.toList_ofList, List.foldl_map]
    rfl
  rw [Token.scan, hrun, ← Scan.finish_settle, Scan.run_chars]
  simp [Scan.finish]

end Vigil.Json

import Vigil.Proofs.Duration.Reading

/-!
# Components found by search

A duration can also be read by search: the first component is looked for anywhere in the text, then
the next one in what follows it, and so on. It is the leftmost one, with as many digits as possible,
and its digits may be those of any script. Where nothing is passed over and all digits are of ASCII,
this comes to the same as reading from left to right.
-/

namespace Vigil.Duration

variable {isDigit : Char → Bool} {t n : Nat} {cs : List Component} {chars : List Char}

/-- What counts as a digit in a search: the digits of ASCII, and any other characters but the
letters of units. -/
structure DigitClass (isDigit : Char → Bool) : Prop where
  ascii : ∀ c, Text.IsDigit c → isDigit c = true
  hour : isDigit 'h' = false
  minute : isDigit 'm' = false
  second : isDigit 's' = false

/-- The unit at the start of a text, and what follows it. The letters `ms` go before `m` alone. -/
def unitAt? : List Char → Option (Unit × List Char)
  | 'm' :: 's' :: cs => some (.milli, cs)
  | 'h' :: cs => some (.hour, cs)
  | 'm' :: cs => some (.minute, cs)
  | 's' :: cs => some (.second, cs)
  | _ => none

/-- What a search comes upon, and what it passes over before. -/
structure Find where
  skipped : List Char
  digits : List Char
  unit : Unit
  rest : List Char

/-- Digits and a unit at the start of a text. As many digits are taken as possible, and given back
one by one for as long as no unit follows. -/
def findHere? (isDigit : Char → Bool) : List Char → Option Find
  | [] => none
  | c :: cs =>
    if isDigit c then
      match findHere? isDigit cs with
      | some f => some { f with digits := c :: f.digits }
      | none => (unitAt? cs).map fun (u, rest) => ⟨[], [c], u, rest⟩
    else none

/-- The leftmost digits and unit of a text. -/
def find? (isDigit : Char → Bool) : List Char → Option Find
  | [] => none
  | c :: cs =>
    match findHere? isDigit (c :: cs) with
    | some f => some f
    | none => (find? isDigit cs).map fun f => { f with skipped := c :: f.skipped }

theorem eq_of_unitAt? {u : Unit} {rest : List Char} (h : unitAt? chars = some (u, rest)) :
    chars = u.symbol ++ rest := by
  unfold unitAt? at h
  split at h <;> cases h <;> rfl

/-- What is found stands in the text. -/
structure Find.StandsIn (f : Find) (chars : List Char) : Prop where
  ne_nil : f.digits ≠ []
  text_eq : chars = f.skipped ++ (f.digits ++ (f.unit.symbol ++ f.rest))

theorem findHere?_standsIn {f : Find} (h : findHere? isDigit chars = some f) :
    f.StandsIn chars ∧ f.skipped = [] := by
  fun_induction findHere? isDigit chars generalizing f with
  | case1 => cases h
  | case2 c chars _ g hg ih =>
    obtain ⟨hstands, hskipped⟩ := ih hg
    cases h
    refine ⟨⟨List.cons_ne_nil _ _, ?_⟩, hskipped⟩
    rw [hstands.text_eq, hskipped]
    rfl
  | case3 c chars _ hnone ih =>
    obtain ⟨⟨u, rest⟩, hunit, rfl⟩ := Option.map_eq_some_iff.1 h
    exact ⟨⟨List.cons_ne_nil _ _, by rw [eq_of_unitAt? hunit]; rfl⟩, rfl⟩
  | case4 => cases h

theorem find?_standsIn {f : Find} (h : find? isDigit chars = some f) : f.StandsIn chars := by
  fun_induction find? isDigit chars generalizing f with
  | case1 => cases h
  | case2 c chars g hg =>
    cases h
    exact (findHere?_standsIn hg).1
  | case3 c chars _ ih =>
    obtain ⟨g, hg, rfl⟩ := Option.map_eq_some_iff.1 h
    exact ⟨(ih hg).ne_nil, congrArg (c :: ·) (ih hg).text_eq⟩

theorem Find.StandsIn.length_lt {f : Find} (h : f.StandsIn chars) :
    f.rest.length < chars.length := by
  have := List.length_pos_iff.2 h.ne_nil
  simp only [h.text_eq, List.length_append]
  omega

/-- The sum on top of `t` of what is found one after the other, if nothing is passed over. -/
def sumFound? (isDigit : Char → Bool) (t : Nat) (chars : List Char) : Option Nat :=
  match _found : find? isDigit chars with
  | none => if chars.isEmpty then some t else none
  | some f => do
    if f.skipped.isEmpty then
      let value ← (Text.natural? f.digits).filter (· < Positional.word64)
      sumFound? isDigit (← add? t (← f.unit.span? value)) f.rest
    else none
termination_by chars.length
decreasing_by exact (find?_standsIn _found).length_lt

/-- The duration that a search finds in a text, blanks around it aside. -/
def search? (isDigit : Char → Bool) (raw : String) : Option Duration :=
  match Text.trimChars raw.toList with
  | [] => none
  | cs => (sumFound? isDigit 0 cs).map Duration.mk

/-! ## What is found in components -/

theorem unitAt?_symbol (u : Unit) (cs : List Component) :
    unitAt? (u.symbol ++ written cs) = some (u, written cs) := by
  have hhead := head?_written_ne cs
  generalize written cs = rest at hhead
  cases u with
  | minute =>
    cases rest with
    | nil => rfl
    | cons d rest =>
      have hd : d ≠ 's' := by simpa using hhead
      simp [Unit.symbol, unitAt?, hd]
  | hour | second | milli => rfl

theorem findHere?_symbol (h : DigitClass isDigit) (u : Unit) (chars : List Char) :
    findHere? isDigit (u.symbol ++ chars) = none := by
  cases u <;> simp [Unit.symbol, findHere?, h.hour, h.minute, h.second]

theorem findHere?_digits (h : DigitClass isDigit) {ds : List Char}
    (hds : ∀ d ∈ ds, Text.IsDigit d) (hne : ds ≠ []) (u : Unit) (cs : List Component) :
    findHere? isDigit (ds ++ (u.symbol ++ written cs)) = some ⟨[], ds, u, written cs⟩ := by
  induction ds with
  | nil => exact absurd rfl hne
  | cons d ds ih =>
    rw [List.forall_mem_cons] at hds
    rw [List.cons_append, findHere?, if_pos (h.ascii d hds.1)]
    cases ds with
    | nil => simp [findHere?_symbol h, unitAt?_symbol]
    | cons e es => rw [ih hds.2 (List.cons_ne_nil _ _)]

theorem find?_written (h : DigitClass isDigit) (c : Component) (cs : List Component) :
    find? isDigit (written (c :: cs)) = some ⟨[], c.digits, c.unit, written cs⟩ := by
  have hhere := findHere?_digits h c.numeral.digits c.numeral.ne_nil c.unit cs
  rw [written_cons]
  obtain ⟨d, ds, hdigits, -⟩ := c.exists_cons
  rw [hdigits] at hhere ⊢
  rw [List.cons_append] at hhere ⊢
  rw [find?, hhere]

/-- A number that is too large by itself is so in its unit as well. -/
theorem bind_span? (c : Component) :
    ((Text.natural? c.digits).filter (· < Positional.word64)).bind c.unit.span? =
      c.unit.span? c.value := by
  have hdecimal : Text.natural? c.digits = some c.value := Text.natural?_of_isNumeral c.numeral
  rw [hdecimal]
  by_cases hvalue : c.value < Positional.word64
  · simp [Option.filter, hvalue]
  · have hnone : c.unit.span? c.value = none := by
      refine Option.eq_none_iff_forall_ne_some.2 fun n hn => ?_
      exact hvalue (span?_eq_some_iff.1 hn).1.value_lt
    simp [Option.filter, hvalue, hnone]

theorem sumFound?_written (h : DigitClass isDigit) (t : Nat) (cs : List Component) :
    sumFound? isDigit t (written cs) = sum? t cs := by
  induction cs generalizing t with
  | nil =>
    rw [sumFound?]
    rfl
  | cons c cs ih =>
    have hfind := find?_written h c cs
    rw [sumFound?]
    split
    · rename_i hnone
      rw [hfind] at hnone
      cases hnone
    · rename_i f hf
      rw [hfind] at hf
      cases hf
      rw [sum?, ← bind_span?]
      simp [ih, Option.bind_assoc]

theorem exists_written_of_found (h : sumFound? isDigit t chars = some n) :
    ∃ cs, chars = written cs := by
  fun_induction sumFound? isDigit t chars with
  | case1 t chars _ hempty => exact ⟨[], List.isEmpty_iff.1 hempty⟩
  | case2 => cases h
  | case3 t chars f hf hskipped ih =>
    obtain ⟨value, hvalue, hrest⟩ := Option.bind_eq_some_iff.1 h
    obtain ⟨span, -, hrest⟩ := Option.bind_eq_some_iff.1 hrest
    obtain ⟨next, -, hrest⟩ := Option.bind_eq_some_iff.1 hrest
    obtain ⟨cs, hcs⟩ := ih next hrest
    have hnumeral := (Text.natural?_eq_some_iff.1 (Option.filter_eq_some_iff.1 hvalue).1).1
    refine ⟨⟨f.digits, f.unit, hnumeral⟩ :: cs, ?_⟩
    rw [(find?_standsIn hf).text_eq, List.isEmpty_iff.1 hskipped, written_cons, ← hcs]
    rfl
  | case4 => cases h

theorem sumFound?_eq_total? (h : DigitClass isDigit) (t : Nat) (chars : List Char) :
    sumFound? isDigit t chars = total? t none chars := by
  refine Option.ext fun n => ?_
  constructor
  · intro hn
    obtain ⟨cs, rfl⟩ := exists_written_of_found hn
    rwa [total?_written, ← sumFound?_written h]
  · intro hn
    obtain ⟨cs, rfl⟩ := exists_written_all hn
    rwa [sumFound?_written h, ← total?_written]

theorem search?_eq_parse? (h : DigitClass isDigit) (raw : String) :
    search? isDigit raw = parse? raw := by
  unfold search? parse?
  cases Text.trimChars raw.toList with
  | nil => rfl
  | cons c chars => exact congrArg (Option.map mk) (sumFound?_eq_total? h 0 (c :: chars))

/-! ## What texts say -/

/-- What a text says as a duration. -/
structure ReadingSpec (raw : String) : Prop where
  /-- A duration is read exactly if components within bounds write the text, and is their sum. -/
  reads_iff : ∀ d, parse? raw = some d ↔
    ∃ cs, Writes cs raw ∧ Representable cs ∧ d.millis = total cs
  unique : ∀ cs cs', Writes cs raw → Writes cs' raw → cs' = cs
  /-- The order of the components makes no difference. -/
  reordered : ∀ raw' cs cs', Writes cs raw → Writes cs' raw' → cs.Perm cs' →
    parse? raw' = parse? raw
  /-- Nor does it make a difference whether components are looked for by search. -/
  searched : ∀ isDigit, DigitClass isDigit → search? isDigit raw = parse? raw

/-- A text is read as a duration exactly if it is written by components, and as their sum. -/
theorem sum_of_components (raw : String) : ReadingSpec raw where
  reads_iff := fun _ => parse?_eq_some_iff
  unique := fun _ _ => Writes.unique
  reordered := fun _ _ _ => Writes.parse?_perm
  searched := fun _ h => search?_eq_parse? h raw

/-- The digits of ASCII and those of the Arabic script. -/
def isArabicOrAsciiDigit (c : Char) : Bool :=
  Text.IsDigit c || decide (0x660 ≤ c.toNat ∧ c.toNat ≤ 0x669)

theorem digitClass_arabicOrAscii : DigitClass isArabicOrAsciiDigit where
  ascii := fun c hc => by simp [isArabicOrAsciiDigit, hc]
  hour := by decide
  minute := by decide
  second := by decide

/-- Zeros may come first and `ms` is one unit. Digits of another script make no duration, although a
search comes upon them. -/
theorem sum_of_components_minutes_millis :
    DigitClass isArabicOrAsciiDigit ∧ ReadingSpec " 1m030s250ms\n" ∧
      search? isArabicOrAsciiDigit " 1m030s250ms\n" = some ⟨90250⟩ ∧
        search? isArabicOrAsciiDigit "1m\u0663s" = none := by
  have hread : parse? " 1m030s250ms\n" = some ⟨90250⟩ := by decide +kernel
  have hother : parse? "1m\u0663s" = none := by decide +kernel
  refine ⟨digitClass_arabicOrAscii, sum_of_components _, ?_, ?_⟩
  · rw [(sum_of_components _).searched _ digitClass_arabicOrAscii, hread]
  · rw [(sum_of_components _).searched _ digitClass_arabicOrAscii, hother]

end Vigil.Duration

/-!
# Decimal and hexadecimal numerals

Reading of numerals in ASCII digits. `unsigned?` admits a leading plus sign and any number of
leading zeros, and refuses what does not lie below its bound.
-/

namespace Vigil.Text

/-- The value of an ASCII decimal digit. -/
def digit? (c : Char) : Option Nat :=
  if '0' ≤ c ∧ c ≤ '9' then some (c.toNat - '0'.toNat) else none

/-- The value of an ASCII hexadecimal digit of either case. -/
def hexDigit? (c : Char) : Option Nat :=
  if '0' ≤ c ∧ c ≤ '9' then some (c.toNat - '0'.toNat)
  else if 'a' ≤ c ∧ c ≤ 'f' then some (c.toNat - 'a'.toNat + 10)
  else if 'A' ≤ c ∧ c ≤ 'F' then some (c.toNat - 'A'.toNat + 10)
  else none

/-- The number that has the digits of `n` and then the characters, if all of these are digits. -/
def appendDigits? (n : Nat) : List Char → Option Nat
  | [] => some n
  | c :: cs =>
    match digit? c with
    | some d => appendDigits? (10 * n + d) cs
    | none => none

/-- A non-empty run of decimal digits as a number. -/
def natural? (cs : List Char) : Option Nat :=
  if cs.isEmpty then none else appendDigits? 0 cs

/-- A decimal numeral below `bound`, with an optional plus sign in front. -/
def unsigned? (bound : Nat) (s : String) : Option Nat :=
  let digits := match s.toList with
    | '+' :: cs => cs
    | cs => cs
  (natural? digits).filter (· < bound)

/-- The lower-case hexadecimal digit of a number below sixteen. -/
def hexDigit (n : Nat) : Char :=
  if n < 10 then Char.ofNat ('0'.toNat + n) else Char.ofNat ('a'.toNat + (n - 10))

/-- A number in lower-case hexadecimal without leading zeros, for numbers below `16 ^ 4`. -/
def hex4 (n : Nat) : List Char :=
  let digits := [n / 4096 % 16, n / 256 % 16, n / 16 % 16].dropWhile (· == 0)
  (digits ++ [n % 16]).map hexDigit

end Vigil.Text

/-!
# The range of double precision

A decimal numeral `s · 10 ^ e` is read as the product of the two nearest doubles of `s` and
`10 ^ e`. `overflows` decides whether that product lies beyond the largest finite double.
-/

namespace Vigil.Json

/-- The nearest number with a significand of 53 bits; a tie goes to the even significand. -/
def roundTo53 (n : Nat) : Nat :=
  let width := if n = 0 then 0 else n.log2 + 1
  if width ≤ 53 then n
  else
    let unit := 1 <<< (width - 53)
    let q := n / unit
    let r := 2 * (n % unit)
    (if r > unit || (r == unit && q % 2 == 1) then q + 1 else q) * unit

/-- The least product that rounds to infinity: half a unit above the largest finite double. -/
def doubleLimit : Nat :=
  (1 <<< 1024) - (1 <<< 970)

/-- Whether `s · 10 ^ e` has no finite double. -/
def overflows (s : Nat) (e : Int) : Bool :=
  match e with
  | .ofNat e =>
    if s = 0 then false
    else if e > 308 then true
    else doubleLimit ≤ roundTo53 s * roundTo53 (Nat.pow 10 e)
  | .negSucc _ => false

end Vigil.Json

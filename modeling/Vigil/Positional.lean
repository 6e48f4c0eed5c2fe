/-!
# Positional notation

Numbers as sequences of a given number of digits, the highest first, in any base.
-/

namespace Vigil.Positional

/-- The `n` lowest digits of a number in the given base. -/
def digits (base : Nat) : Nat → Nat → List Nat
  | 0, _ => []
  | n + 1, value => digits base n (value / base) ++ [value % base]

/-- The number that digits in the given base make up. -/
def value (base : Nat) (digits : List Nat) : Nat :=
  digits.foldl (fun n d => n * base + d) 0

def bytes (n value : Nat) : List UInt8 :=
  (digits 256 n value).map UInt8.ofNat

/-- The number of values that a word of 64 bits can have. -/
def word64 : Nat := 18446744073709551616

end Vigil.Positional

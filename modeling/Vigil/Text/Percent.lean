import Vigil.Text.Numeral
import Vigil.Text.Code

/-!
# Percent-encoding

A percent sign with two hexadecimal digits after it stands for one byte. A percent sign without
them stands for itself.
-/

namespace Vigil.Text

/-- The value of a byte that encodes a hexadecimal digit. -/
def hexByte? (b : UInt8) : Option Nat :=
  hexDigit? (Char.ofNat b.toNat)

/-- The bytes that a percent-encoded byte sequence stands for. -/
def percentDecode : List UInt8 → List UInt8
  | 0x25 :: a :: b :: rest =>
    match hexByte? a, hexByte? b with
    | some x, some y => UInt8.ofNat (16 * x + y) :: percentDecode rest
    | _, _ => 0x25 :: percentDecode (a :: b :: rest)
  | b :: rest => b :: percentDecode rest
  | [] => []

/-- The text that a percent-encoded text stands for, if the decoded bytes are UTF-8. -/
def percentDecode? (s : String) : Option String :=
  text? (percentDecode (utf8 s))

end Vigil.Text

/-!
# Texts read from bytes

A byte sequence is read as UTF-8 from left to right. Each place of the result is a character or a
stray byte, one that belongs to no well-formed character. `text?` gives the text when no byte is
stray, and `mend` puts a replacement where bytes are.
-/

namespace Vigil.Text

/-- One place of a text read from bytes. -/
inductive Code where
  | char (c : Char)
  | stray (b : UInt8)
  deriving DecidableEq

namespace Code

/-- The number of bytes a place takes. -/
def size : Code → Nat
  | char c => c.utf8Size
  | stray _ => 1

/-- The number of bytes that places take together. -/
def totalSize (cs : List Code) : Nat :=
  cs.foldl (fun n c => n + c.size) 0

/-- The character at a place, if there is one. -/
def char? : Code → Option Char
  | char c => some c
  | stray _ => none

/-- The places of a text that is already decoded. -/
def ofString (s : String) : List Code :=
  s.toList.map char

end Code

/-- The low six bits of a continuation byte. -/
def continuation? (b : UInt8) : Option Nat :=
  if 0x80 ≤ b ∧ b ≤ 0xBF then some (b.toNat - 0x80) else none

/-- The first character of a byte sequence and the number of bytes it takes, if the sequence starts
with a well-formed character: shortest form, no surrogate, at most `0x10FFFF`. -/
def firstChar? : List UInt8 → Option (Char × Nat)
  | [] => none
  | a :: rest =>
    if a < 0x80 then some (Char.ofNat a.toNat, 1)
    else if a < 0xC2 then none
    else if a < 0xE0 then
      match rest with
      | b :: _ => do
        let y ← continuation? b
        return (Char.ofNat ((a.toNat - 0xC0) * 64 + y), 2)
      | _ => none
    else if a < 0xF0 then
      match rest with
      | b :: c :: _ => do
        let y ← continuation? b
        let z ← continuation? c
        let n := ((a.toNat - 0xE0) * 64 + y) * 64 + z
        if n < 0x800 || (0xD800 ≤ n && n ≤ 0xDFFF) then none
        else return (Char.ofNat n, 3)
      | _ => none
    else if a < 0xF5 then
      match rest with
      | b :: c :: d :: _ => do
        let x ← continuation? b
        let y ← continuation? c
        let z ← continuation? d
        let n := (((a.toNat - 0xF0) * 64 + x) * 64 + y) * 64 + z
        if n < 0x10000 || 0x10FFFF < n then none
        else return (Char.ofNat n, 4)
      | _ => none
    else none

/-- The places of a byte sequence, of which the first `skip` bytes belong to a character already
read; `done` holds the places before them, the latest first. -/
def codesFrom (done : List Code) : Nat → List UInt8 → List Code
  | _, [] => done.reverse
  | skip + 1, _ :: bs => codesFrom done skip bs
  | 0, b :: bs =>
    match firstChar? (b :: bs) with
    | some (c, width) => codesFrom (.char c :: done) (width - 1) bs
    | none => codesFrom (.stray b :: done) 0 bs

/-- The places of a byte sequence. -/
def codes (bytes : List UInt8) : List Code :=
  codesFrom [] 0 bytes

/-- The text that a byte sequence encodes, if it is well-formed UTF-8. -/
def text? (bytes : List UInt8) : Option String :=
  ((codes bytes).mapM Code.char?).map String.ofList

/-- Whether a second byte may follow the first one of a character of three or four bytes. -/
def fits (a b : UInt8) : Bool :=
  (if a = 0xE0 then 0xA0 ≤ b else if a = 0xF0 then 0x90 ≤ b else 0x80 ≤ b) &&
    (if a = 0xED then b ≤ 0x9F else if a = 0xF4 then b ≤ 0x8F else b ≤ 0xBF) &&
    0xE0 ≤ a && a < 0xF5

/-- The number of bytes, after the first one, that a character which is cut short takes with it. -/
def cutShort : List UInt8 → Nat
  | a :: b :: rest =>
    if !fits a b then 0
    else if 0xF0 ≤ a && (rest.head?.bind continuation?).isSome then 2
    else 1
  | _ => 0

/-- The characters of a byte sequence, of which the first `skip` bytes are already accounted for;
`done` holds the characters before them, the latest first. -/
def mendFrom (done : List Char) : Nat → List UInt8 → List Char
  | _, [] => done.reverse
  | skip + 1, _ :: bs => mendFrom done skip bs
  | 0, b :: bs =>
    match firstChar? (b :: bs) with
    | some (c, width) => mendFrom (c :: done) (width - 1) bs
    | none => mendFrom ('\uFFFD' :: done) (cutShort (b :: bs)) bs

/-- The text of a byte sequence in which each stray byte, together with those that go on from it as
in a character, is replaced. -/
def mend (bytes : List UInt8) : String :=
  String.ofList (mendFrom [] 0 bytes)

def utf8 (s : String) : List UInt8 :=
  s.toList.flatMap String.utf8EncodeChar

end Vigil.Text

import Vigil.Positional
import Vigil.Text.Numeral

/-!
# Internet addresses

An IPv4 address is written as four decimal numbers with dots between them, none with a leading zero.
An IPv6 address is written as eight groups of hexadecimal digits with colons between them, of which
the last two may take the form of an IPv4 address; two colons stand for one or more groups of zeros.
-/

namespace Vigil

inductive Address where
  | v4 (bits : BitVec 32)
  | v6 (bits : BitVec 128)
  deriving DecidableEq, Repr

namespace Address

/-! ## Writing -/

/-- The four numbers of an IPv4 address. -/
def octets (bits : BitVec 32) : List Nat :=
  Positional.digits 256 4 bits.toNat

/-- The eight groups of an IPv6 address. -/
def segments (bits : BitVec 128) : List Nat :=
  Positional.digits 65536 8 bits.toNat

def dotted (bits : BitVec 32) : String :=
  ".".intercalate ((octets bits).map toString)

def colons (groups : List Nat) : String :=
  ":".intercalate (groups.map fun g => String.ofList (Text.hex4 g))

def zeros (groups : List Nat) : Nat :=
  (groups.takeWhile (· == 0)).length

/-- The first of the longest runs of zeros in a list: where it starts, and its length. -/
def longestZeros (groups : List Nat) : Nat × Nat :=
  (List.range groups.length).foldl
    (fun best i =>
      let n := zeros (groups.drop i)
      if best.2 < n then (i, n) else best)
    (0, 0)

/-- An IPv6 address as it is written: an embedded IPv4 address in dots, and otherwise two colons for
the first of the longest runs of two zeros or more. -/
def hexadecimal (bits : BitVec 128) : String :=
  if (segments bits).take 6 = [0, 0, 0, 0, 0, 0xFFFF] then "::ffff:" ++ dotted (bits.truncate 32)
  else
    let groups := segments bits
    let (start, n) := longestZeros groups
    if 1 < n then colons (groups.take start) ++ "::" ++ colons (groups.drop (start + n))
    else colons groups

protected def toString : Address → String
  | v4 bits => dotted bits
  | v6 bits => hexadecimal bits

/-- An address and a port as they are written; the address is in brackets if it has colons. -/
def withPort (a : Address) (port : Nat) : String :=
  match a with
  | v4 bits => dotted bits ++ ":" ++ toString port
  | v6 bits => "[" ++ hexadecimal bits ++ "]:" ++ toString port

/-! ## Reading -/

/-- A number of one to three decimal digits below 256 without a leading zero, and what follows. -/
def octet? (cs : List Char) : Option (Nat × List Char) := do
  let digits := cs.takeWhile fun c => (Text.digit? c).isSome
  let n ← Text.natural? digits
  if digits.length ≤ 3 ∧ n < 256 ∧ (digits.head? = some '0' → digits.length = 1) then
    return (n, cs.drop digits.length)
  else none

/-- What follows a character at the start of a list. -/
def after? (c : Char) : List Char → Option (List Char)
  | d :: cs => if d = c then some cs else none
  | [] => none

/-- Four numbers with dots between them, and what follows. -/
def octets? (cs : List Char) : Option (List Nat × List Char) := do
  let (a, cs) ← octet? cs
  let (b, cs) ← octet? (← after? '.' cs)
  let (c, cs) ← octet? (← after? '.' cs)
  let (d, cs) ← octet? (← after? '.' cs)
  return ([a, b, c, d], cs)

/-- One to four hexadecimal digits, and what follows. -/
def group? (cs : List Char) : Option (Nat × List Char) :=
  let digits := cs.takeWhile fun c => (Text.hexDigit? c).isSome
  if digits.isEmpty || 4 < digits.length then none
  else
    some (digits.foldl (fun n c => 16 * n + (Text.hexDigit? c).getD 0) 0, cs.drop digits.length)

structure Groups where
  values : List Nat
  /-- Whether the last two take the form of an IPv4 address. -/
  embedded : Bool
  rest : List Char

/-- Up to `limit` groups with colons between them; `first` tells that none has been read yet. -/
def groups (first : Bool) : Nat → List Char → Groups
  | 0, cs => ⟨[], false, cs⟩
  | limit + 1, cs =>
    match if first then some cs else after? ':' cs with
    | none => ⟨[], false, cs⟩
    | some body =>
      match if 0 < limit then octets? body else none with
      | some (os, rest) =>
        ⟨[Positional.value 256 (os.take 2), Positional.value 256 (os.drop 2)], true, rest⟩
      | none =>
        match group? body with
        | none => ⟨[], false, cs⟩
        | some (g, rest) =>
          let more := groups false limit rest
          { more with values := g :: more.values }

def v6? (cs : List Char) : Option (List Nat × List Char) := do
  let head := groups true 8 cs
  if head.values.length = 8 then return (head.values, head.rest)
  else if head.embedded then none
  else
    let rest ← after? ':' (← after? ':' head.rest)
    let tail := groups true (7 - head.values.length) rest
    let gap := List.replicate (8 - head.values.length - tail.values.length) 0
    return (head.values ++ gap ++ tail.values, tail.rest)

def ofString? (s : String) : Option Address :=
  match octets? s.toList with
  | some (os, []) => some (v4 (BitVec.ofNat 32 (Positional.value 256 os)))
  | some (_, _ :: _) => none
  | none =>
    match v6? s.toList with
    | some (gs, []) => some (v6 (BitVec.ofNat 128 (Positional.value 65536 gs)))
    | _ => none

end Address

end Vigil

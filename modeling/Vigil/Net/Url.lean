import Vigil.Text.Code
import Vigil.Text.Numeral

/-!
# Addresses of pages

The parts of an address that begins with `http://`: the host, the port, and the path with the query.
-/

namespace Vigil

/-- An address that is reached over a plain connection. -/
structure Url where
  host : String
  port : Nat
  /-- The path with the query, as it goes out. -/
  target : String
  deriving DecidableEq, Repr

namespace Url

def afterScheme? (cs : List Char) : Option (List Char) :=
  if (cs.take 7).map Char.toLower = "http://".toList then some (cs.drop 7) else none

/-- Whether a character ends the part of an address that names the host. -/
def endsHost (c : Char) : Bool :=
  c ∈ ['/', '?', '#', '\\']

/-- The host and the port that a text names; what stands before an at sign is about the user. The
host may stand in brackets. -/
def hostPort? (cs : List Char) : Option (String × Nat) := do
  let cs := (cs.reverse.takeWhile (· ≠ '@')).reverse
  let (host, rest) := match cs with
    | '[' :: cs => (cs.takeWhile (· ≠ ']'), (cs.dropWhile (· ≠ ']')).drop 1)
    | cs => (cs.takeWhile (· ≠ ':'), cs.dropWhile (· ≠ ':'))
  if host.isEmpty then none
  else
    match rest with
    | [] | [':'] => return (String.ofList host, 80)
    | ':' :: digits =>
      let port ← (Text.natural? digits).filter (· < 65536)
      return (String.ofList host, port)
    | _ => none

/-- A byte of a target as it goes out: what is not a visible character of ASCII is encoded. -/
def escape (b : UInt8) : List Char :=
  if 0x21 ≤ b && b ≤ 0x7E then [Char.ofNat b.toNat]
  else
    ['%', (Text.hexDigit (b.toNat / 16)).toUpper, (Text.hexDigit (b.toNat % 16)).toUpper]

/-- The target that the rest of an address asks for. -/
def targetOf (cs : List Char) : String :=
  let shown := cs.takeWhile (· ≠ '#')
  let rooted := match shown with
    | '/' :: cs => '/' :: cs
    | cs => '/' :: cs
  String.ofList ((Text.utf8 (String.ofList rooted)).flatMap escape)

/-- The parts of an address, if it can be reached over a plain connection. -/
def ofString? (s : String) : Option Url := do
  let cs ← afterScheme? s.toList
  let (host, port) ← hostPort? (cs.takeWhile (!endsHost ·))
  return ⟨host, port, targetOf (cs.dropWhile (!endsHost ·))⟩

/-- The host and, unless it goes without saying, the port. -/
def authority (u : Url) : String :=
  let host := if u.host.contains ':' then "[" ++ u.host ++ "]" else u.host
  if u.port = 80 then host else host ++ ":" ++ toString u.port

end Url

end Vigil

import Vigil.Http.Message

/-!
# Access

A guarded route is open to requests whose first authorization header holds the token, alone or after
the word `Bearer`.
-/

namespace Vigil

/-- Why a request is not let in. -/
inductive Denial where
  | missing
  | invalid
  deriving DecidableEq, Repr

def Denial.response : Denial → Http.Response
  | missing => .ofText 401 "Missing Authorization header"
  | invalid => .ofText 403 "Invalid token"

namespace Access

/-- A byte that may stand in a readable header: printable ASCII or a tab. -/
def isReadable (b : UInt8) : Bool :=
  (0x20 ≤ b && b < 0x7F) || b == 0x09

/-- The text of a header's value, if all of it is readable. -/
def readable? (value : List UInt8) : Option String :=
  if value.all isReadable then some (String.ofList (value.map fun b => Char.ofNat b.toNat))
  else none

/-- What follows a prefix of a list, or the whole list where it has no such prefix. -/
def withoutPrefix (lead cs : List Char) : List Char :=
  if lead.isPrefixOf cs then cs.drop lead.length else cs

/-- The token that a readable header holds. -/
def token (value : String) : String :=
  String.ofList (Text.trimChars (withoutPrefix "Bearer ".toList value.toList))

def presented? (r : Http.Request) : Option String :=
  (((r.headers.get? "authorization").bind readable?).map token).filter (¬ ·.isEmpty)

/-- Why a request is not let in with the token `expected`, or none if it is. -/
def deny? (expected : String) (r : Http.Request) : Option Denial :=
  match presented? r with
  | none => some .missing
  | some t => if t = expected then none else some .invalid

end Access

end Vigil

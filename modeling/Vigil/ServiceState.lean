import Vigil.Json.Basic
import Vigil.Json.Decode
import Vigil.Text.Blank

/-!
# The states of a service

A report gives the state of each service as a text. A text that names no state is unknown.
-/

namespace Vigil

inductive ServiceState where
  | pass
  | warn
  | fail
  deriving DecidableEq, Repr, Inhabited

namespace ServiceState

def all : List ServiceState :=
  [pass, warn, fail]

def name : ServiceState → String
  | pass => "pass"
  | warn => "warn"
  | fail => "fail"

def isPass : ServiceState → Bool
  | pass => true
  | warn | fail => false

def ofName? (s : String) : Option ServiceState :=
  all.find? (·.name == s)

/-- The state that a reported text names once its blanks are trimmed, or else the trimmed text. -/
def parse (raw : String) : Except String ServiceState :=
  let text := Text.trim raw
  match ofName? text with
  | some state => .ok state
  | none => .error text

def unknownMessage (text : String) : String :=
  "unknown service status '" ++ text ++ "'"

def toJson (s : ServiceState) : Json :=
  .text s.name

def decode : Json.Decode ServiceState :=
  Json.Decode.variant fun s => (ofName? s).map .unit

end ServiceState

end Vigil

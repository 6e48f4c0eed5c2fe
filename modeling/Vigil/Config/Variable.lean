import Vigil.Config.Basic
import Vigil.Config.Fault
import Vigil.Positional
import Vigil.Text.Blank

/-!
# Variables

Nine settings can be given by variables of the environment. They are taken in a fixed order, up to
the first one whose value cannot be read.
-/

namespace Vigil

/-- The values of the variables that are set, by their keys. -/
abbrev Environment := String → Option String

inductive Variable where
  | address
  | port
  | authToken
  | inactivityDelay
  | toFailed
  | toLow
  | toHigh
  | logLevel
  | dashboard
  deriving DecidableEq, Repr

namespace Variable

/-- All variables in the order in which they are taken. -/
def all : List Variable :=
  [address, port, authToken, inactivityDelay, toFailed, toLow, toHigh, logLevel, dashboard]

def name : Variable → String
  | address => "ADDRESS"
  | port => "PORT"
  | authToken => "AUTH_TOKEN"
  | inactivityDelay => "PROBE_INACTIVITY_DELAY"
  | toFailed => "DEGRADED_TO_FAILED"
  | toLow => "FAILED_TO_ALERTED_LOW"
  | toHigh => "ALERTED_LOW_TO_ALERTED_HIGH"
  | logLevel => "LOGGING_LEVEL"
  | dashboard => "DASHBOARD"

def key (v : Variable) : String :=
  "SENTINEL_" ++ v.name

def bool? : String → Option Bool
  | "true" => some true
  | "false" => some false
  | _ => none

/-- The configuration with one setting given by the value of its variable, if that can be read.
Blanks around a value count only where a text is given. -/
def set? (v : Variable) (value : String) (c : Config) : Option Config :=
  let trimmed := Text.trim value
  let word := Text.unsigned? Positional.word64 trimmed
  match v with
  | address => (Address.ofString? trimmed).map fun a => { c with address := a }
  | port => (Text.unsigned? 65536 trimmed).map fun n => { c with port := n }
  | authToken => some { c with authToken := some value }
  | inactivityDelay => some { c with inactivityDelay := value }
  | toFailed => word.map fun n => { c with thresholds.toFailed := n }
  | toLow => word.map fun n => { c with thresholds.toLow := n }
  | toHigh => word.map fun n => { c with thresholds.toHigh := n }
  | logLevel => some { c with logLevel := value }
  | dashboard => (bool? trimmed).map fun b => { c with dashboard := b }

/-- The configuration with one variable applied, if it is set. -/
def apply (env : Environment) (c : Config) (v : Variable) : Except ConfigFault Config :=
  match env v.key with
  | none => .ok c
  | some value =>
    match v.set? value c with
    | some c => .ok c
    | none => .error (.invalidVariable v.key value)

/-- The configuration with variables applied in order, as far as that goes, and the fault of the
first one that cannot be read. -/
def applyAll (env : Environment) : List Variable → Config → Config × Option ConfigFault
  | [], c => (c, none)
  | v :: vs, c =>
    match v.apply env c with
    | .ok c => applyAll env vs c
    | .error f => (c, some f)

end Variable

/-- The configuration with all variables of an environment applied, as far as that goes. -/
def Config.override (env : Environment) (c : Config) : Config × Option ConfigFault :=
  Variable.applyAll env Variable.all c

end Vigil

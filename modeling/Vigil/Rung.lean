import Vigil.Json.Basic
import Vigil.Json.Decode

/-!
# The escalation ladder

A machine stands on one of five rungs. Silence takes it up one rung after another, to the topmost at
last.
-/

namespace Vigil

/-- The rungs of the ladder, from the lowest to the highest. -/
inductive Rung where
  | normal
  | degraded
  | failed
  | alertedLow
  | alertedHigh
  deriving DecidableEq, Repr, Inhabited

namespace Rung

def all : List Rung :=
  [normal, degraded, failed, alertedLow, alertedHigh]

def name : Rung → String
  | normal => "normal"
  | degraded => "degraded"
  | failed => "failed"
  | alertedLow => "alertedLow"
  | alertedHigh => "alertedHigh"

/-- The rung above, or the topmost rung itself. -/
def next : Rung → Rung
  | normal => degraded
  | degraded => failed
  | failed => alertedLow
  | alertedLow | alertedHigh => alertedHigh

/-- The number of rungs below. -/
def height : Rung → Nat
  | normal => 0
  | degraded => 1
  | failed => 2
  | alertedLow => 3
  | alertedHigh => 4

def ofName? (s : String) : Option Rung :=
  all.find? (·.name == s)

def toJson (r : Rung) : Json :=
  .text r.name

def decode : Json.Decode Rung :=
  Json.Decode.variant fun s => (ofName? s).map .unit

end Rung

end Vigil

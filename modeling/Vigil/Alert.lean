import Vigil.Json.Basic

/-!
# Alerts

An alert is about a machine or one of its services and has a severity.
-/

namespace Vigil

/-- What an alert is about. -/
inductive Category where
  | machine
  | service
  deriving DecidableEq, Repr, Inhabited

def Category.name : Category → String
  | machine => "machine"
  | service => "service"

def Category.title : Category → String
  | machine => "Machine"
  | service => "Service"

inductive Severity where
  | low
  | high
  | panic
  deriving DecidableEq, Repr, Inhabited

def Severity.name : Severity → String
  | low => "low"
  | high => "high"
  | panic => "panic"

/-- An alert about the entity `name`. -/
structure Alert where
  category : Category
  name : String
  severity : Severity
  deriving DecidableEq, Repr, Inhabited

namespace Alert

def message (a : Alert) : String :=
  a.category.title ++ " " ++ a.name ++ " alert level is " ++ a.severity.name

/-- The name under which alerts about a service of a machine go out. -/
def serviceName (machine service : String) : String :=
  machine ++ "-" ++ service

end Alert

end Vigil

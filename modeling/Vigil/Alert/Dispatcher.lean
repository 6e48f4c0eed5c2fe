import Vigil.Alert.Binding

/-!
# Dispatch of alerts

Alerts of low severity go to the provider in the low slot, all others to the one in the high slot.
An alert for an empty slot is dropped. What becomes of an alert is noted and nothing else.
-/

namespace Vigil

structure Provider where
  name : String
  send : Alert → Delivery

/-- The provider of a binding; `exchange` gives the reply to what it posts. -/
def Binding.provider (exchange : Post → Option Reply) (timestamp : String) (b : Binding) :
    Provider where
  name := b.name
  send a := b.judge (exchange (b.post timestamp a))

def Severity.slot : Severity → Slot
  | low => .low
  | high | panic => .high

/-- The two slots with their providers. -/
structure Dispatcher where
  low : Option Provider
  high : Option Provider

/-- A call of the provider in a slot. -/
structure Call where
  alert : Alert
  slot : Slot
  deriving DecidableEq, Repr

namespace Dispatcher

/-- The dispatcher without providers. -/
def empty : Dispatcher :=
  ⟨none, none⟩

def provider? (d : Dispatcher) : Slot → Option Provider
  | .low => d.low
  | .high => d.high

/-- The dispatcher for the given bindings, and the notices about slots without one. -/
def ofBindings (provider : Binding → Provider) (low high : Option Binding) :
    Dispatcher × List Notice :=
  let missing (slot : Slot) (b : Option Binding) : List Notice :=
    if b.isNone then [.slotUnbound slot] else []
  (⟨low.map provider, high.map provider⟩, missing .low low ++ missing .high high)

def disabled : Dispatcher × List Notice :=
  (empty, [.alertsDisabled])

/-- The call that an alert leads to, if its slot has a provider. -/
def call? (d : Dispatcher) (a : Alert) : Option Call :=
  (d.provider? a.severity.slot).map fun _ => ⟨a, a.severity.slot⟩

def notices (d : Dispatcher) (a : Alert) : List Notice :=
  match d.provider? a.severity.slot with
  | none => [.unbound a]
  | some p =>
    let delivery := p.send a
    let failure := delivery.failure.toList.map (.undelivered a.severity p.name)
    .sending a.severity p.name :: delivery.notices ++ failure

def calls (d : Dispatcher) (events : List (Stamped Event)) : List (Stamped Call) :=
  events.filterMap fun e => (e.value.alert?.bind d.call?).map (Stamped.mk e.instant)

/-- What is noted during a course of events. -/
def log (d : Dispatcher) (events : List (Stamped Event)) : List Notice :=
  events.flatMap fun e =>
    match e.value with
    | .alert a => d.notices a
    | .notice n => [n]

def describeSlot : Option Provider → String
  | some p => "Some(\"" ++ p.name ++ "\")"
  | none => "None"

def describe (d : Dispatcher) : String :=
  "AlertDispatcher \x7b low: " ++ describeSlot d.low ++ ", high: " ++ describeSlot d.high ++ " \x7d"

end Dispatcher

end Vigil

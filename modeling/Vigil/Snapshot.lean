import Vigil.Probe

/-!
# Snapshots

What is told of the probes from outside: a snapshot lists the machines with the rungs they are shown
on, and the state of a single probe tells more of it.
-/

namespace Vigil

/-- A machine and the rung it is shown on. -/
structure Summary where
  name : String
  rung : Rung
  deriving DecidableEq, Repr, Inhabited

namespace Summary

def toJson (s : Summary) : Json :=
  .object [("name", .text s.name), ("status", s.rung.toJson)]

structure Draft where
  name : Option String
  rung : Option Rung

def fields : List (Json.Decode.RecordField Draft) :=
  [⟨"name", (·.name.isSome),
      fun d v => do return { d with name := some (← Json.Decode.text v) }, false⟩,
    ⟨"status", (·.rung.isSome),
      fun d v => do return { d with rung := some (← Rung.decode v) }, false⟩]

def decode : Json.Decode Summary := fun v => do
  let d ← Json.Decode.record fields ⟨none, none⟩ v
  return ⟨← Json.Decode.required d.name, ← Json.Decode.required d.rung⟩

end Summary

/-- The machines that are watched, in the order in which they were registered. -/
structure Snapshot where
  probes : List Summary
  deriving DecidableEq, Repr, Inhabited

namespace Snapshot

def toJson (s : Snapshot) : Json :=
  .object [("probes", .array (s.probes.map Summary.toJson))]

def fields : List (Json.Decode.RecordField (Option (List Summary))) :=
  [⟨"probes", Option.isSome,
      fun _ v => do return some (← Json.Decode.list Summary.decode v), false⟩]

def decode : Json.Decode Snapshot := fun v => do
  return ⟨← Json.Decode.required (← Json.Decode.record fields none v)⟩

/-- The first summary of the given name. -/
def get? (s : Snapshot) (name : String) : Option Summary :=
  s.probes.find? (·.name == name)

end Snapshot

structure ProbeState where
  name : String
  rung : Rung
  counter : Nat
  /-- The instant of the last report, or of the start. -/
  heard : Nat
  /-- The number of reports in its history. -/
  size : Nat
  deriving DecidableEq, Repr, Inhabited

def Probe.summary (p : Probe) : Summary :=
  ⟨p.name, p.shown⟩

def Probe.state (p : Probe) : ProbeState :=
  ⟨p.name, p.rung, p.counter, p.heard, p.history.size⟩

/-- What a probe answers when it is asked. One that is lost does not answer. -/
def Probe.state? (p : Probe) : Option ProbeState :=
  if p.lost then none else some p.state

end Vigil

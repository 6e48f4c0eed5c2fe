import Vigil.Json.Decode
import Vigil.Registry
import Vigil.Text.Blank

/-!
# Payloads

What a machine reports about its services. A payload can ask instead that the machine be deleted.
-/

namespace Vigil

structure Payload where
  services : Roster String
  machineStatus : Option String

namespace Payload

structure Draft where
  services : Option (Roster String)
  machineStatus : Option (Option String)

open Json.Decode in
def fields : List (RecordField Draft) :=
  [⟨"services", (·.services.isSome),
      fun d v => do return { d with services := some (Roster.ofList (← members text v)) }, true⟩,
    ⟨"machineStatus", (·.machineStatus.isSome),
      fun d v => do return { d with machineStatus := some (← nullable text v) }, true⟩]

def decode : Json.Decode Payload := fun v => do
  let d ← Json.Decode.record fields ⟨none, none⟩ v
  return ⟨d.services.getD .empty, d.machineStatus.getD none⟩

def isDelete (p : Payload) : Bool :=
  p.machineStatus.any fun s => Text.asciiLower (Text.trim s) == "delete"

def submission (machine : String) (p : Payload) : Submission :=
  if p.isDelete then .delete machine else .report machine p.services

end Payload

end Vigil

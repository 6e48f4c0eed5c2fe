import Vigil.Evaluation
import Vigil.Roster

/-!
# The history of a machine's reports

The reports of a machine are kept the newest first. Each entry counts, for every service, how many
reports in a row found it in the same state; the count is computed from the entry before alone. A
history longer than its cap is trimmed: not beyond the start of the longest run that its latest
failing entry records, as far as the cap allows.
-/

namespace Vigil

/-- A report as the history keeps it. -/
structure Entry where
  timestamp : Int
  services : Roster Observation
  deriving Inhabited

def Entry.allPass (e : Entry) : Bool :=
  e.services.values.all (·.state.isPass)

/-- The length of the longest run that an entry records, and at least one. -/
def Entry.longestRun (e : Entry) : Nat :=
  max 1 ((e.services.values.map (·.count)).foldl max 0)

/-- The state that a reported text stands for: one that names no state counts as a failure. -/
def reportedState (raw : String) : ServiceState :=
  match ServiceState.parse raw with
  | .ok state => state
  | .error _ => .fail

/-- What a report says about a service of which the entry before says `previous`. -/
def observe (previous : Option Observation) (raw : String) : Observation :=
  let state := reportedState raw
  let count :=
    if state.isPass then 0
    else
      match previous with
      | some p => if p.state = state then p.count + 1 else 1
      | none => 1
  ⟨state, count⟩

/-- The entry of a report that follows the entry `previous`. -/
def Entry.next (previous : Option Entry) (timestamp : Int) (services : Roster String) : Entry where
  timestamp := timestamp
  services := services.map fun name raw =>
    observe (previous.bind (·.services.find? name)) raw

inductive TrimOutcome where
  | untouched
  | collapsedToHead
  | cutAtCap
  | cutAtFailure (retained : Nat)
  deriving DecidableEq, Repr

/-- The entries kept of a machine's reports. -/
structure History where
  /-- The length up to which a history is left alone. -/
  cap : Nat
  cap_pos : 0 < cap
  /-- The newest entry is the first. -/
  entries : List Entry

namespace History

def defaultCap : Nat := 100

/-- The empty history with the given cap; a cap of zero counts as one. -/
def withCap (cap : Nat) : History where
  cap := max 1 cap
  cap_pos := Nat.lt_of_lt_of_le Nat.zero_lt_one (Nat.le_max_left 1 cap)
  entries := []

def empty : History :=
  withCap defaultCap

instance : Inhabited History :=
  ⟨empty⟩

def size (h : History) : Nat :=
  h.entries.length

def head? (h : History) : Option Entry :=
  h.entries.head?

def needsTrim (h : History) : Bool :=
  h.cap < h.size

def store (h : History) (timestamp : Int) (services : Roster String) : History :=
  { h with entries := Entry.next h.head? timestamp services :: h.entries }

/-- The number of entries that a trim keeps, and what it reports. -/
def trimPlan (h : History) : Nat × TrimOutcome :=
  if !h.needsTrim then (h.size, .untouched)
  else
    match h.entries.findIdx? (!·.allPass) with
    | none => (1, .collapsedToHead)
    | some i =>
      if h.cap ≤ i then (h.cap, .cutAtCap)
      else
        let run := (h.entries[i]?.map Entry.longestRun).getD 1
        let kept := min (i + run) h.cap
        (kept, .cutAtFailure (min kept h.size))

def trim (h : History) : History × TrimOutcome :=
  ({ h with entries := h.entries.take h.trimPlan.1 }, h.trimPlan.2)

end History

end Vigil

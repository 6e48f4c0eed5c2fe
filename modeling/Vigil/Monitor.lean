import Vigil.Registry

/-!
# The monitor

The monitor is the registry on a clock. Once it is shut down nothing reaches the registry any more:
each request is refused, and time passes without effect.
-/

namespace Vigil

/-- Requests that a stopped monitor refuses. -/
inductive Refusal where
  | submission
  | snapshot
  | state
  | shutdown
  deriving DecidableEq, Repr

namespace Refusal

def attempt : Refusal → String
  | submission => "registry ingress closed"
  | snapshot => "failed to send Snapshot command"
  | state => "failed to send ProbeState command"
  | shutdown => "registry already stopped"

def cause : String :=
  "channel closed"

def message (r : Refusal) : String :=
  r.attempt ++ ": " ++ cause

end Refusal

/-- A clock and the registry, if it runs. -/
structure Monitor where
  now : Nat
  registry : Option Registry
  deriving Inhabited

namespace Monitor

/-- Whether snapshots can be taken at an interval: there is time between two of them, and the first
one is within the reach of the clock. -/
def canKeep (s : Settings) (interval : Duration) : Bool :=
  interval.millis ≠ 0 && s.reaches interval.millis

/-- A monitor at the instant zero. The registry does not run with a dashboard whose interval cannot
be kept. -/
def start (s : Settings) (dashboard : Bool) : Monitor where
  now := 0
  registry :=
    if dashboard && !s.dashboardInterval.all (canKeep s) then none else some (.start s dashboard 0)

def reach (refusal : Refusal) (m : Monitor) : Except Refusal Registry :=
  match m.registry with
  | some r => .ok r
  | none => .error refusal

/-- The monitor after a batch of submissions, and what they give rise to. -/
def submit (batch : List Submission) (m : Monitor) :
    Except Refusal (Monitor × List (Stamped Event)) := do
  let r ← m.reach .submission
  let (r, events) := r.ingest m.now batch
  return ({ m with registry := some r }, events.map (Stamped.mk m.now))

def snapshot (m : Monitor) : Except Refusal Snapshot := do
  return (← m.reach .snapshot).snapshot

def state (machine : String) (m : Monitor) : Except Refusal (Option ProbeState) := do
  return (← m.reach .state).state? machine

/-- All probes in the order of their registration, and what each of them answers when it is asked
for its state. -/
def states (m : Monitor) : Except Refusal (List (Summary × Option ProbeState)) := do
  return (← m.reach .snapshot).probes.values.map fun p => (p.summary, p.state?)

/-- The monitor after its registry has gone without a word. -/
def abandon (m : Monitor) : Monitor :=
  { m with registry := none }

def shutdown (m : Monitor) : Except Refusal (Monitor × List (Stamped Event)) := do
  let r ← m.reach .shutdown
  let notices := .shuttingDown r.probes.size :: r.probes.values.flatMap Probe.parting
  return (m.abandon, notices.map fun n => ⟨m.now, .notice n⟩)

def advance (span : Nat) (m : Monitor) : Monitor × Registry.Trace :=
  let now := m.now + span
  match m.registry with
  | some r =>
    let (r, trace) := r.advance now
    (⟨now, some r⟩, trace)
  | none => (⟨now, none⟩, ⟨[], []⟩)

end Monitor

end Vigil

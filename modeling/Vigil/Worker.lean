import Vigil.Snapshot

/-!
# Workers

A worker runs a single probe on a clock. It serves its mailbox until it is told to stop, nobody is
left to post to it or its probe is lost; then its probe stays as it is.
-/

namespace Vigil

structure Worker where
  settings : Settings
  probe : Probe
  now : Nat
  running : Bool
  /-- Whether somebody can still post to the worker. -/
  reachable : Bool
  deriving Inhabited

namespace Worker

/-- Why a report is not taken. -/
inductive Refusal where
  /-- The worker runs no more. -/
  | ended
  /-- Nobody can post to the worker. -/
  | unreachable
  /-- The report is from another machine than the one watched; there is no way to go on. -/
  | misdirected
  deriving DecidableEq, Repr

def start (s : Settings) (machine : String) (history : History) : Worker where
  settings := s
  probe := .start s machine 0 history
  now := 0
  running := true
  reachable := true

/-- The worker after a report from a machine, and what the report gives rise to. -/
def report (machine : String) (services : Roster String) (w : Worker) :
    Except Refusal (Worker × List (Stamped Event)) :=
  if !w.reachable then .error .unreachable
  else if !w.running then .error .ended
  else if machine ≠ w.probe.name then .error .misdirected
  else
    let (p, events) := w.probe.report w.settings w.now (w.now / 1000) services
    .ok ({ w with probe := p, running := !p.lost }, events.map (Stamped.mk w.now))

/-- The worker after a span of time, and what its ticks give rise to. -/
def advance (span : Nat) (w : Worker) : Worker × List (Stamped Event) :=
  let now := w.now + span
  if w.running then
    let (p, events) := w.probe.advance w.settings now
    ({ w with now := now, probe := p, running := !p.lost }, events)
  else ({ w with now := now }, [])

def stop (w : Worker) : Worker :=
  { w with running := false }

/-- The worker after the last who could post to it has gone, and what it says when it notices. -/
def abandon (w : Worker) : Worker × List (Stamped Event) :=
  ({ w with running := false, reachable := false },
    if w.running then [⟨w.now, .notice .mailboxClosed⟩] else [])

def state? (w : Worker) : Option ProbeState :=
  if w.running then some w.probe.state else none

end Worker

end Vigil

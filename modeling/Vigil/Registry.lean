import Vigil.Snapshot

/-!
# The registry

The registry holds one probe for each machine that has reported and has not been deleted since. What
is submitted is routed in order: a report goes to the mailbox of its machine's probe, which is
registered at its first report, and a deletion strikes the probe off. A mailbox holds one report.
While the registry waits, for a full mailbox or for a deleted probe to stop, all other probes serve
theirs; a probe that is told to stop leaves its mailbox unread. Registry and probes take turns: the
registry also waits when it has taken as many steps as make up a stint. To take in a submission is
one step, and to put a report into a mailbox is another.

For the dashboard a snapshot is published at regular intervals.
-/

namespace Vigil

inductive Submission where
  | report (machine : String) (services : Roster String)
  | delete (machine : String)

/-- The probes of all machines. -/
structure Registry where
  settings : Settings
  probes : Roster Probe
  /-- The instant of the next snapshot for the dashboard, if there is one. -/
  nextSnapshot : Option Nat
  deriving Inhabited

namespace Registry

/-- The registry without machines at the instant `now`, with or without a dashboard. -/
def start (s : Settings) (dashboard : Bool) (now : Nat) : Registry where
  settings := s
  probes := .empty
  nextSnapshot := if dashboard then s.dashboardInterval.map (now + ·.millis) else none

def registered (r : Registry) (machine : String) : Bool :=
  r.probes.contains machine

/-! ## Routing -/

/-- The registry with a probe for the machine, and the notice if the probe is new. -/
def register (now : Nat) (machine : String) (r : Registry) : Registry × List Event :=
  if r.registered machine then (r, [])
  else
    ({ r with probes := r.probes.insert machine (.start r.settings machine now .empty) },
      [.notice (.registering machine)])

/-- The registry after the probe of a machine has taken a report, and what it gives rise to. -/
def fold (now : Nat) (machine : String) (services : Roster String) (r : Registry) :
    Registry × List Event :=
  match r.probes.find? machine with
  | none => (r, [])
  | some p =>
    if p.lost then (r, [.notice (.undeliverable machine)])
    else
      let (q, events) := p.report r.settings now (now / 1000) services
      ({ r with probes := r.probes.insert machine q }, events)

/-- A registry whose probes have reports in their mailboxes, and what has come up so far. -/
structure Routing where
  registry : Registry
  /-- The waiting reports, one at most for each machine. -/
  waiting : Roster (Roster String)
  /-- The steps that are left of the stint. -/
  left : Nat
  events : List Event

/-- The state after the mailbox of one machine has been served. -/
def Routing.serveOne (now : Nat) (machine : String) (services : Roster String) (s : Routing) :
    Routing :=
  let (registry, events) := s.registry.fold now machine services
  { s with registry := registry, events := s.events ++ events }

/-- The state after all mailboxes have been served. -/
def Routing.serve (now : Nat) (s : Routing) : Routing :=
  s.waiting.entries.foldl (fun s e => s.serveOne now e.1 e.2) { s with waiting := .empty }

def Routing.stint : Nat := 128

def Routing.wait (now : Nat) (s : Routing) : Routing :=
  { s.serve now with left := stint }

/-- The state after one more step, before which the registry waits if it has to. -/
def Routing.step (now : Nat) (blocked : Bool) (s : Routing) : Routing :=
  let s := if blocked || s.left = 0 then s.wait now else s
  { s with left := s.left - 1 }

/-- The state after a report has been put into the mailbox of its probe. -/
def Routing.deliver (now : Nat) (machine : String) (services : Roster String) (s : Routing) :
    Routing :=
  let (registry, events) := s.registry.register now machine
  let s := { s with registry := registry, events := s.events ++ events }
  let s := s.step now (s.waiting.contains machine)
  { s with waiting := s.waiting.insert machine services }

/-- The state after the probe of a machine has been stopped and struck off. For a probe that is lost
there is nothing to wait for. -/
def Routing.strike (now : Nat) (machine : String) (p : Probe) (s : Routing) : Routing :=
  let notices := p.parting ++ [.deleted machine]
  Routing.step now (!p.lost)
    { s with
      registry := { s.registry with probes := s.registry.probes.erase machine }
      waiting := s.waiting.erase machine
      events := s.events ++ notices.map .notice }

def Routing.route (now : Nat) (s : Routing) (submission : Submission) : Routing :=
  let s := s.step now false
  match submission with
  | .report machine services => s.deliver now machine services
  | .delete machine =>
    match s.registry.probes.find? machine with
    | some p => s.strike now machine p
    | none => { s with events := s.events ++ [.notice (.unknownDelete machine)] }

/-- The registry after a batch of submissions that were all queued at the instant `now`, and what
they give rise to. -/
def ingest (now : Nat) (batch : List Submission) (r : Registry) : Registry × List Event :=
  let s := (batch.foldl (Routing.route now) ⟨r, .empty, Routing.stint, []⟩).serve now
  (s.registry, s.events)

/-! ## Queries -/

def snapshot (r : Registry) : Snapshot :=
  ⟨r.probes.values.map Probe.summary⟩

def state? (r : Registry) (machine : String) : Option ProbeState :=
  (r.probes.find? machine).bind Probe.state?

/-! ## Time -/

/-- The registry with all probes taken to the instant `until_`, and what their ticks give rise to,
machine by machine. -/
def tickUntil (until_ : Nat) (r : Registry) : Registry × List (Stamped Event) :=
  ({ r with probes := r.probes.map fun _ p => (p.advance r.settings until_).1 },
    r.probes.values.flatMap fun p => (p.advance r.settings until_).2)

/-- What happens while the clock moves. -/
structure Trace where
  events : List (Stamped Event)
  snapshots : List (Stamped Snapshot)
  deriving Inhabited

/-- One course of events after the other. -/
def Trace.join (traces : List Trace) : Trace :=
  ⟨traces.flatMap Trace.events, traces.flatMap Trace.snapshots⟩

/-- The number of snapshots due up to the instant `until_`. -/
def snapshotsDue (until_ : Nat) (r : Registry) : Nat :=
  match r.nextSnapshot, r.settings.dashboardInterval with
  | some next, some interval =>
    if interval.millis = 0 || until_ < next then 0 else (until_ - next) / interval.millis + 1
  | _, _ => 0

/-- The registry at the instant of its next snapshot, which has been published. -/
def publish (r : Registry) : Registry × Trace :=
  match r.nextSnapshot, r.settings.dashboardInterval with
  | some next, some interval =>
    let (r, events) := r.tickUntil next
    ({ r with nextSnapshot := some (next + interval.millis) }, ⟨events, [⟨next, r.snapshot⟩]⟩)
  | _, _ => (r, ⟨[], []⟩)

/-- The registry after `n` snapshots have been published. What has happened so far is listed the
latest first. -/
def publishTimes : Nat → Registry → List Trace → Registry × List Trace
  | 0, r, past => (r, past)
  | n + 1, r, past =>
    let (r, trace) := r.publish
    publishTimes n r (trace :: past)

/-- The registry at the instant `until_`, and what happens up to then. -/
def advance (until_ : Nat) (r : Registry) : Registry × Trace :=
  let (r, past) := publishTimes (r.snapshotsDue until_) r []
  let (r, events) := r.tickUntil until_
  (r, .join (⟨events, []⟩ :: past).reverse)

end Registry

end Vigil

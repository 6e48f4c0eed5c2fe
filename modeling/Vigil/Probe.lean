import Vigil.Duration
import Vigil.Event
import Vigil.History

/-!
# Probes

A probe watches one machine. A report is stored in the history, raises alerts about services whose
run of failures reaches a boundary, and takes the machine back to the lowest rung. When no report
comes for the inactivity delay, the probe ticks: the machine climbs the ladder, and alerts are
raised on its upper rungs. Reports and ticks arm the timer anew; queries do not. Reports and climbs
publish the rung. A probe whose timer would have to fire beyond the reach of the clock is lost: it
does nothing any more.
-/

namespace Vigil

/-- What governs the probes and the dashboard. -/
structure Settings where
  /-- The silence after which a probe ticks. -/
  delay : Duration
  thresholds : Thresholds
  /-- The time between two snapshots for the dashboard. -/
  dashboardInterval : Option Duration
  /-- What the clock reads at the instant zero, in milliseconds. -/
  epoch : Nat := 0
  deriving DecidableEq, Repr, Inhabited

def Settings.reaches (s : Settings) (instant : Nat) : Bool :=
  Duration.reaches (s.epoch + instant)

structure Probe where
  name : String
  rung : Rung
  /-- The ticks on the current rung; on the rung `degraded` those since the last report. -/
  counter : Nat
  history : History
  /-- The instant of the last report, or of the start. -/
  heard : Nat
  /-- The instant at which the timer fires. -/
  deadline : Nat
  /-- The rung as last published; all who look at a probe from outside see this one. -/
  shown : Rung
  /-- How often a rung has been published. -/
  publications : Nat
  /-- The timer could not be armed. -/
  lost : Bool
  deriving Inhabited

namespace Probe

/-- The probe of a machine that is watched from the instant `now` on. Its first deadline is kept as
it is, even where the clock does not reach that far. -/
def start (s : Settings) (name : String) (now : Nat) (history : History) : Probe where
  name := name
  rung := .normal
  counter := 0
  history := history
  heard := now
  deadline := now + s.delay.millis
  shown := .normal
  publications := 0
  lost := false

def publish (p : Probe) : Probe :=
  { p with shown := p.rung, publications := p.publications + 1 }

/-! ## Reports -/

/-- What a service of the latest entry gives rise to. -/
def serviceEvents (t : Thresholds) (machine : String) (service : String) (o : Observation) :
    List Event :=
  let name := Alert.serviceName machine service
  match o.evaluate t with
  | .quiet => []
  | .reachesLow => [.notice (.failing name o.count), .alert ⟨.service, name, .low⟩]
  | .reachesHigh => [.notice (.failing name o.count), .alert ⟨.service, name, .high⟩]
  | .stillFailing => [.notice (.stillFailing name o.count)]

def unknownStates (services : Roster String) : List Event :=
  services.entries.filterMap fun (service, raw) =>
    match ServiceState.parse raw with
    | .ok _ => none
    | .error text => some (.notice (.unknownState service text))

/-- What the services of the latest entry give rise to. -/
def evaluations (t : Thresholds) (p : Probe) : List Event :=
  match p.history.head? with
  | none => []
  | some entry =>
    entry.services.entries.flatMap fun (service, o) => serviceEvents t p.name service o

/-- The probe after its machine is taken back to the lowest rung. -/
def reset (now : Nat) (p : Probe) : Probe :=
  { p with rung := .normal, counter := 0, heard := now }.publish

def arm (s : Settings) (now : Nat) (p : Probe) : Probe :=
  let deadline := now + s.delay.millis
  { p with deadline := deadline, lost := !s.reaches deadline }

def storeReport (timestamp : Int) (services : Roster String) (p : Probe) : Probe :=
  { p with history := p.history.store timestamp services }

/-- The probe after a report, before its history is trimmed, and what the report gives rise to. -/
def fold (s : Settings) (now : Nat) (timestamp : Int) (services : Roster String) (p : Probe) :
    Probe × List Event :=
  let stored := p.storeReport timestamp services
  let recovery := if p.rung = .normal then [] else [.notice (.recovered p.name)]
  ((stored.reset now).arm s now,
    unknownStates services ++ stored.evaluations s.thresholds ++ recovery)

def trim (p : Probe) : Probe :=
  { p with history := p.history.trim.1 }

/-- The probe after a report at the instant `now`, and what the report gives rise to. -/
def report (s : Settings) (now : Nat) (timestamp : Int) (services : Roster String) (p : Probe) :
    Probe × List Event :=
  let (p, events) := p.fold s now timestamp services
  (p.trim, events)

/-! ## Ticks -/

def climb (p : Probe) : Probe :=
  { p with rung := p.rung.next, counter := 0 }.publish

/-- The notice that a machine is on a new rung at the instant `now`. -/
def silence (now : Nat) (p : Probe) : Event :=
  .notice (.silent p.name p.rung ((now - p.heard) / 1000))

/-- The probe with one more tick on its rung. -/
def count (p : Probe) : Probe :=
  { p with counter := p.counter + 1 }

/-- The probe after one more tick on its rung, from which `limit` ticks lead up, and the notice of
the climb. -/
def countTo (now limit : Nat) (p : Probe) : Probe × List Event :=
  let p := p.count
  if limit ≤ p.counter then (p.climb, [p.climb.silence now]) else (p, [])

def alert (severity : Severity) (p : Probe) : Event :=
  .alert ⟨.machine, p.name, severity⟩

/-- The probe one tick on, its timer aside, and what the tick gives rise to. The first tick of a
silence counts on the rung that it leads to, and may lead on from there. -/
def step (t : Thresholds) (now : Nat) (p : Probe) : Probe × List Event :=
  match p.rung with
  | .normal =>
    let (q, events) := p.climb.countTo now t.toFailed
    (q, p.climb.silence now :: events)
  | .degraded => p.countTo now t.toFailed
  | .failed =>
    let (q, events) := p.countTo now t.toLow
    (q, if events.isEmpty then [] else events ++ [p.alert .low])
  | .alertedLow =>
    let (q, events) := p.countTo now t.toHigh
    (q, if events.isEmpty then [] else events ++ [p.alert .high])
  | .alertedHigh =>
    let q := p.count
    (q, if q.counter % noticeInterval = 0 then [.notice (.stillAlerted p.name)] else [])

/-- The probe after its timer has fired, and what the tick gives rise to. -/
def tick (s : Settings) (p : Probe) : Probe × List Event :=
  if p.lost then (p, [])
  else
    let (q, events) := p.step s.thresholds p.deadline
    (q.arm s p.deadline, events)

/-- The notice about a probe that is told to stop, if it does not do so in good order. -/
def parting (p : Probe) : List Notice :=
  if p.lost then [.unclean p.name] else []

/-! ## Time -/

/-- The probe after `n` ticks; the events before them are listed the latest first. -/
def ticks (s : Settings) : Nat → Probe → List (Stamped Event) → Probe × List (Stamped Event)
  | 0, p, past => (p, past)
  | n + 1, p, past =>
    let (q, events) := p.tick s
    ticks s n q ((events.map (Stamped.mk p.deadline)).reverse ++ past)

/-- The number of times a timer fires up to the instant `until`. A timer without a delay never
fires. -/
def firings (s : Settings) (until_ : Nat) (p : Probe) : Nat :=
  if s.delay.millis = 0 || until_ < p.deadline then 0
  else (until_ - p.deadline) / s.delay.millis + 1

/-- The probe at the instant `until`, and what its ticks up to then give rise to. -/
def advance (s : Settings) (until_ : Nat) (p : Probe) : Probe × List (Stamped Event) :=
  let (q, past) := p.ticks s (p.firings s until_) []
  (q, past.reverse)

end Probe

end Vigil

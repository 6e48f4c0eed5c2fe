import Mathlib.Logic.Function.Basic
import Vigil.Proofs.Probe.Trimming
import Vigil.Registry

/-!
# Traffic

Clients, the registry and the workers of the probes run side by side, and everything that one of
them has for another goes through a queue. Clients put messages into the ingress and commands into a
queue of their own. The registry takes messages first, and commands when there are none. It holds
the handles of the workers by machine, and the list of machines beside them; it delivers a report
into the mailbox of a worker, and waits while the mailbox is full; it tells a worker to stop, and
waits until the worker has ended. A worker looks for the signal to stop first, then into its
mailbox, then at its timer. Queries come into the mailboxes from tasks of their own, and trims are
tasks of their own. When the registry is shut down it first stops all workers, then tells the client
who asked for it, and then ends; until it has ended its queues take in what clients put there. The
steps of all of them interleave in any order.
-/

namespace Vigil.Traffic

def ingressCapacity : Nat := 1024

def commandCapacity : Nat := 32

def mailboxCapacity : Nat := 1

/-- A submission, and the time at which it is said to have been made. -/
structure Message where
  timestamp : Int
  submission : Submission

inductive Command where
  | snapshot (client : Nat)
  | state (client : Nat) (machine : String)
  | shutdown (client : Nat)

inductive Answer where
  | snapshot (snapshot : Snapshot)
  | state (state : Option ProbeState)
  | stopped

/-- What lies in the mailbox of a worker. -/
inductive Letter where
  | report (machine : String) (r : Report)
  | query (client : Nat)

structure Post where
  tended : Probe.Tended
  mailbox : List Letter
  /-- The worker has been told to stop. -/
  stopping : Bool
  ended : Bool

/-- What the registry holds of a worker, which is known by its number. -/
structure Handle where
  name : String
  serial : Nat

inductive Phase where
  | idle
  | delivering (serial : Nat) (machine : String) (r : Report)
  /-- The worker of a deleted machine has still to end. -/
  | removing (serial : Nat)
  /-- The rest of the workers have still to be stopped, on behalf of a client if there is one. -/
  | closing (client : Option Nat) (rest : List Handle)
  /-- One of them has still to end before the others are stopped. -/
  | parting (serial : Nat) (client : Option Nat) (rest : List Handle)
  /-- All workers have ended, and who asked for it has been told. The queues are still there. -/
  | departing
  | ended

/-- Checks that abort the whole program when they fail. -/
inductive Violation where
  | registeredTwice (machine : String)
  | misdirected (probe machine : String)

structure State where
  now : Nat
  ingress : List Message
  commands : List Command
  handles : String → Option Handle
  /-- The machines in the order of their registration. -/
  order : List String
  phase : Phase
  /-- All workers that there have ever been, by their numbers. -/
  posts : List Post
  /-- The clients whose queries are still to be put into the mailbox of a worker. -/
  asking : List (Nat × Nat)
  violation : Option Violation

/-- What happens in a step. -/
inductive Mark where
  | submitted (m : Message)
  | commanded (c : Command)
  | taken (m : Message)
  | obeyed (c : Command)
  | registered (machine : String) (serial : Nat)
  | delivered (serial : Nat) (r : Report)
  /-- A report could not be delivered because the worker had ended. -/
  | refused (serial : Nat) (r : Report)
  | stopped (serial : Nat)
  | folded (serial now : Nat) (r : Report) (events : List Event)
  | ticked (serial : Nat) (events : List Event)
  /-- A worker has ended and left the letters in its mailbox unread. -/
  | ended (serial : Nat) (unread : List Letter)
  | answered (client : Nat) (answer : Answer)
  | published (snapshot : Snapshot)
  /-- The registry has ended, and its queues have gone with it. -/
  | closed

/-- What has happened, the earliest first. -/
abbrev Log := List Mark

/-! ## Workers -/

namespace Post

/-- The worker of a machine that is registered at the instant `now`. -/
def start (s : Settings) (machine : String) (now : Nat) : Post where
  tended := ⟨.start s machine now .empty, 0⟩
  mailbox := []
  stopping := false
  ended := false

/-- The worker has neither ended nor been told to, and its timer is armed. -/
structure Serving (p : Post) : Prop where
  running : p.ended = false
  unstopped : p.stopping = false
  alive : p.tended.probe.lost = false

def isFull (p : Post) : Bool :=
  mailboxCapacity ≤ p.mailbox.length

def put (letter : Letter) (p : Post) : Post :=
  { p with mailbox := p.mailbox ++ [letter] }

def tellToStop (p : Post) : Post :=
  { p with stopping := true }

/-- The worker after it has taken the first letter out of its mailbox and served an act. -/
def fold (s : Settings) (now : Nat) (r : Report) (p : Post) : Post × List Event :=
  let (tended, events) := p.tended.serve s (.report now r)
  ({ p with tended := tended, mailbox := p.mailbox.tail }, events)

/-- The worker after its timer has fired at an instant, when it was due or later. -/
def tick (s : Settings) (instant : Nat) (p : Post) : Post × List Event :=
  let due := { p.tended with probe := { p.tended.probe with deadline := instant } }
  let (tended, events) := due.serve s .tick
  ({ p with tended := tended }, events)

def leave (p : Post) : Post :=
  { p with mailbox := [], ended := true }

end Post

def askers (letters : List Letter) : List Nat :=
  letters.filterMap fun
    | .report _ _ => none
    | .query client => some client

def reportsIn (letters : List Letter) : List Report :=
  letters.filterMap fun
    | .report _ r => some r
    | .query _ => none

/-- A step of the worker number `serial`, or of a task that trims its history. -/
inductive WorkerStep (s : Settings) (now serial : Nat) : Post → Log → Post → Prop where
  | report {p machine r rest} (serving : p.Serving) (letter : p.mailbox = .report machine r :: rest)
      (own : machine = p.tended.probe.name) :
      WorkerStep s now serial p [.folded serial now r (p.fold s now r).2] (p.fold s now r).1
  | query {p client rest} (serving : p.Serving) (letter : p.mailbox = .query client :: rest) :
      WorkerStep s now serial p [.answered client (.state (some p.tended.probe.state))]
        { p with mailbox := rest }
  | tick {p instant} (serving : p.Serving) (empty : p.mailbox = [])
      (due : p.tended.probe.deadline ≤ instant) (past : instant ≤ now) :
      WorkerStep s now serial p [.ticked serial (p.tick s instant).2] (p.tick s instant).1
  | leave {p} (running : p.ended = false)
      (reason : p.stopping = true ∨ p.tended.probe.lost = true) :
      WorkerStep s now serial p
        (.ended serial p.mailbox :: (askers p.mailbox).map fun c => .answered c (.state none)) p.leave
  | trim {p} (pending : 0 < p.tended.trims) :
      WorkerStep s now serial p [] { p with tended := p.tended.trim }

/-! ## The registry -/

namespace State

variable (s : Settings)

def start (now : Nat) : State where
  now := now
  ingress := []
  commands := []
  handles := fun _ => none
  order := []
  phase := .idle
  posts := []
  asking := []
  violation := none

/-- The state with the worker number `serial` in place of the one it was. -/
def withPost (serial : Nat) (p : Post) (σ : State) : State :=
  { σ with posts := σ.posts.set serial p }

/-- The state with a new worker for a machine that has none. -/
def register (machine : String) (σ : State) : Except Violation (State × Log) :=
  match σ.handles machine with
  | some _ => .error (.registeredTwice machine)
  | none =>
    let serial := σ.posts.length
    .ok ({ σ with
      handles := Function.update σ.handles machine (some ⟨machine, serial⟩)
      order := σ.order ++ [machine]
      posts := σ.posts ++ [.start s machine σ.now] }, [.registered machine serial])

def enroll (machine : String) (σ : State) : Except Violation (State × Log) :=
  if (σ.handles machine).isSome then .ok (σ, []) else σ.register s machine

/-- The state after a worker has been told to stop. -/
def dismiss (serial : Nat) (σ : State) : State × Log :=
  ({ σ with posts := σ.posts.modify serial Post.tellToStop }, [.stopped serial])

def route (m : Message) (σ : State) : Except Violation (State × Log) :=
  match m.submission with
  | .report machine services => do
    let (σ, marks) ← σ.enroll s machine
    match σ.handles machine with
    | some h =>
      .ok ({ σ with phase := .delivering h.serial machine ⟨m.timestamp, services⟩ }, marks)
    | none => .ok (σ, marks)
  | .delete machine =>
    match σ.handles machine with
    | some h =>
      .ok ({ σ with
        handles := Function.update σ.handles machine none
        order := σ.order.filter (· ≠ machine)
        phase := .removing h.serial }.dismiss h.serial)
    | none => .ok (σ, [])

/-- The machines in the order of their registration, each with the rung that its worker shows. -/
def snapshot (σ : State) : Snapshot :=
  ⟨σ.order.filterMap fun machine => do
    let h ← σ.handles machine
    let p ← σ.posts[h.serial]?
    return ⟨h.name, p.tended.probe.shown⟩⟩

/-- The state after the registry has begun to stop all workers, in the order of a list. -/
def close (client : Option Nat) (rest : List Handle) (σ : State) : State :=
  { σ with handles := fun _ => none, order := [], phase := .closing client rest }

end State

/-- A list of the handles that the registry holds, in any order. -/
structure Drains (handles : String → Option Handle) (rest : List Handle) : Prop where
  nodup : rest.Nodup
  mem_iff : ∀ h, h ∈ rest ↔ ∃ machine, handles machine = some h

/-- The steps of all who take part. -/
inductive Step (s : Settings) : State → Log → State → Prop where
  | pass {σ} (span : Nat) : Step s σ [] { σ with now := σ.now + span }
  | submit {σ} (m : Message) (running : σ.phase ≠ .ended)
      (room : σ.ingress.length < ingressCapacity) :
      Step s σ [.submitted m] { σ with ingress := σ.ingress ++ [m] }
  | command {σ} (c : Command) (running : σ.phase ≠ .ended)
      (room : σ.commands.length < commandCapacity) :
      Step s σ [.commanded c] { σ with commands := σ.commands ++ [c] }
  | take {σ σ' m rest marks} (idle : σ.phase = .idle) (message : σ.ingress = m :: rest)
      (routed : { σ with ingress := rest }.route s m = .ok (σ', marks)) :
      Step s σ (.taken m :: marks) σ'
  | takeFails {σ m rest v} (idle : σ.phase = .idle) (message : σ.ingress = m :: rest)
      (failed : { σ with ingress := rest }.route s m = .error v) :
      Step s σ [.taken m] { σ with ingress := rest, violation := some v }
  | deliver {σ serial machine r p} (phase : σ.phase = .delivering serial machine r)
      (post : σ.posts[serial]? = some p) (running : p.ended = false) (room : p.isFull = false) :
      Step s σ [.delivered serial r]
        { σ.withPost serial (p.put (.report machine r)) with phase := .idle }
  | refuse {σ serial machine r p} (phase : σ.phase = .delivering serial machine r)
      (post : σ.posts[serial]? = some p) (ended : p.ended = true) :
      Step s σ [.refused serial r] { σ with phase := .idle }
  | release {σ serial p} (phase : σ.phase = .removing serial)
      (post : σ.posts[serial]? = some p) (ended : p.ended = true) :
      Step s σ [] { σ with phase := .idle }
  | snapshot {σ client rest} (idle : σ.phase = .idle) (silent : σ.ingress = [])
      (command : σ.commands = .snapshot client :: rest) :
      Step s σ [.obeyed (.snapshot client), .answered client (.snapshot σ.snapshot)]
        { σ with commands := rest }
  | state {σ client machine rest h} (idle : σ.phase = .idle) (silent : σ.ingress = [])
      (command : σ.commands = .state client machine :: rest)
      (registered : σ.handles machine = some h) :
      Step s σ [.obeyed (.state client machine)]
        { σ with commands := rest, asking := σ.asking ++ [(client, h.serial)] }
  | noState {σ client machine rest} (idle : σ.phase = .idle) (silent : σ.ingress = [])
      (command : σ.commands = .state client machine :: rest)
      (unregistered : σ.handles machine = none) :
      Step s σ [.obeyed (.state client machine), .answered client (.state none)]
        { σ with commands := rest }
  | shutdown {σ client rest handles} (idle : σ.phase = .idle) (silent : σ.ingress = [])
      (command : σ.commands = .shutdown client :: rest) (drained : Drains σ.handles handles) :
      Step s σ [.obeyed (.shutdown client)] { σ.close (some client) handles with commands := rest }
  /-- There is nobody left who could give a command. -/
  | hangUp {σ handles} (idle : σ.phase = .idle) (silent : σ.ingress = [])
      (quiet : σ.commands = []) (drained : Drains σ.handles handles) :
      Step s σ [] (σ.close none handles)
  | publish {σ} (idle : σ.phase = .idle) (silent : σ.ingress = []) (quiet : σ.commands = []) :
      Step s σ [.published σ.snapshot] σ
  | dismiss {σ client h rest} (phase : σ.phase = .closing client (h :: rest))
      (known : h.serial < σ.posts.length) :
      Step s σ (σ.dismiss h.serial).2
        { (σ.dismiss h.serial).1 with phase := .parting h.serial client rest }
  | part {σ serial client rest p} (phase : σ.phase = .parting serial client rest)
      (post : σ.posts[serial]? = some p) (ended : p.ended = true) :
      Step s σ [] { σ with phase := .closing client rest }
  | acknowledge {σ client} (phase : σ.phase = .closing client []) :
      Step s σ (client.toList.map fun c => .answered c .stopped) { σ with phase := .departing }
  | finish {σ} (phase : σ.phase = .departing) : Step s σ [.closed] { σ with phase := .ended }
  | ask {σ client serial p before after} (asking : σ.asking = before ++ (client, serial) :: after)
      (post : σ.posts[serial]? = some p) (running : p.ended = false) (room : p.isFull = false) :
      Step s σ [] { σ.withPost serial (p.put (.query client)) with asking := before ++ after }
  | giveUp {σ client serial p before after}
      (asking : σ.asking = before ++ (client, serial) :: after)
      (post : σ.posts[serial]? = some p) (ended : p.ended = true) :
      Step s σ [.answered client (.state none)] { σ with asking := before ++ after }
  | work {σ serial p p' marks} (post : σ.posts[serial]? = some p)
      (step : WorkerStep s σ.now serial p marks p') : Step s σ marks (σ.withPost serial p')
  | workFails {σ : State} {serial : Nat} {p : Post} {machine r rest} (post : σ.posts[serial]? = some p)
      (serving : p.Serving)
      (letter : p.mailbox = .report machine r :: rest)
      (foreign : machine ≠ p.tended.probe.name) :
      Step s σ [] { σ with violation := some (.misdirected p.tended.probe.name machine) }

/-- The runs from a start without machines on, with all that has happened, the earliest first. A
program that has been aborted runs no more. -/
inductive Run (s : Settings) : Log → State → Prop where
  | start (now : Nat) : Run s [] (.start now)
  | step {log σ marks σ'} (h : Run s log σ) (running : σ.violation = none)
      (step : Step s σ marks σ') : Run s (log ++ marks) σ'

end Vigil.Traffic

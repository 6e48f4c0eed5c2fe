import Vigil.Http.Websocket
import Vigil.Monitor
import Vigil.Text.Code

/-!
# The dashboard

The clients of the dashboard get every snapshot that is published while they are connected. One that
falls behind gets the latest ones alone.
-/

namespace Vigil

inductive Frame where
  | snapshot (s : Snapshot)
  | pong (payload : List UInt8)

inductive Signal where
  | text (payload : List UInt8)
  /-- A message that is no text, or a piece of one. -/
  | data
  | ping (payload : List UInt8)
  | close

/-- What a client gets as it goes over a websocket. -/
def Frame.write : Frame → List UInt8
  | snapshot s => Websocket.write ⟨.text, Text.utf8 s.toJson.render⟩
  | pong payload => Websocket.write ⟨.pong, payload⟩

def Signal.ofFrame (f : Websocket.Frame) : Signal :=
  match f.kind with
  | .close => .close
  | .ping => .ping f.payload
  | .text => .text f.payload
  | .continuation | .binary | .pong => .data

/-- The clients that have connected, and whether their connections are open. -/
abbrev Clients := Roster Bool

/-- What a step brings for the clients, by their names, and what is noted. -/
structure Broadcast where
  frames : List (String × Frame)
  notices : List Notice

namespace Clients

/-- The number of snapshots that are kept for a client that falls behind. -/
def backlog : Nat := 16

def pingLimit : Nat := 125

/-- The names of the clients with open connections. -/
def listening (c : Clients) : List String :=
  (c.entries.filter Prod.snd).map Prod.fst

def isOpen (c : Clients) (id : String) : Bool :=
  c.find? id == some true

/-- The notice that a connection goes, if it is open. -/
def parting (c : Clients) (id : String) : List Notice :=
  if c.isOpen id then [.clientDisconnected] else []

/-- The clients after one more has connected, in place of another one of its name. -/
def connect (id : String) (c : Clients) : Clients × Broadcast :=
  (c.insert id true, ⟨[], .clientConnected :: c.parting id⟩)

def hangUp (id : String) (c : Clients) : Clients × Broadcast :=
  (c.erase id, ⟨[], c.parting id⟩)

def close (id : String) (c : Clients) : Clients × Broadcast :=
  (c.modify id fun _ => false, ⟨[], c.parting id⟩)

/-- The clients after one of them has sent something. Nothing is done about messages; a ping that is
too long breaks the connection, and so does a text that is none. -/
def receive (id : String) (signal : Signal) (c : Clients) : Clients × Broadcast :=
  if !c.isOpen id then (c, ⟨[], []⟩)
  else
    match signal with
    | .text payload => if (Text.text? payload).isNone then c.close id else (c, ⟨[], []⟩)
    | .data => (c, ⟨[], []⟩)
    | .ping payload =>
      if pingLimit < payload.length then c.close id else (c, ⟨[(id, .pong payload)], []⟩)
    | .close => c.close id

/-- What clients get when snapshots are published at once. -/
def publish (snapshots : List Snapshot) (c : Clients) : Broadcast :=
  let skipped := snapshots.length - backlog
  let lag : List Notice := if 0 < skipped then [.clientLagging skipped] else []
  ⟨c.listening.flatMap fun id => (snapshots.drop skipped).map fun s => (id, .snapshot s),
    c.listening.flatMap fun _ => lag⟩

end Clients

end Vigil

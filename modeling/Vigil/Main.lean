import Std.Async.DNS
import Std.Async.Signal
import Std.Async.TCP
import Std.Async.Timer
import Std.Time
import Vigil.Alert.Exchange
import Vigil.Server.Startup

/-!
# The program

The server on a real clock and a real network. It reads what its start depends on, carries bytes
between connections and the service, and carries out what the service brings about: lines of the log
go to the standard error stream, frames to the clients of the dashboard, and alerts over plain
connections to whoever takes them. Every decision is made in the modules that it imports.
-/

namespace Vigil.Main

open Std.Async

abbrev Socket := TCP.Socket.Client

structure Server where
  arguments : Arguments
  config : Config
  level : LogLevel
  /-- The reading of the system's clock in milliseconds when that of the service stood at zero. -/
  epoch : Nat
  service : IO.Ref Service
  /-- The number of clients that have asked for the dashboard. -/
  asked : IO.Ref Nat
  /-- The connections of the dashboard's clients. -/
  sockets : IO.Ref (List (String × Socket))

/-! ## Files and variables -/

def fileFault : IO.Error → FileFault
  | .noFileOrDirectory _ _ _ => .absent
  | .inappropriateType _ 20 _ => .notDirectory
  | .inappropriateType _ 21 _ => .isDirectory
  | .invalidArgument _ 22 _ => .nul
  | .invalidArgument _ 4294967260 _ => .tooLong
  | .permissionDenied _ code details => .refused (details ++ " (os error " ++ toString code ++ ")")
  | e => .refused (toString e)

def readEntry (path : String) : IO (Except FileFault DirectoryEntry) := do
  try
    return .ok (.file (← IO.FS.readBinFile path).toList)
  catch e =>
    match fileFault e with
    | .refused cause =>
      if ← ((← IO.currentDir) / path).pathExists then return .ok (.sealed cause)
      return .error (.refused cause)
    | f => return .error f

/-- The first file of the given name in this directory and those above it. -/
def readUpwards (name : String) : IO (Except FileFault DirectoryEntry) := do
  let depth := ((← IO.currentDir).toString.splitOn "/").length
  for up in List.range depth do
    let entry ← readEntry (String.join (List.replicate up "../") ++ name)
    if entry.isOk then return entry
  return .error .absent

/-- The files that the program may read when the one named holds its configuration. -/
def readDirectory (file : Option String) : IO Directory := do
  let path := file.getD configFile
  let config ← readEntry path
  let assignments ← readUpwards envFile
  return ⟨fun p =>
    if p = path then config else if p = envFile then assignments else .error .absent⟩

/-- The variables that the program may ask for. -/
def readEnvironment (d : Directory) : IO Environment := do
  let mentioned := match d.read envFile with
    | .ok bytes => EnvFile.names bytes
    | .error _ => []
  let mut pairs := []
  for key in (Variable.all.map Variable.key ++ mentioned).eraseDups do
    if let some value ← IO.getEnv key then
      pairs := (key, value) :: pairs
  return fun key => pairs.lookup key

/-! ## The log and alerts -/

/-- The current time in UTC, in the given format. -/
def now (format : String) : IO String := do
  return (Std.Time.DateTime.ofTimestamp (← Std.Time.Timestamp.now) .UTC).format format

def writeLog (lines : List LogLine) : IO Unit := do
  let time ← now "uuuu-MM-dd'T'HH:mm:ss.SSSSSS'Z'"
  for l in lines do
    IO.eprintln (l.render time)

/-- Writes lines to the log as far as its level lets them pass. -/
def Server.log (s : Server) (lines : List LogLine) : IO Unit :=
  writeLog (Startup.visible s.level lines)

/-- The bytes of a message, ready to be sent. -/
def packet (bytes : List UInt8) : ByteArray :=
  ⟨bytes.toArray⟩

def replyLimit : Nat := 1048576

/-- The message that comes in over a connection. -/
partial def readReply (socket : Socket) (i : Http.Incoming) : Async (Option Http.Message) := do
  match ← socket.recv? 65536 with
  | none => return i.close?
  | some bytes =>
    match i.feed replyLimit .connection bytes.toList with
    | (.complete m, _) => return some m
    | (.refused _, _) => return none
    | (i, _) => readReply socket i

def askHost (u : Url) (p : Post) : Async (Option Reply) := do
  let some address := (← DNS.getAddrInfo u.host (toString u.port))[0]? | return none
  let port := UInt16.ofNat u.port
  let socket ← TCP.Socket.Client.mk
  socket.connect (match address with
    | .v4 a => .v4 ⟨a, port⟩
    | .v6 a => .v6 ⟨a, port⟩)
  socket.send (packet (p.write u))
  return (← readReply socket .empty).bind Reply.ofMessage?

/-- The reply to what is posted, unless none comes within half a minute. -/
def exchange (p : Post) : Async (Option Reply) := do
  let some u := Url.ofString? p.url | return none
  try
    Async.race (askHost u p) (do sleep 30000; return none)
  catch _ =>
    return none

/-- Sends an alert and writes what becomes of it to the log. -/
def Server.alert (s : Server) (a : Alert) : Async Unit := do
  let time ← now "uuuu-MM-dd'T'HH:mm:ss.SSSSSSSSS'+00:00'"
  let reply ← match Startup.binding? s.arguments s.config a.severity.slot with
    | some b => exchange (b.post time a)
    | none => pure none
  let (dispatcher, _) :=
    Startup.dispatcherOf (Binding.provider (fun _ => reply) time) s.arguments s.config
  s.log ((dispatcher.notices a).map .ofNotice)

/-! ## The service -/

/-- Carries out what a step of the service brings about. -/
def Server.carryOut (s : Server) (e : Effect) : Async Unit := do
  for (id, frame) in e.frames do
    if let some socket := (← s.sockets.get).lookup id then
      discard (socket.send (packet frame.write)).toIO
  for event in e.events do
    match event.value with
    | .notice n => s.log [.ofNotice n]
    | .alert a => background (s.alert a)

def Server.step (s : Server) (f : Service → Service × α × Effect) : Async α := do
  let instant := (← IO.monoMsNow) - s.epoch
  let (a, passed, e) ← s.service.modifyGet fun v =>
    let (v, passed) := v.advance (instant - v.monitor.now)
    let (v, a, e) := f v
    ((a, passed, e), v)
  s.carryOut passed
  s.carryOut e
  return a

/-- Takes the service to the present again and again. -/
def Server.keepTime (s : Server) : Async Unit := do
  while true do
    sleep 20
    s.step fun v => (v, (), ⟨[], []⟩)

/-! ## Connections -/

/-- Takes what a client of the dashboard sends until its connection is closed. -/
partial def Server.watch (s : Server) (id : String) (socket : Socket) (i : Websocket.Incoming)
    (bytes : List UInt8) : Async Unit := do
  match i.feed bytes with
  | (.complete f, rest) =>
    let isOpen ← s.step fun v =>
      let (v, e) := v.receive id (.ofFrame f)
      (v, v.clients.isOpen id, e)
    if isOpen then s.watch id socket .start rest
  | (.malformed, _) => return
  | (i, _) =>
    if let some bytes ← socket.recv? 65536 then
      s.watch id socket i bytes.toList

/-- Serves a client of the dashboard from the upgrade of its connection to the end. -/
def Server.stream (s : Server) (id : String) (socket : Socket) (bytes : List UInt8) :
    Async Unit := do
  s.sockets.modify ((id, socket) :: ·)
  try
    s.watch id socket .start bytes
  catch _ =>
    pure ()
  s.sockets.modify fun sockets => sockets.filter (·.1 ≠ id)
  s.step fun v =>
    let (v, e) := v.hangUp id
    (v, (), e)

/-- Answers the requests that come in over a connection. -/
partial def Server.converse (s : Server) (socket : Socket) (i : Http.Incoming)
    (bytes : List UInt8) : Async Unit := do
  match i.feed (Api.bodyLimit + 1) (.length 0) bytes with
  | (.complete m, rest) =>
    let id := toString (← s.asked.modifyGet fun n => (n, n + 1))
    let response ← s.step (·.connect id m.request)
    socket.send (packet (response.write m.method m.persists))
    if response.status = 101 then s.stream id socket rest
    else if m.persists then s.converse socket .empty rest
  | (.refused f, _) => socket.send (packet (f.response.write "" false))
  | (i, _) =>
    if let some bytes ← socket.recv? 65536 then
      s.converse socket i bytes.toList

/-- Serves a connection to its end. -/
def Server.attend (s : Server) (socket : Socket) : Async Unit := do
  try
    s.converse socket .empty []
    socket.shutdown
  catch _ =>
    pure ()

/-- Takes in one connection after the other. -/
def Server.receive (s : Server) (door : TCP.Socket.Server) : Async Unit := do
  while true do
    let socket ← door.accept
    background (s.attend socket)

/-! ## Runs -/

def fail (f : ServerFault) : IO UInt32 := do
  for l in f.report do
    IO.eprintln l
  return UInt32.ofNat f.exitCode

def socketAddress (port : Nat) : Address → Std.Net.SocketAddress
  | .v4 bits =>
    .v4 ⟨⟨Vector.ofFn fun i => UInt8.ofNat ((Address.octets bits).getD i 0)⟩, .ofNat port⟩
  | .v6 bits =>
    .v6 ⟨⟨Vector.ofFn fun i => UInt16.ofNat ((Address.segments bits).getD i 0)⟩, .ofNat port⟩

def portOf : Std.Net.SocketAddress → Nat
  | .v4 a => a.port.toNat
  | .v6 a => a.port.toNat

def openDoor (c : Config) : IO TCP.Socket.Server := do
  let door ← TCP.Socket.Server.mk
  door.bind (socketAddress c.port c.address)
  door.listen 1024
  return door

/-- Runs the server until it is interrupted. -/
def serve (a : Arguments) (startup : Startup) (epoch : Nat) : Async UInt32 := do
  writeLog (startup.log ++ Startup.visible startup.level [Startup.opening startup.config.listens])
  match ← (openDoor startup.config).toBaseIO with
  | .error e => fail (.unheard startup.config.listens (toString e))
  | .ok door =>
    let s : Server :=
      { arguments := a
        config := startup.config
        level := startup.level
        epoch := epoch
        service := ← IO.mkRef startup.service
        asked := ← IO.mkRef 0
        sockets := ← IO.mkRef [] }
    let port := portOf (← door.getSockName)
    background s.keepTime
    background (s.receive door)
    let interruption ← (← Signal.Waiter.mk .sigint false).wait
    s.log (Startup.listening (startup.config.address.withPort port))
    discard (await interruption)
    s.log [Startup.ending]
    match (← s.service.get).shutdown with
    | .ok (_, e) =>
      s.carryOut e
      return 0
    | .error refusal => fail (.stopped refusal)

/-- Runs the program with the given arguments. -/
def run (args : List String) : IO UInt32 := do
  match Arguments.parse args with
  | .error usage =>
    let out ← if usage = .help then IO.getStdout else IO.getStderr
    for l in usage.lines do
      out.putStrLn l
    return UInt32.ofNat usage.exitCode
  | .ok a =>
    let directory ← readDirectory a.file
    let environment ← readEnvironment directory
    let epoch ← IO.monoMsNow
    match Startup.prepare (Binding.provider (fun _ => none) "") a directory environment epoch with
    | .error f => fail f
    | .ok startup => (serve a startup epoch).block

end Vigil.Main

/-- Runs the program; the result is its exit code. -/
def main (args : List String) : IO UInt32 :=
  Vigil.Main.run args

import Vigil.Alert.Dispatcher
import Vigil.Api.Service
import Vigil.Config.Load
import Vigil.Server.Arguments

/-!
# Starting the server

From the command line, the directory and the environment to a service and a dispatcher of alerts, or
to the fault that stands in the way. What is said meanwhile goes to the log, as far as its level
lets it pass.
-/

namespace Vigil

/-- The parts of the program that write to its log. -/
inductive Origin where
  | server
  | alerts
  | discord
  | registry
  | probe
  | history
  | api
  | dashboard
  deriving DecidableEq, Repr

def Origin.name : Origin → String
  | server => "sentinel_server"
  | alerts => "fleet_sentinel::alerts"
  | discord => "fleet_sentinel::discord"
  | registry => "fleet_sentinel::actors::registry"
  | probe => "fleet_sentinel::actors::probe"
  | history => "fleet_sentinel::timeseries"
  | api => "fleet_sentinel::api"
  | dashboard => "fleet_sentinel::api::websocket"

/-- The part of the program that a notice comes from. -/
def Origin.ofNotice : Notice → Origin
  | .registering _ | .deleted _ | .unknownDelete _ | .shuttingDown _ | .undeliverable _ => registry
  | .recovered _ | .silent _ _ _ | .stillAlerted _ | .failing _ _ | .stillFailing _ _
  | .mailboxClosed | .unclean _ => probe
  | .unknownState _ _ => history
  | .unbound _ | .sending _ _ | .undelivered _ _ _ | .webhookSent | .pagerDutySent
  | .alertsDisabled | .slotUnbound _ => alerts
  | .discordSent | .discordRefused _ => discord
  | .clientConnected | .clientDisconnected | .clientLagging _ => dashboard

structure LogLine where
  level : NoticeLevel
  origin : Origin
  message : String
  deriving DecidableEq, Repr

/-- The line of the log for a notice, which names the service that it is filed under. -/
def LogLine.ofNotice (n : Notice) : LogLine :=
  let field := match n.service? with
    | some service => " service=" ++ service
    | none => ""
  ⟨n.level, .ofNotice n, n.message ++ field⟩

/-- A line of the log as it is written at the given time. -/
def LogLine.render (timestamp : String) (l : LogLine) : String :=
  let level := l.level.name.toUpper
  timestamp ++ (if level.length < 5 then "  " else " ") ++ level ++ " " ++ l.origin.name ++ ": " ++
    l.message

inductive ServerFault where
  | unloaded (f : ConfigFault)
  | unusable (f : ConfigFault)
  /-- The server could not listen at its address. -/
  | unheard (address cause : String)
  /-- The monitor did not run any more when it was to be shut down. -/
  | stopped (r : Refusal)
  deriving DecidableEq, Repr

namespace ServerFault

/-- The texts of a fault and of what caused it, the outermost first. -/
def chain : ServerFault → List String
  | unloaded f => "failed to load configuration" :: f.chain
  | unusable f => f.chain
  | unheard address cause => ["failed to bind " ++ address, cause]
  | stopped r => [r.attempt, Refusal.cause]

/-- The lines of a text, of which all but the first are indented. -/
def indent (first further text : String) : List String :=
  match text.splitOn "\n" with
  | [] => []
  | l :: ls => (first ++ l) :: ls.map (further ++ ·)

/-- The lines about causes, numbered if there are several. -/
def causes (texts : List String) : List String :=
  match texts with
  | [text] => indent "    " "    " text
  | texts =>
    texts.zipIdx.flatMap fun (text, i) => indent ("    " ++ toString i ++ ": ") "       " text

/-- The lines about a text and those about what caused it, the outermost first. -/
def errorLines : List String → List String
  | [] => []
  | [text] => indent "Error: " "" text
  | text :: texts => indent "Error: " "" text ++ "" :: "Caused by:" :: causes texts

/-- The code that the program ends with. At a variable that cannot be set it breaks down. -/
def exitCode : ServerFault → Nat
  | unloaded (.unsettable _) => 101
  | _ => 1

def report (f : ServerFault) : List String :=
  match f with
  | unloaded (.unsettable key) => [(ConfigFault.unsettable key).message]
  | _ => errorLines f.chain

end ServerFault

/-- What is known once the server is about to listen. -/
structure Startup where
  config : Config
  level : LogLevel
  service : Service
  dispatcher : Dispatcher
  /-- The log so far. -/
  log : List LogLine

namespace Startup

def visible (level : LogLevel) (lines : List LogLine) : List LogLine :=
  lines.filter fun l => level.passes l.level

/-- The line that sums up how machines are watched and who is told. -/
def summary (s : Settings) (d : Dispatcher) : LogLine :=
  ⟨.info, .server,
    "probes degrade after " ++ s.delay.describe ++ " of inactivity, alert dispatcher: " ++
      d.describe⟩

/-- The configuration that the command line makes out of the one that is loaded. -/
def configure (a : Arguments) (c : Config) : Config :=
  { c with logLevel := a.logLevel.getD c.logLevel }

/-- The dispatcher that the command line and the configuration ask for, and what is noted. -/
def dispatcherOf (provider : Binding → Provider) (a : Arguments) (c : Config) :
    Dispatcher × List Notice :=
  if a.noAlert then Dispatcher.disabled else Dispatcher.ofBindings provider c.low c.high

/-- The binding that an alert in a slot is sent through, if the command line allows for any. -/
def binding? (a : Arguments) (c : Config) (s : Slot) : Option Binding :=
  if a.noAlert then none
  else
    match s with
    | .low => c.low
    | .high => c.high

def usable (r : Except ConfigFault α) : Except ServerFault α :=
  r.mapError .unusable

/-- All that comes before the server listens, if the clock reads `epoch` when the service starts. -/
def prepare (provider : Binding → Provider) (a : Arguments) (d : Directory) (env : Environment)
    (epoch : Nat) : Except ServerFault Startup := do
  let c := configure a (← (Config.load d a.file env).mapError .unloaded)
  let level ← usable c.level
  let settings ← usable (c.settings epoch)
  let service ← usable (Service.start c epoch)
  let (dispatcher, notices) := dispatcherOf provider a c
  let dashboard : List LogLine :=
    if c.dashboard then [] else [⟨.warn, .server, "dashboard is disabled"⟩]
  return ⟨c, level, service, dispatcher,
    visible level (notices.map .ofNotice ++ summary settings dispatcher :: dashboard)⟩

/-- The line that tells where the server is going to listen. -/
def opening (address : String) : LogLine :=
  ⟨.info, .api, "starting API server on " ++ address⟩

def listening (address : String) : List LogLine :=
  [⟨.info, .api, "API server listening on " ++ address⟩,
    ⟨.info, .server, "accepting reports on " ++ address⟩]

def ending : LogLine :=
  ⟨.info, .server, "shutting down"⟩

end Startup

end Vigil

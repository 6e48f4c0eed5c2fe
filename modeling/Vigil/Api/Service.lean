import Vigil.Api.Dashboard
import Vigil.Api.Router
import Vigil.Config.Check
import Vigil.Http.Wire

/-!
# The service

The monitor together with the interface that it is reached by and the clients of its dashboard.
-/

namespace Vigil

/-- The token, the permissions and the dashboard that a configuration asks for. An empty token is
none. -/
def Api.ofConfig (c : Config) : Api where
  token := c.authToken.filter (¬ ·.isEmpty)
  crossOrigin := c.dashboard
  dashboard := c.dashboard

def Config.listens (c : Config) : String :=
  c.address.withPort c.port

structure Service where
  api : Api
  monitor : Monitor
  clients : Clients

/-- What a step of the service brings about. -/
structure Effect where
  events : List (Stamped Event)
  frames : List (String × Frame)

namespace Service

/-- The service that a configuration asks for, at the instant zero, when the clock reads `epoch`. -/
def start (c : Config) (epoch : Nat) : Except ConfigFault Service := do
  return ⟨Api.ofConfig c, .start (← c.settings epoch) c.dashboard, .empty⟩

/-- What a broadcast brings about now. -/
def effect (s : Service) (b : Broadcast) : Effect :=
  ⟨b.notices.map fun n => ⟨s.monitor.now, .notice n⟩, b.frames⟩

/-- The service after a request, the response, and what it brings about. -/
def request (r : Http.Request) (s : Service) : Service × Http.Response × Effect :=
  let (response, monitor, events) := s.api.handle false r s.monitor
  ({ s with monitor := monitor }, response, ⟨events, []⟩)

/-- The service after what has come in over a connection that can be upgraded, the response, and
what it brings about. With an upgrade the client `id` is connected. -/
def connect (id : String) (incoming : Except Http.Fault Http.Request) (s : Service) :
    Service × Http.Response × Effect :=
  match incoming with
  | .error f => (s, f.response, ⟨[], []⟩)
  | .ok r =>
    let (response, monitor, events) := s.api.handle true r s.monitor
    let s := { s with monitor := monitor }
    if response.status = 101 then
      let (clients, b) := s.clients.connect id
      ({ s with clients := clients }, response, s.effect b)
    else (s, response, ⟨events, []⟩)

/-- The service after a client has sent something. -/
def receive (id : String) (signal : Signal) (s : Service) : Service × Effect :=
  let (clients, b) := s.clients.receive id signal
  ({ s with clients := clients }, s.effect b)

/-- The service after a client has hung up. -/
def hangUp (id : String) (s : Service) : Service × Effect :=
  let (clients, b) := s.clients.hangUp id
  ({ s with clients := clients }, s.effect b)

/-- The number of clients that listen, if there is a dashboard. -/
def subscribers? (s : Service) : Option Nat :=
  if s.api.dashboard then some s.clients.listening.length else none

/-- What snapshots that are published at once bring about. -/
def publish (snapshots : List Snapshot) (s : Service) : Effect :=
  s.effect (s.clients.publish snapshots)

/-- The service after a span of time, and what happens meanwhile. -/
def advance (span : Nat) (s : Service) : Service × Effect :=
  let (monitor, trace) := s.monitor.advance span
  ({ s with monitor := monitor },
    ⟨trace.events, trace.snapshots.flatMap fun p => (s.clients.publish [p.value]).frames⟩)

/-- The service after the monitor has been shut down, and what that brings about. -/
def shutdown (s : Service) : Except Refusal (Service × Effect) := do
  let (monitor, events) ← s.monitor.shutdown
  return ({ s with monitor := monitor }, ⟨events, []⟩)

end Service

end Vigil

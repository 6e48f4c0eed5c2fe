import Vigil.Server.Startup

/-!
# Sessions

A run of the server from its start through a number of requests to its end.
-/

namespace Vigil

/-- What can be seen of a run from outside. -/
structure Session where
  exitCode : Nat
  log : List LogLine
  responses : List Http.Response
  /-- What is reported when the server fails. -/
  report : List String

namespace Session

/-- The service after requests in order, the responses, and what they give rise to. -/
def serve : List Http.Request → Service → Service × List Http.Response × List (Stamped Event)
  | [], s => (s, [], [])
  | r :: rs, s =>
    let (s, response, effect) := s.request r.trimmed
    let (s, responses, events) := serve rs s
    (s, response :: responses, effect.events ++ events)

def eventLines (d : Dispatcher) (events : List (Stamped Event)) : List LogLine :=
  (d.log events).map .ofNotice

/-- A run of a server that listens at an address and is ended after its last response. -/
def finish (address : String) (requests : List Http.Request) (s : Startup) : Session :=
  let (service, responses, events) := serve requests s.service
  let lines := Startup.opening s.config.listens :: Startup.listening address ++
    eventLines s.dispatcher events ++ [Startup.ending]
  let log := s.log ++ Startup.visible s.level lines
  match service.shutdown with
  | .ok (_, effect) =>
    ⟨0, log ++ Startup.visible s.level (eventLines s.dispatcher effect.events), responses, []⟩
  | .error refusal =>
    let fault := ServerFault.stopped refusal
    ⟨fault.exitCode, log, responses, fault.report⟩

def run (provider : Binding → Provider) (address : String) (args : List String) (d : Directory)
    (env : Environment) (requests : List Http.Request) (epoch : Nat) : Session :=
  match Arguments.parse args with
  | .error usage => ⟨usage.exitCode, [], [], []⟩
  | .ok a =>
    match Startup.prepare provider a d env epoch with
    | .error fault => ⟨fault.exitCode, [], [], fault.report⟩
    | .ok s => finish address requests s

end Session

end Vigil

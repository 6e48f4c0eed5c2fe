import Vigil.Api.Access
import Vigil.Api.Handshake
import Vigil.Api.Payload
import Vigil.Api.Route
import Vigil.Monitor
import Vigil.Text.Percent

/-!
# Requests

What the monitor does on a request and how it responds. A request is judged without a look at the
monitor; what is accepted is then submitted to it or asked of it.
-/

namespace Vigil

/-- How the monitor is reached by requests. -/
structure Api where
  /-- The token of the guarded routes; without one they are open. -/
  token : Option String
  /-- Whether pages from anywhere may make requests. -/
  crossOrigin : Bool
  dashboard : Bool
  deriving DecidableEq, Repr

inductive Verdict where
  | respond (r : Http.Response)
  | submit (s : Submission)
  | list

namespace Api

def failure (status : Nat) (message : String) : Http.Response :=
  .ofJson status (.object [("error", .text message), ("status", .text "fail")])

def accepted : Http.Response :=
  .ofStatus 202

def listing (s : Snapshot) : Http.Response :=
  .ofJson 200
    (.object
      [("probes", .array (s.probes.map Summary.toJson)), ("total", .number s.probes.length)])

def healthy : Http.Response :=
  .ofJson 200 (.object [("status", .text "pass")])

def bodyLimit : Nat := 2097152

/-! ## Judging -/

/-- The machine that a path names, or the response where it names none. The name is decoded first;
blanks around it do not count. -/
def decodeName (raw : String) : Except Http.Response String :=
  match Text.percentDecode? raw with
  | some name => .ok name
  | none => .error (.ofText 400 "Invalid URL: Invalid UTF-8 in `machine`")

/-- A decoded name without the blanks around it, if anything is left. -/
def machine (name : String) : Except Http.Response String :=
  let trimmed := Text.trim name
  if trimmed.isEmpty then .error (failure 400 "machine name is required") else .ok trimmed

def submission (machine : String) (body : List UInt8) : Except Http.Response Submission :=
  if body.isEmpty then .error (failure 400 "payload is required")
  else
    match Json.decode Payload.decode (Text.codes body) with
    | .ok payload => .ok (payload.submission machine)
    | .error fault =>
      .error (failure 400 ("invalid payload for " ++ machine ++ ": <" ++ fault.label ++ ">"))

def judgeReport (raw : String) (body : List UInt8) : Except Http.Response Submission := do
  let name ← decodeName raw
  if bodyLimit < body.length then
    .error (.ofText 413 "Failed to buffer the request body: length limit exceeded")
  else submission (← machine name) body

def judgeDelete (raw : String) : Except Http.Response Submission := do
  return .delete (← machine (← decodeName raw))

def verdict : Except Http.Response Submission → Verdict
  | .ok s => .submit s
  | .error r => .respond r

/-- What a request comes to that is let in on a route that takes its method. -/
def judgeRoute (upgradable : Bool) (r : Http.Request) : Route → Verdict
  | .health => .respond healthy
  | .probes => .list
  | .probe raw => verdict (judgeDelete raw)
  | .report raw => verdict (judgeReport raw r.body)
  | .dashboard =>
    match Handshake.answer upgradable r with
    | .ok accept => .respond (Handshake.response accept)
    | .error fault => .respond fault.response

/-- Why a request is not let in on a route, or none if it is. -/
def deny? (api : Api) (r : Http.Request) (route : Route) : Option Denial :=
  if route.guarded then api.token.bind (Access.deny? · r) else none

/-- What a request on a route comes to. Access goes before the method. -/
def judge (api : Api) (upgradable : Bool) (r : Http.Request) (route : Route) : Verdict :=
  match api.deny? r route with
  | some denial => .respond denial.response
  | none =>
    if route.takes r.method then judgeRoute upgradable r route else .respond (.ofStatus 405)

/-! ## Responding -/

/-- The monitor after a verdict, the response, and what the verdict gives rise to. -/
def perform (m : Monitor) : Verdict → Http.Response × Monitor × List (Stamped Event)
  | .respond r => (r, m, [])
  | .submit s =>
    match m.submit [s] with
    | .ok (m, events) => (accepted, m, events)
    | .error refusal => (failure 503 refusal.message, m, [])
  | .list =>
    match m.snapshot with
    | .ok s => (listing s, m, [])
    | .error refusal => (failure 503 refusal.message, m, [])

/-- The response of a route as it goes out: the methods are announced where another one was asked
for, and a request for the headers gets no body where there is one to be had. -/
def dress (route : Route) (method : String) (r : Http.Response) : Http.Response :=
  if !route.takes method then r.withHeader "allow" route.allow
  else if method = "HEAD" then r.withoutBody
  else r

/-- The headers that let pages from anywhere see a response. -/
def openTo (r : Http.Response) : Http.Response :=
  (r.withHeader "access-control-allow-origin" "*").withHeader "vary"
    "origin, access-control-request-method, access-control-request-headers"

def preflight (route : Option Route) : Http.Response :=
  let r := ((Http.Response.ofStatus 200).withHeader "access-control-allow-methods" "*").withHeader
    "access-control-allow-headers" "*"
  openTo (match route with
    | some route => r.withHeader "allow" route.allow
    | none => r)

def route? (api : Api) (r : Http.Request) : Option Route :=
  Route.ofPath? api.dashboard r.path

/-- The response to a request, the monitor after it, and what it gives rise to. -/
def handle (api : Api) (upgradable : Bool) (r : Http.Request) (m : Monitor) :
    Http.Response × Monitor × List (Stamped Event) :=
  let route := api.route? r
  if api.crossOrigin && r.method == "OPTIONS" then (preflight route, m, [])
  else
    let (response, m, events) :=
      match route with
      | none => (.ofStatus 404, m, [])
      | some route =>
        let (response, m, events) := perform m (api.judge upgradable r route)
        (dress route r.method response, m, events)
    (if api.crossOrigin then openTo response else response, m, events)

end Api

end Vigil

import Vigil.Digest.Sha1
import Vigil.Http.Message
import Vigil.Text.Base64
import Vigil.Text.Code

/-!
# Handshakes

A websocket starts as a request that asks for the connection to be upgraded and is answered with a
digest of its key.
-/

namespace Vigil.Handshake

/-- Why a connection is not upgraded. -/
inductive Fault where
  | method
  | connection
  | upgrade
  | version
  | key
  /-- The request came over nothing that could be upgraded. -/
  | fixed
  deriving DecidableEq, Repr

/-- The response to a request for an upgrade that fails. -/
def Fault.response : Fault → Http.Response
  | method => .ofText 405 "Request method must be `GET`"
  | connection => .ofText 400 "Connection header did not include 'upgrade'"
  | upgrade => .ofText 400 "`Upgrade` header did not include 'websocket'"
  | version => .ofText 400 "`Sec-WebSocket-Version` header did not include '13'"
  | key => .ofText 400 "`Sec-WebSocket-Key` header missing"
  | fixed =>
    .ofText 426 "WebSocket request couldn't be upgraded since no upgrade state was present"

/-- The bytes that are appended to a key before its digest is taken. -/
def suffix : String :=
  "258EAFA5-E914-47DA-95CA-C5AB0DC85B11"

def accept (key : List UInt8) : String :=
  Text.base64 (Digest.sha1 (key ++ Text.utf8 suffix))

/-- The answer to the key of a request, or the first fault. `upgradable` tells whether the request
came over a connection that can be upgraded. -/
def answer (upgradable : Bool) (r : Http.Request) : Except Fault String :=
  if r.method ≠ "GET" then .error .method
  else if !r.headers.mentions "connection" "upgrade" then .error .connection
  else if !r.headers.has "upgrade" "websocket" then .error .upgrade
  else if !r.headers.has "sec-websocket-version" "13" then .error .version
  else
    match r.headers.get? "sec-websocket-key" with
    | none => .error .key
    | some key => if upgradable then .ok (accept key) else .error .fixed

def response (accept : String) : Http.Response :=
  ⟨101,
    [("connection", "upgrade"), ("upgrade", "websocket"), ("sec-websocket-accept", accept)], .empty⟩

end Vigil.Handshake

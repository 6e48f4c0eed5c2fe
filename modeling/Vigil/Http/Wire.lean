import Vigil.Http.Message
import Vigil.Http.Status
import Vigil.Text.Numeral

/-!
# Messages on the wire

A message is read byte by byte: a first line, headers, one on a line, an empty line, and a body that
has a given length, comes in chunks or lasts as long as the connection. Of a body for which there is
not enough room only the start is kept. `Incoming.feed` reads as far as the end of one message or to
its first fault; `Response.write` makes the bytes of a response.
-/

namespace Vigil.Http

/-- Why a message is not read. -/
inductive Fault where
  | malformed
  /-- The target of a request is too long. -/
  | targetTooLong
  /-- The head is too long or has too many headers. -/
  | headTooLarge
  deriving DecidableEq, Repr

/-- The response to a request that is not read. -/
def Fault.response : Fault → Response
  | malformed => .ofStatus 400
  | targetTooLong => .ofStatus 414
  | headTooLarge => .ofStatus 431

/-- The first line and the headers of a message. -/
structure Head where
  first : String
  headers : Headers

/-- How the end of a body is found. -/
inductive Framing where
  | length (n : Nat)
  | chunks
  | connection
  deriving DecidableEq, Repr

structure Message where
  head : Head
  body : List UInt8
  /-- The body is longer than that. -/
  cut : Bool

/-- A body as far as it has come in, the last byte first, and the number of bytes that are still to
be kept. -/
structure BodyDraft where
  head : Head
  bytes : List UInt8
  room : Nat

/-- A message as far as it has come in. A line that has begun is listed the last byte first, and the
lines before it the latest first. -/
inductive Incoming where
  | head (size : Nat) (lines : List (List UInt8)) (line : List UInt8)
  | sized (d : BodyDraft) (left : Nat)
  | chunkSize (d : BodyDraft) (line : List UInt8)
  | chunk (d : BodyDraft) (left : Nat)
  /-- In the line end after a chunk. -/
  | chunkEnd (d : BodyDraft)
  /-- In the lines that may follow the last chunk. -/
  | trailer (d : BodyDraft) (line : List UInt8)
  | unsized (d : BodyDraft)
  | complete (m : Message)
  | refused (f : Fault)

/-! ## Heads -/

namespace Head

/-- The longest head that is read. -/
def limit : Nat := 417792

/-- The most headers that are read. -/
def headerLimit : Nat := 100

/-- A line that is listed the last byte first, without the end of the line. -/
def lineOf : List UInt8 → List UInt8
  | 0x0D :: bs => bs.reverse
  | bs => bs.reverse

/-- Whether a byte may stand in the name of a header or of a method. -/
def inName (b : UInt8) : Bool :=
  let c := Char.ofNat b.toNat
  c.isAlphanum ||
    c ∈ ['!', '#', '$', '%', '&', '\'', '*', '+', '-', '.', '^', '_', '\x60', '|', '~']

/-- Whether a byte may stand in the value of a header. -/
def inValue (b : UInt8) : Bool :=
  b == 0x09 || (0x20 ≤ b && b ≠ 0x7F)

def header? (line : List UInt8) : Option (String × List UInt8) :=
  let name := line.takeWhile (· ≠ 0x3A)
  match line.dropWhile (· ≠ 0x3A) with
  | [] => none
  | _ :: value =>
    if name.isEmpty || !name.all inName || !value.all inValue then none
    else some (String.ofList (name.map fun b => Char.ofNat b.toNat), Headers.trimValue value)

/-- The headers on lines, of which there may be no more than `room`. -/
def readHeaders : Nat → List (List UInt8) → Except Fault Headers
  | _, [] => .ok []
  | 0, _ :: _ => .error .headTooLarge
  | room + 1, line :: lines =>
    match header? line with
    | none => .error .malformed
    | some h => do return h :: (← readHeaders room lines)

def ofLines : List (List UInt8) → Except Fault Head
  | [] => .error .malformed
  | first :: rest =>
    match Text.text? first with
    | none => .error .malformed
    | some first => do return ⟨first, ← readHeaders headerLimit rest⟩

/-- Whether chunks are the last of the codings that a value names. -/
def endsChunked (value : List UInt8) : Bool :=
  ((Text.text? value).bind fun s => (s.splitOn ",").getLast?).any fun s =>
    Text.asciiLower (Text.trim s) == "chunked"

def length? (value : List UInt8) : Option Nat :=
  (Text.text? value).bind fun s => Text.natural? s.toList

/-- How the body that follows a head ends. `fallback` holds where the head says nothing. -/
def framing (fallback : Framing) (h : Head) : Except Fault Framing :=
  match (h.headers.all "transfer-encoding").getLast? with
  | some coding => if endsChunked coding then .ok .chunks else .error .malformed
  | none =>
    match h.headers.all "content-length" with
    | [] => .ok fallback
    | value :: others =>
      match length? value with
      | none => .error .malformed
      | some n =>
        if others.all fun v => length? v = some n then .ok (.length n) else .error .malformed

end Head

/-! ## Bodies -/

namespace BodyDraft

/-- The body with one more byte, for which there is room. -/
def push (b : UInt8) (d : BodyDraft) : BodyDraft :=
  { d with bytes := b :: d.bytes, room := d.room - 1 }

def message (cut : Bool) (d : BodyDraft) : Message :=
  ⟨d.head, d.bytes.reverse, cut⟩

end BodyDraft

/-- The longest line around a chunk that is read. -/
def chunkLineLimit : Nat := 4096

/-- The number in hexadecimal digits that a line starts with. -/
def chunkSize? (line : List UInt8) : Option Nat :=
  let chars := line.map fun b => Char.ofNat b.toNat
  let digits := chars.takeWhile fun c => (Text.hexDigit? c).isSome
  if digits.isEmpty then none
  else some (digits.foldl (fun n c => 16 * n + (Text.hexDigit? c).getD 0) 0)

namespace Incoming

/-- Nothing has come in yet. -/
def empty : Incoming :=
  .head 0 [] []

/-- The start of a body of which at most `room` bytes are kept. -/
def start (room : Nat) (fallback : Framing) (h : Head) : Incoming :=
  let d : BodyDraft := ⟨h, [], room⟩
  match h.framing fallback with
  | .error f => .refused f
  | .ok (.length 0) => .complete (d.message false)
  | .ok (.length (n + 1)) => .sized d (n + 1)
  | .ok .chunks => .chunkSize d []
  | .ok .connection => .unsized d

/-- A message after one more byte of its body, unless that byte finds no room. -/
def take (d : BodyDraft) (b : UInt8) (next : BodyDraft → Incoming) : Incoming :=
  if d.room = 0 then .complete (d.message true) else next (d.push b)

/-- A message after one more byte. -/
def step (room : Nat) (fallback : Framing) (i : Incoming) (b : UInt8) : Incoming :=
  match i with
  | .head size lines line =>
    if Head.limit ≤ size then .refused .headTooLarge
    else if b ≠ 0x0A then .head (size + 1) lines (b :: line)
    else
      match Head.lineOf line, lines with
      | [], [] => .head (size + 1) [] []
      | [], lines =>
        match Head.ofLines lines.reverse with
        | .ok h => start room fallback h
        | .error f => .refused f
      | line, lines => .head (size + 1) (line :: lines) []
  | .sized d left =>
    take d b fun d => if left ≤ 1 then .complete (d.message false) else .sized d (left - 1)
  | .chunkSize d line =>
    if chunkLineLimit ≤ line.length then .refused .malformed
    else if b ≠ 0x0A then .chunkSize d (b :: line)
    else
      match chunkSize? (Head.lineOf line) with
      | none => .refused .malformed
      | some 0 => .trailer d []
      | some (n + 1) => .chunk d (n + 1)
  | .chunk d left => take d b fun d => if left ≤ 1 then .chunkEnd d else .chunk d (left - 1)
  | .chunkEnd d =>
    if b = 0x0D then .chunkEnd d else if b = 0x0A then .chunkSize d []
    else .refused .malformed
  | .trailer d line =>
    if chunkLineLimit ≤ line.length then .refused .malformed
    else if b ≠ 0x0A then .trailer d (b :: line)
    else if (Head.lineOf line).isEmpty then .complete (d.message false)
    else .trailer d []
  | .unsized d => take d b .unsized
  | .complete m => .complete m
  | .refused f => .refused f

/-- A message after more bytes, and the bytes that follow its end. -/
def feed (room : Nat) (fallback : Framing) : Incoming → List UInt8 → Incoming × List UInt8
  | i, [] => (i, [])
  | .complete m, bs => (.complete m, bs)
  | .refused f, bs => (.refused f, bs)
  | i, b :: bs => feed room fallback (i.step room fallback b) bs

def close? : Incoming → Option Message
  | .unsized d => some (d.message false)
  | .complete m => some m
  | _ => none

end Incoming

/-! ## Requests and responses -/

namespace Message

def words (m : Message) : List String :=
  m.head.first.splitOn " "

def method (m : Message) : String :=
  m.words.headD ""

/-- The most bytes that the target of a request may have. -/
def targetLimit : Nat := 65534

def request (m : Message) : Except Fault Request :=
  match m.words with
  | [method, target, version] =>
    if version ≠ "HTTP/1.1" ∧ version ≠ "HTTP/1.0" then .error .malformed
    else if targetLimit < target.utf8ByteSize then .error .targetTooLong
    else if method.isEmpty || !(Text.utf8 method).all Head.inName then .error .malformed
    else if Target.isWellFormed target then .ok ⟨method, target, m.head.headers, m.body⟩
    else .error .malformed
  | _ => .error .malformed

/-- Whether more messages may follow on the connection. -/
def persists (m : Message) : Bool :=
  if m.cut || !m.request.isOk then false
  else if m.words.getLast? = some "HTTP/1.1" then !m.head.headers.mentions "connection" "close"
  else m.head.headers.mentions "connection" "keep-alive"

def status? (m : Message) : Option Nat :=
  match m.words with
  | _ :: code :: _ => Text.natural? code.toList
  | _ => none

end Message

/-- The request that has come in, with as much of its body as is there. -/
def Incoming.request : Incoming → Except Fault Request
  | .refused f => .error f
  | .head _ _ _ => .error .malformed
  | .complete m => m.request
  | .sized d _ | .chunkSize d _ | .chunk d _ | .chunkEnd d | .trailer d _ | .unsized d =>
    (d.message false).request

def line (s : String) : String :=
  s ++ "\r\n"

namespace Response

/-- The line that tells how long the body is, unless there is none to be told of: an upgraded
connection carries other things, and where only the headers were asked for the body is left out. -/
def lengthLine (method : String) (size : Nat) (r : Response) : String :=
  if r.status = 101 ∨ method = "HEAD" then "" else line ("content-length: " ++ toString size)

/-- The bytes of the response to a request with the given method. -/
def write (method : String) (persists : Bool) (r : Response) : List UInt8 :=
  let body := Text.utf8 r.body.render
  let head :=
    line ("HTTP/1.1 " ++ describeStatus r.status) ++
      String.join (r.headers.map fun (name, value) => line (name ++ ": " ++ value)) ++
      r.lengthLine method body.length ++
      (if persists then "" else line "connection: close")
  Text.utf8 (line head) ++ body

end Response

end Vigil.Http

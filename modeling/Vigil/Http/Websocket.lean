import Vigil.Positional

/-!
# Websockets

Over a connection that has become a websocket go frames: a kind, a payload with its length in front,
and from the client a mask under which the payload lies. `Incoming.feed` reads as far as the end of
one frame; `write` makes the bytes of a frame in one piece.
-/

namespace Vigil.Websocket

inductive Kind where
  /-- A piece of a message that comes in several of them. -/
  | continuation
  | text
  | binary
  | close
  | ping
  | pong
  deriving DecidableEq, Repr

namespace Kind

def code : Kind → UInt8
  | continuation => 0x0
  | text => 0x1
  | binary => 0x2
  | close => 0x8
  | ping => 0x9
  | pong => 0xA

def all : List Kind :=
  [continuation, text, binary, close, ping, pong]

def ofCode? (n : UInt8) : Option Kind :=
  all.find? (·.code == n)

/-- Whether a kind manages the connection. Such a frame comes in one piece. -/
def isControl : Kind → Bool
  | close | ping | pong => true
  | continuation | text | binary => false

end Kind

structure Frame where
  kind : Kind
  payload : List UInt8
  deriving DecidableEq, Repr

/-! ## Writing -/

/-- The length of a payload that is not masked. -/
def lengthBytes (n : Nat) : List UInt8 :=
  if n < 126 then [UInt8.ofNat n]
  else if n < 65536 then 126 :: Positional.bytes 2 n
  else 127 :: Positional.bytes 8 n

/-- The bytes of a frame in one piece. -/
def write (f : Frame) : List UInt8 :=
  (0x80 ||| f.kind.code) :: lengthBytes f.payload.length ++ f.payload

/-! ## Reading -/

/-- A frame as far as it has come in. -/
inductive Incoming where
  | start
  | length (k : Kind)
  /-- In a length of which `left` bytes are still to come. -/
  | longLength (k : Kind) (left n : Nat)
  | mask (k : Kind) (n : Nat) (seen : List UInt8)
  /-- In a payload of which `left` bytes are still to come, the last byte first. The key of the mask
  starts with the byte that is due. -/
  | payload (k : Kind) (key : List UInt8) (left : Nat) (seen : List UInt8)
  | complete (f : Frame)
  | malformed

namespace Incoming

/-- The longest payload that is read. -/
def limit : Nat := 16777216

/-- What follows the length of a payload. -/
def measured (k : Kind) (n : Nat) : Incoming :=
  if limit < n then .malformed else .mask k n []

/-- What follows the first byte of a frame. Neither may a bit be set that is kept for later use, nor
may a frame that manages the connection be one of several pieces. -/
def ofFirst (b : UInt8) : Incoming :=
  match Kind.ofCode? (b &&& 0x0F) with
  | none => .malformed
  | some k =>
    if b &&& 0x70 ≠ 0 then .malformed
    else if b &&& 0x80 ≠ 0 then .length k
    else if k.isControl then .malformed
    else .length .continuation

/-- What follows the byte that holds a short length or the kind of a long one. A payload has to be
masked. -/
def ofLength (k : Kind) (b : UInt8) : Incoming :=
  let n := (b &&& 0x7F).toNat
  if b &&& 0x80 = 0 then .malformed
  else if n = 126 then .longLength k 2 0
  else if n = 127 then .longLength k 8 0
  else measured k n

/-- A frame after one more byte. -/
def step (i : Incoming) (b : UInt8) : Incoming :=
  match i with
  | .start => ofFirst b
  | .length k => ofLength k b
  | .longLength k left n =>
    let n := 256 * n + b.toNat
    if left ≤ 1 then measured k n else .longLength k (left - 1) n
  | .mask k n seen =>
    let seen := seen ++ [b]
    if seen.length < 4 then .mask k n seen
    else if n = 0 then .complete ⟨k, []⟩
    else .payload k seen n []
  | .payload k key left seen =>
    match key with
    | [] => .malformed
    | m :: ms =>
      let seen := (b ^^^ m) :: seen
      if left ≤ 1 then .complete ⟨k, seen.reverse⟩ else .payload k (ms ++ [m]) (left - 1) seen
  | .complete f => .complete f
  | .malformed => .malformed

/-- A frame after more bytes, and the bytes that follow its end. -/
def feed : Incoming → List UInt8 → Incoming × List UInt8
  | i, [] => (i, [])
  | .complete f, bs => (.complete f, bs)
  | .malformed, bs => (.malformed, bs)
  | i, b :: bs => feed (i.step b) bs

end Incoming

end Vigil.Websocket

import Vigil.Positional

/-!
# SHA-1

The digest of twenty bytes that the handshake of a websocket rests on.
-/

namespace Vigil.Digest

/-- The state of a computation: five words. -/
structure Sha1 where
  a : UInt32
  b : UInt32
  c : UInt32
  d : UInt32
  e : UInt32

namespace Sha1

/-- The state before the first block. -/
def start : Sha1 :=
  ⟨0x67452301, 0xEFCDAB89, 0x98BADCFE, 0x10325476, 0xC3D2E1F0⟩

def rotate (w n : UInt32) : UInt32 :=
  (w <<< n) ||| (w >>> (32 - n))

/-- The sum of two states, word by word. -/
def add (s t : Sha1) : Sha1 :=
  ⟨s.a + t.a, s.b + t.b, s.c + t.c, s.d + t.d, s.e + t.e⟩

/-- The function of a round that mixes three words, and the constant of the round. -/
def mix (round : Nat) (b c d : UInt32) : UInt32 × UInt32 :=
  if round < 20 then ((b &&& c) ||| (~~~b &&& d), 0x5A827999)
  else if round < 40 then (b ^^^ c ^^^ d, 0x6ED9EBA1)
  else if round < 60 then ((b &&& c) ||| (b &&& d) ||| (c &&& d), 0x8F1BBCDC)
  else (b ^^^ c ^^^ d, 0xCA62C1D6)

/-- The state after one round with its word of the schedule. -/
def round (s : Sha1) (i : Nat) (w : UInt32) : Sha1 :=
  let (f, k) := mix i s.b s.c s.d
  ⟨rotate s.a 5 + f + s.e + k + w, s.a, rotate s.b 30, s.c, s.d⟩

/-- The word that four bytes make up, the highest first. -/
def word (bytes : List UInt8) : UInt32 :=
  bytes.foldl (fun w b => (w <<< 8) ||| b.toUInt32) 0

/-- The first `n` words of a list of bytes. -/
def words : Nat → List UInt8 → List UInt32
  | 0, _ => []
  | n + 1, bytes => word (bytes.take 4) :: words n (bytes.drop 4)

/-- The schedule of a block of sixteen words. `recent` holds the last sixteen words, the latest
first. -/
def schedule : Nat → List UInt32 → List UInt32
  | 0, _ => []
  | n + 1, recent =>
    let at_ (i : Nat) := recent.getD i 0
    let w := rotate (at_ 2 ^^^ at_ 7 ^^^ at_ 13 ^^^ at_ 15) 1
    w :: schedule n (w :: recent.take 15)

/-- The state after a block of sixty-four bytes. -/
def block (s : Sha1) (bytes : List UInt8) : Sha1 :=
  let first := words 16 bytes
  let all := first ++ schedule 64 first.reverse
  s.add (all.zipIdx.foldl (fun t (w, i) => t.round i w) s)

/-- The state after `n` blocks. -/
def blocks : Nat → Sha1 → List UInt8 → Sha1
  | 0, s, _ => s
  | n + 1, s, bytes => blocks n (s.block (bytes.take 64)) (bytes.drop 64)

/-- A message filled up to whole blocks: a set bit, zeros, and the number of bits. -/
def pad (message : List UInt8) : List UInt8 :=
  let zeros := (119 - message.length % 64) % 64
  message ++ 0x80 :: List.replicate zeros 0 ++ Positional.bytes 8 (8 * message.length)

def bytes (s : Sha1) : List UInt8 :=
  [s.a, s.b, s.c, s.d, s.e].flatMap fun w => Positional.bytes 4 w.toNat

end Sha1

def sha1 (message : List UInt8) : List UInt8 :=
  let padded := Sha1.pad message
  (Sha1.blocks (padded.length / 64) .start padded).bytes

end Vigil.Digest

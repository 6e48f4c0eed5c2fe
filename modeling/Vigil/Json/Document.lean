import Vigil.Json.Token

/-!
# Documents: JSON texts as trees

`Root.ofTokens` arranges the tokens of a text in a tree. A text with a fault is a tree as well: each
array and object that the fault leaves open ends with it, and a value that is not there is `absent`.
So a reader that walks the tree in order meets the fault where a reader of the text would.
-/

namespace Vigil.Json

/-- What ends an array or object before its closing bracket. -/
structure Stop where
  /-- A comma stands before it. -/
  comma : Bool
  fault : Fault

/-- The name of a member as it stands in the text. -/
abbrev Name := Lexeme String

/-- A value as it stands in a text. -/
inductive Document where
  | scalar (s : Scalar)
  | array (items : List Document) (stop : Option Stop)
  | object (members : List (Name × Document)) (stop : Option Stop)
  /-- A place where a value should stand and none does. -/
  | absent (f : Fault)

/-- A text as a tree: its value, and whether only blanks follow. -/
structure Root where
  document : Document
  clean : Bool

/-- An array or object that is still open; what it holds is listed the latest first. -/
inductive Frame where
  | array (items : List Document)
  /-- `name` is the name of the member whose value is still to come, if any. -/
  | object (members : List (Name × Document)) (name : Option Name)

/-- What may stand next in a text. -/
inductive Place where
  | value
  /-- The first item of an array, or its end. -/
  | item
  /-- The name of the first member of an object, or its end. -/
  | member
  /-- The name of a further member. -/
  | name
  | colon
  /-- A comma, or the end of the innermost array or object. -/
  | next

/-- A text as far as its tokens are arranged. -/
inductive Progress where
  /-- The frames are listed the innermost first. -/
  | reading (place : Place) (frames : List Frame)
  | finished (r : Root)

namespace Frame

/-- An open array or object with one more value in it. -/
def add (d : Document) : Frame → Frame
  | array items => array (d :: items)
  | object members (some n) => object ((n, d) :: members) none
  | object members none => object members none

/-- An array or object that ends. -/
def close (stop : Option Stop) : Frame → Document
  | array items => .array items.reverse stop
  | object members _ => .object members.reverse stop

end Frame

/-- The tree of a text that goes wrong inside the given frames, after the value `d`. -/
def unwind (stop : Stop) (d : Document) : List Frame → Document
  | [] => d
  | frame :: frames => unwind stop ((frame.add d).close (some stop)) frames

/-- The tree of a text that goes wrong inside the given frames where no value is due. -/
def breakOff (stop : Stop) : List Frame → Document
  | [] => .absent stop.fault
  | frame :: frames => unwind stop (frame.close (some stop)) frames

namespace Progress

/-- The arrangement after a complete value. -/
def push (d : Document) : List Frame → Progress
  | [] => finished ⟨d, true⟩
  | frame :: frames => reading .next (frame.add d :: frames)

/-- The arrangement after the end of the innermost array or object. -/
def pop : List Frame → Progress
  | [] => finished ⟨.absent .malformed, true⟩
  | frame :: frames => push (frame.close none) frames

/-- The arrangement of a text that goes wrong. -/
def fail (place : Place) (stop : Stop) (frames : List Frame) : Progress :=
  match place with
  | .value | .item | .colon => finished ⟨unwind stop (.absent stop.fault) frames, true⟩
  | .member | .next => finished ⟨breakOff stop frames, true⟩
  | .name => finished ⟨breakOff { stop with comma := true } frames, true⟩

/-- The arrangement after the first token of a value. -/
def value (place : Place) (t : Token) (frames : List Frame) : Progress :=
  match t with
  | .scalar s => push (.scalar s) frames
  | .openArray => reading .item (.array [] :: frames)
  | .openObject => reading .member (.object [] none :: frames)
  | _ => fail place ⟨false, .malformed⟩ frames

/-- The arrangement after one more token. -/
def step (p : Progress) (t : Token) : Progress :=
  match p with
  | finished r => finished { r with clean := false }
  | reading place frames =>
    match place, t, frames with
    | .value, t, frames => value .value t frames
    | .item, .closeArray, frames => pop frames
    | .item, t, frames => value .item t frames
    | .member, .closeObject, frames => pop frames
    | .member, .scalar (.text n), .object ms _ :: frames
    | .name, .scalar (.text n), .object ms _ :: frames =>
      reading .colon (.object ms (some n) :: frames)
    | .colon, .colon, frames => reading .value frames
    | .next, .comma, .array items :: frames => reading .value (.array items :: frames)
    | .next, .comma, .object ms n :: frames => reading .name (.object ms n :: frames)
    | .next, .closeArray, .array items :: frames => pop (.array items :: frames)
    | .next, .closeObject, .object ms n :: frames => pop (.object ms n :: frames)
    | place, _, frames => fail place ⟨false, .malformed⟩ frames

/-- The tree of a text of which all tokens are arranged. -/
def finish : Progress → Root
  | finished r => r
  | reading place frames =>
    match fail place ⟨false, .truncated⟩ frames with
    | finished r => r
    | reading _ _ => ⟨.absent .truncated, true⟩

end Progress

/-- The tree of a sequence of tokens. -/
def Root.ofTokens (tokens : List Token) : Root :=
  (tokens.foldl Progress.step (.reading .value [])).finish

def Root.ofCodes (codes : List Text.Code) : Root :=
  Root.ofTokens (Token.scan codes)

end Vigil.Json

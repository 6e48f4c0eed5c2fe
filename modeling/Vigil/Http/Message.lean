import Vigil.Http.Target
import Vigil.Json.Basic
import Vigil.Text.Blank
import Vigil.Text.Code

/-!
# Messages

Requests as they come in and responses as they go out.
-/

namespace Vigil.Http

/-- The headers of a message that has come in. The value of a header is a sequence of bytes. -/
abbrev Headers := List (String × List UInt8)

namespace Headers

/-- A byte of blank space inside a line. -/
def isSpace (b : UInt8) : Bool :=
  b == 0x20 || b == 0x09

/-- A value without the blank space around it. -/
def trimValue (value : List UInt8) : List UInt8 :=
  ((value.dropWhile isSpace).reverse.dropWhile isSpace).reverse

/-- The values of all headers of the given name, in order. -/
def all (name : String) (hs : Headers) : List (List UInt8) :=
  (hs.filter fun h => Text.asciiLower h.1 == name).map Prod.snd

/-- The value of the first header of the given name, which is in lower case here and in letters of
either case in a message. -/
def get? (name : String) (hs : Headers) : Option (List UInt8) :=
  (hs.find? fun h => Text.asciiLower h.1 == name).map Prod.snd

/-- The text of a header in lower case, if it is there and is a text. -/
def text? (name : String) (hs : Headers) : Option String :=
  ((hs.get? name).bind Text.text?).map Text.asciiLower

/-- Whether a header has the given value, in letters of either case. -/
def has (name value : String) (hs : Headers) : Bool :=
  hs.text? name == some value

/-- Whether a list stands somewhere inside another one. -/
def occursIn (word : List Char) : List Char → Bool
  | [] => word.isEmpty
  | c :: cs => word.isPrefixOf (c :: cs) || occursIn word cs

/-- Whether a header mentions the given word, in letters of either case. -/
def mentions (name word : String) (hs : Headers) : Bool :=
  (hs.text? name).any fun s => occursIn word.toList s.toList

end Headers

structure Request where
  method : String
  target : String
  headers : Headers
  body : List UInt8

namespace Request

def path (r : Request) : String :=
  Target.path r.target

/-- The request with no blank space around the values of its headers, as it is once it has come over
a connection. -/
def trimmed (r : Request) : Request :=
  { r with headers := r.headers.map fun (name, value) => (name, Headers.trimValue value) }

end Request

inductive Body where
  | empty
  | text (s : String)
  | json (v : Json)

def Body.render : Body → String
  | empty => ""
  | text s => s
  | json v => v.render

structure Response where
  status : Nat
  headers : List (String × String)
  body : Body

namespace Response

def ofStatus (status : Nat) : Response :=
  ⟨status, [], .empty⟩

def ofText (status : Nat) (s : String) : Response :=
  ⟨status, [("content-type", "text/plain; charset=utf-8")], .text s⟩

def ofJson (status : Nat) (v : Json) : Response :=
  ⟨status, [("content-type", "application/json")], .json v⟩

def withHeader (name value : String) (r : Response) : Response :=
  { r with headers := r.headers ++ [(name, value)] }

def withoutBody (r : Response) : Response :=
  { r with body := .empty }

end Response

end Vigil.Http

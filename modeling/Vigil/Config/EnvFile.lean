import Vigil.Config.Variable
import Vigil.Text.Code
import Vigil.Text.Letter

/-!
# Files of assignments

A file of assignments gives variables to an environment, one on a line: `KEY=value`, with `export`
before it or not. A variable that is set already keeps its value. Reading ends at the first line
that is malformed, and fails at a value that no variable can have.

In a value, text between single quotes stands for itself. Elsewhere a backslash makes the character
after it stand for itself, or the letter n for the end of a line, and a dollar sign with letters and
digits after it, or with anything in braces, stands for the value of a variable. Double quotes keep
blanks. A blank outside of quotes ends the value, and only a comment may follow.
-/

namespace Vigil.EnvFile

inductive Quote where
  | single
  | double
  deriving DecidableEq, Repr

/-- Where in a value reading has got to. Names are listed the last character first. -/
inductive Phase where
  | text
  | escape
  /-- After a blank that ends the value. -/
  | ended
  | comment
  /-- In the name of a variable after a dollar sign. -/
  | name (cs : List Char)
  /-- In a name that stands in braces. -/
  | braced (cs : List Char)
  deriving DecidableEq, Repr

/-- A value as far as it is read, the last character first. -/
structure Reading where
  output : List Char
  quote : Option Quote
  phase : Phase

namespace Reading

/-- The reading with one more character in the value. -/
def push (c : Char) (r : Reading) : Reading :=
  { r with output := c :: r.output, phase := .text }

/-- The reading with the value of a variable, if it has one, in the value. -/
def substitute (env : Environment) (name : List Char) (r : Reading) : Reading :=
  let value := (env (String.ofList name.reverse)).getD ""
  { r with output := value.toList.reverse ++ r.output, phase := .text }

/-- The reading after one more character of plain text. -/
def stepText (c : Char) (r : Reading) : Reading :=
  match r.quote, c with
  | some .single, '\'' => { r with quote := none }
  | some .single, c => r.push c
  | _, '$' => { r with phase := .name [] }
  | some .double, '"' => { r with quote := none }
  | _, '\\' => { r with phase := .escape }
  | some .double, c => r.push c
  | none, '\'' => { r with quote := some .single }
  | none, '"' => { r with quote := some .double }
  | none, c => if c = ' ' ∨ c = '\t' then { r with phase := .ended } else r.push c

/-- The reading after one more character in the name of a variable. -/
def stepName (env : Environment) (name : List Char) (c : Char) (r : Reading) : Reading :=
  if Text.isWordChar c then { r with phase := .name (c :: name) }
  else if c = '\x7b' ∧ name.isEmpty then { r with phase := .braced [] }
  else
    let r := r.substitute env name
    if c = '$' then { r with phase := .name [] } else r.push c

/-- The reading after one more character, if it may stand there. -/
def step (env : Environment) (r : Reading) (c : Char) : Option Reading :=
  match r.phase with
  | .text => some (r.stepText c)
  | .escape =>
    if c = 'n' then some (r.push '\n')
    else if c ∈ ['\\', '\'', '"', '$', ' '] then some (r.push c)
    else none
  | .ended =>
    if c = ' ' ∨ c = '\t' then some r
    else if c = '#' then some { r with phase := .comment }
    else none
  | .comment => some r
  | .name name => some (r.stepName env name c)
  | .braced name =>
    if c = '\x7d' then some (r.substitute env name)
    else some { r with phase := .braced (c :: name) }

/-- The value that has been read, if nothing is left open. -/
def finish (env : Environment) (r : Reading) : Option String :=
  match r.quote, r.phase with
  | some _, _ | _, .braced _ => none
  | none, .name name => some (String.ofList (r.substitute env name).output.reverse)
  | none, _ => some (String.ofList r.output.reverse)

end Reading

/-- The value that the rest of a line writes. -/
def value? (env : Environment) (cs : List Char) : Option String := do
  (← cs.foldlM (Reading.step env) ⟨[], none, .text⟩).finish env

inductive Line where
  | blank
  | assignment (key value : String)
  deriving DecidableEq, Repr

def startsKey (c : Char) : Bool :=
  c.isAlpha || c == '_'

def inKey (c : Char) : Bool :=
  c.isAlphanum || c == '_' || c == '.'

/-- The key at the start of a text, and what follows it and the blanks after it. -/
def key? (cs : List Char) : Option (String × List Char) :=
  if cs.head?.any startsKey then
    some (String.ofList (cs.takeWhile inKey), (cs.dropWhile inKey).dropWhile Text.isBlank)
  else none

/-- What follows an equals sign and the blanks after it. -/
def afterEquals? : List Char → Option (List Char)
  | '=' :: cs => some (cs.dropWhile Text.isBlank)
  | _ => none

/-- The key of an assignment and what follows the equals sign. The word `export` is passed over
unless it is the key itself. -/
def assignment? (cs : List Char) : Option (String × List Char) := do
  let (key, rest) ← key? cs
  match afterEquals? rest with
  | some value => return (key, value)
  | none =>
    if key ≠ "export" then none
    else
      let (key, rest) ← key? rest
      return (key, ← afterEquals? rest)

/-- What a line says, if it is well-formed. -/
def line? (env : Environment) (s : String) : Option Line :=
  match Text.trimChars s.toList with
  | [] => some .blank
  | '#' :: _ => some .blank
  | cs => do
    let (key, rest) ← assignment? cs
    match rest with
    | [] => return .assignment key ""
    | '#' :: _ => return .assignment key ""
    | cs => return .assignment key (← value? env cs)

/-- The environment with a value for a variable that is not set yet. -/
def withDefault (key value : String) (env : Environment) : Environment := fun k =>
  (env k).or (if k = key then some value else none)

/-- The environment after the lines of a file have been read. To set a variable to a value with a
NUL is a fault. -/
def readLines : List (List UInt8) → Environment → Except ConfigFault Environment
  | [], env => .ok env
  | bytes :: lines, env =>
    match (Text.text? bytes).bind (line? env) with
    | none => .ok env
    | some .blank => readLines lines env
    | some (.assignment key value) =>
      if (env key).isNone && value.contains '\x00' then .error (.unsettable key)
      else readLines lines (withDefault key value env)

def lines (bytes : List UInt8) : List (List UInt8) :=
  bytes.splitBy fun a _ => a ≠ 0x0A

def extend (bytes : List UInt8) (env : Environment) : Except ConfigFault Environment :=
  readLines (lines bytes) env

/-! ## Names -/

/-- The names that stand in braces after a dollar sign. -/
def bracedNames : List Char → List String
  | '$' :: '\x7b' :: cs => String.ofList (cs.takeWhile (· ≠ '\x7d')) :: bracedNames cs
  | _ :: cs => bracedNames cs
  | [] => []

/-- The longest runs of characters that have a property. -/
def runs (p : Char → Bool) (cs : List Char) : List String :=
  ((cs.splitBy fun a b => p a == p b).filter fun run => run.head?.any p).map String.ofList

/-- Names, among which are those of all variables that the reading of a file asks for. -/
def names (bytes : List UInt8) : List String :=
  let cs := (Text.codes bytes).filterMap Text.Code.char?
  runs inKey cs ++ runs Text.isWordChar cs ++ bracedNames cs

end Vigil.EnvFile

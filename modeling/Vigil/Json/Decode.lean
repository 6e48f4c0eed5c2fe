import Vigil.Json.Document

/-!
# Reading values of a given shape

A `Decode α` reads a value of type `α` off a document and reports the first fault in reading order:
a wrong shape is found as soon as a scalar is complete or a bracket has opened. A record stands in a
text as an object, whose unknown members are passed over, or as an array of its fields in order. A
choice among named variants stands there as the name alone or as an object with the name as its only
member.
-/

namespace Vigil.Json

abbrev Decode (α : Type) := Document → Except Fault α

namespace Document

/-- The fault of reading a document for a value of another shape. -/
def mismatch : Document → Fault
  | scalar (.literal _ ⟨.error f, _⟩) => f
  | scalar (.number ⟨.error f, _⟩) => f
  | scalar (.text ⟨.error f, _⟩) => f
  | scalar _ => .mismatched
  | array _ _ => .mismatched
  | object _ _ => .mismatched
  | absent f => f

def skipScalar : Scalar → Option Fault
  | .literal _ l => l.skipped
  | .number l => l.skipped
  | .text l => l.skipped

mutual

def skip : Document → Option Fault
  | scalar s => skipScalar s
  | array items stop => (skipItems items).or (stop.map Stop.fault)
  | object members stop => (skipMembers members).or (stop.map Stop.fault)
  | absent f => some f

/-- The first fault of passing over the items of an array. -/
def skipItems : List Document → Option Fault
  | [] => none
  | d :: ds => (skip d).or (skipItems ds)

/-- The first fault of passing over the members of an object. -/
def skipMembers : List (Name × Document) → Option Fault
  | [] => none
  | (n, d) :: ms => (n.skipped.or (skip d)).or (skipMembers ms)

end

end Document

namespace Decode

/-- Fails with the fault of what ends an array or object early. -/
def closed : Option Stop → Except Fault Unit
  | none => .ok ()
  | some stop => .error stop.fault

def text : Decode String
  | .scalar (.text l) => l.value
  | d => .error d.mismatch

def bool : Decode Bool
  | .scalar (.literal (some b) ⟨.ok (), _⟩) => .ok b
  | d => .error d.mismatch

/-- A natural number below `bound`. -/
def natural (bound : Nat) : Decode Nat
  | .scalar (.number ⟨.ok (.natural n), _⟩) => if n < bound then .ok n else .error .mismatched
  | d => .error d.mismatch

def null : Decode Unit
  | .scalar (.literal none l) => l.value
  | d => .error d.mismatch

/-- A text that a partial function reads. -/
def parsed (read : String → Option α) : Decode α := fun d => do
  match read (← text d) with
  | some a => .ok a
  | none => .error .mismatched

/-- A value or `null`, which is taken for `null` by its first letter. -/
def nullable (read : Decode α) : Decode (Option α)
  | .scalar (.literal none l) => l.value.map fun _ => none
  | d => some <$> read d

def list (read : Decode α) : Decode (List α)
  | .array items stop => do
    let values ← items.mapM read
    closed stop
    return values
  | d => .error d.mismatch

/-- The members of an object with the values that `read` gives, in order. -/
def members (read : Decode α) : Decode (List (String × α))
  | .object members stop => do
    let values ← members.mapM fun (n, d) => do return (← n.value, ← read d)
    closed stop
    return values
  | d => .error d.mismatch

/-! ## Records -/

/-- A field of a record of which `σ` holds what is read so far. -/
structure RecordField (σ : Type) where
  name : String
  /-- Whether the field has been read. -/
  given : σ → Bool
  read : σ → Decode σ
  /-- Whether the field may be left off at the end of an array. -/
  optional : Bool

/-- Reads the members of an object into the fields of a record. A second member for a field is a
fault at its name. -/
def readMembers (fields : List (RecordField σ)) (stop : Option Stop) :
    σ → List (Name × Document) → Except Fault σ
  | state, [] => do
    closed stop
    return state
  | state, (n, d) :: rest => do
    let name ← n.value
    match fields.find? (·.name == name) with
    | some field =>
      if field.given state then .error .mismatched
      else readMembers fields stop (← field.read state d) rest
    | none =>
      match d.skip with
      | some f => .error f
      | none => readMembers fields stop state rest

/-- Reads the items of an array into the fields of a record. -/
def readItems (stop : Option Stop) : σ → List (RecordField σ) → List Document → Except Fault σ
  | state, [], [] => do
    closed stop
    return state
  | _, [], _ :: _ => .error .malformed
  | state, field :: fields, d :: rest => do
    readItems stop (← field.read state d) fields rest
  | state, field :: fields, [] => do
    closed stop
    if field.optional then readItems stop state fields [] else .error .mismatched

def record (fields : List (RecordField σ)) (state : σ) : Decode σ
  | .object members stop => readMembers fields stop state members
  | .array items stop => readItems stop state fields items
  | d => .error d.mismatch

/-- A field that a record needs. -/
def required : Option α → Except Fault α
  | some a => .ok a
  | none => .error .mismatched

/-! ## Variants -/

inductive Variant (α : Type) where
  | unit (a : α)
  | holding (read : Decode α)

/-- Reads what stands after the name of a variant. -/
def Variant.read : Variant α → Decode α
  | unit a => fun d => do
    null d
    return a
  | holding read => read

/-- The fault of what follows the only member of a variant's object, if anything does. -/
def variantEnd : List (Name × Document) → Option Stop → Except Fault Unit
  | [], none => .ok ()
  | [], some stop => .error (if stop.comma then .malformed else stop.fault)
  | _ :: _, _ => .error .malformed

/-- A choice among named variants. -/
def variant (variants : String → Option (Variant α)) : Decode α
  | .scalar (.text l) => do
    match variants (← l.value) with
    | some (.unit a) => .ok a
    | _ => .error .mismatched
  | .object [] none => .error .malformed
  | .object [] (some stop) => .error stop.fault
  | .object ((n, d) :: rest) stop => do
    let some v := variants (← n.value) | .error .mismatched
    let a ← v.read d
    variantEnd rest stop
    return a
  | .absent f => .error f
  | _ => .error .malformed

end Decode

/-- Reads a whole text: one value with nothing but blanks around it. -/
def decode (read : Decode α) (codes : List Text.Code) : Except Fault α := do
  let root := Root.ofCodes codes
  let a ← read root.document
  if root.clean then return a else .error .malformed

end Vigil.Json

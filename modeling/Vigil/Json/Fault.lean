/-!
# Faults of JSON texts

What can be wrong with a JSON text that is read for a value of a given shape. The fault of a text is
the first one met while reading from left to right.
-/

namespace Vigil.Json

inductive Fault where
  /-- The text ends inside a value. -/
  | truncated
  /-- The text is no JSON at that place, or holds more than a shape allows. -/
  | malformed
  /-- The text is JSON so far and has the wrong shape. -/
  | mismatched
  deriving DecidableEq, Repr

def Fault.label : Fault → String
  | .truncated => "eof"
  | .malformed => "syntax"
  | .mismatched => "data"

/-- A scalar or a name of a text. What it reads as may be a fault even where the text may be
skipped: a skipped number has no range, and a skipped text need not be well-formed Unicode. -/
structure Lexeme (α : Type) where
  /-- The value, or the fault of reading it. -/
  value : Except Fault α
  /-- The fault of passing over it. -/
  skipped : Option Fault

end Vigil.Json

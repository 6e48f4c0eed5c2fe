import Vigil.Event
import Vigil.Positional
import Vigil.Text.Blank
import Vigil.Text.Numeral

/-!
# Levels of the log

A level lets pass the notices that are at least as grave.
-/

namespace Vigil

inductive LogLevel where
  | off
  | error
  | warn
  | info
  | debug
  | trace
  deriving DecidableEq, Repr

namespace LogLevel

/-- All levels, the most silent first. -/
def all : List LogLevel :=
  [off, error, warn, info, debug, trace]

def name : LogLevel → String
  | off => "off"
  | error => "error"
  | warn => "warn"
  | info => "info"
  | debug => "debug"
  | trace => "trace"

/-- The level that a text stands for: its number, its name in letters of either case, or nothing at
all for errors. -/
def ofString? (s : String) : Option LogLevel :=
  match (Text.unsigned? Positional.word64 s).bind (all[·]?) with
  | some level => some level
  | none => if s.isEmpty then some error else all.find? (·.name == Text.asciiLower s)

def rank : LogLevel → Nat
  | off => 0
  | error => 1
  | warn => 2
  | info => 3
  | debug => 4
  | trace => 5

def passes (l : LogLevel) (n : NoticeLevel) : Bool :=
  match n with
  | .error => error.rank ≤ l.rank
  | .warn => warn.rank ≤ l.rank
  | .info => info.rank ≤ l.rank

end LogLevel

end Vigil

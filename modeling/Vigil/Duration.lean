import Vigil.Positional
import Vigil.Text.Blank
import Vigil.Text.Numeral

/-!
# Durations

A duration is written as components without anything between them, each a run of digits and a unit:
`1h2m3s500ms`. It is a number of milliseconds whose whole seconds fit into 64 bits.
-/

namespace Vigil

/-- A span of time in milliseconds. -/
structure Duration where
  millis : Nat
  deriving DecidableEq, Repr, Inhabited

namespace Duration

def ofSeconds (n : Nat) : Duration :=
  ⟨1000 * n⟩

def seconds (d : Duration) : Nat :=
  d.millis / 1000

/-- The nanoseconds of a span beyond its whole seconds. -/
def nanos (d : Duration) : Nat :=
  d.millis % 1000 * 1000000

/-- The number of seconds that the clock can tell apart. -/
def clockSeconds : Nat := 9223372036854775808

/-- Whether the clock can show a reading in milliseconds. -/
def reaches (reading : Nat) : Bool :=
  reading / 1000 < clockSeconds

inductive Unit where
  | hour
  | minute
  | second
  | milli
  deriving DecidableEq, Repr

/-- The milliseconds of a component, if its digits and its seconds fit into 64 bits. -/
def Unit.span? (u : Unit) (value : Nat) : Option Nat :=
  let seconds := match u with
    | .hour => 3600 * value
    | .minute => 60 * value
    | .second | .milli => value
  if seconds < Positional.word64 then
    some (match u with
      | .milli => value
      | _ => 1000 * seconds)
  else none

/-- The sum of two spans, if its seconds fit into 64 bits. -/
def add? (total span : Nat) : Option Nat :=
  if (total + span) / 1000 < Positional.word64 then some (total + span) else none

/-- The total of the components that follow those of `total` and the digits of `value`. -/
def total? (total : Nat) (value : Option Nat) : List Char → Option Nat
  | [] => if value.isNone then some total else none
  | 'm' :: 's' :: cs => do total? (← add? total (← Unit.milli.span? (← value))) none cs
  | 'm' :: cs => do total? (← add? total (← Unit.minute.span? (← value))) none cs
  | 'h' :: cs => do total? (← add? total (← Unit.hour.span? (← value))) none cs
  | 's' :: cs => do total? (← add? total (← Unit.second.span? (← value))) none cs
  | c :: cs => do total? total (some (10 * value.getD 0 + (← Text.digit? c))) cs

/-- The duration that a text writes, blanks around it aside. -/
def parse? (raw : String) : Option Duration :=
  match Text.trimChars raw.toList with
  | [] => none
  | cs => (total? 0 none cs).map Duration.mk

/-- A number of milliseconds below a second as a fraction, without the zeros at its end. -/
def fraction (millis : Nat) : String :=
  match ((Positional.digits 10 3 millis).reverse.dropWhile (· == 0)).reverse with
  | [] => ""
  | ds => "." ++ String.ofList (ds.map Nat.digitChar)

/-- A duration in seconds, or in milliseconds when it is shorter than a second. -/
def describe (d : Duration) : String :=
  if d.seconds > 0 then toString d.seconds ++ fraction (d.millis % 1000) ++ "s"
  else if d.millis > 0 then toString d.millis ++ "ms"
  else "0ns"

end Duration

end Vigil

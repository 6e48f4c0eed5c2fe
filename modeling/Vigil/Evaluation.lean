import Vigil.Positional
import Vigil.ServiceState

/-!
# Evaluation of failing services

A service that fails in a row is worth a notice when the length of the run reaches one of two
boundaries, and again after every ten further failures beyond the second. The second boundary is a
sum of two words of 64 bits, which wraps around where it does not fit into another one. A program
that checks its sums goes no further there.
-/

namespace Vigil

/-- How long a silence lasts on the rungs of the ladder, in ticks, and how long a run of failures
has to be. -/
structure Thresholds where
  /-- Ticks from the first one of a silence to the rung `failed`. -/
  toFailed : Nat
  /-- Ticks on the rung `failed`, and the length of a run that raises a low alert. -/
  toLow : Nat
  /-- Ticks on the rung `alertedLow`, and the further length of a run that raises a high alert. -/
  toHigh : Nat
  deriving DecidableEq, Repr, Inhabited

/-- The length of a run of failures that raises a high alert. -/
def Thresholds.highBoundary (t : Thresholds) : Nat :=
  (t.toLow + t.toHigh) % Positional.word64

/-- The number of repetitions between two notices about something that lasts. -/
def noticeInterval : Nat := 10

/-- What a report says about a service: its state, and the length of the run of equal states that
ends there. The length is zero for a service that passes. -/
structure Observation where
  state : ServiceState
  count : Nat
  deriving DecidableEq, Repr, Inhabited

inductive Evaluation where
  | quiet
  | reachesLow
  | reachesHigh
  | stillFailing
  deriving DecidableEq, Repr, Inhabited

def Observation.evaluate (o : Observation) (t : Thresholds) : Evaluation :=
  if o.state ≠ .fail then .quiet
  else if o.count = t.toLow then .reachesLow
  else if o.count = t.highBoundary then .reachesHigh
  else if t.highBoundary < o.count ∧ (o.count - t.highBoundary) % noticeInterval = 0 then
    .stillFailing
  else .quiet

/-- The sum that makes up the second boundary, if it fits into a word. -/
def Thresholds.highBoundary? (t : Thresholds) : Option Nat :=
  if t.toLow + t.toHigh < Positional.word64 then some (t.toLow + t.toHigh) else none

/-- The evaluation where sums are checked: the second boundary of a service that fails has to fit.
-/
def Observation.evaluate? (o : Observation) (t : Thresholds) : Option Evaluation :=
  if o.state = .fail ∧ t.highBoundary? = none then none else some (o.evaluate t)

end Vigil

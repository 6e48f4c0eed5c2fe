import Vigil.Config.Basic
import Vigil.Config.Fault
import Vigil.Config.LogLevel
import Vigil.Probe

/-!
# Checked settings

What the monitor runs with, as far as a configuration gives it: a delay that is not zero, thresholds
of at least one, and an interval for the dashboard of at least a second.
-/

namespace Vigil.Config

def namedThresholds (c : Config) : List (String × Nat) :=
  [("degraded_to_failed", c.thresholds.toFailed), ("failed_to_alerted_low", c.thresholds.toLow),
    ("alerted_low_to_alerted_high", c.thresholds.toHigh)]

/-- The inactivity delay of a configuration, unless it is no duration or zero. -/
def delay? (c : Config) : Option Duration :=
  (Duration.parse? c.inactivityDelay).filter (·.millis ≠ 0)

/-- The time between two snapshots for the dashboard, if there is one. -/
def interval? (c : Config) : Option Duration :=
  if c.dashboard then some (Duration.ofSeconds (max 1 c.dashboardInterval)) else none

/-- The settings of a configuration, or the first fault among them. The program starts when the
clock reads `epoch`. -/
def settings (c : Config) (epoch : Nat) : Except ConfigFault Settings :=
  match c.delay? with
  | none => .error (.invalidDelay c.inactivityDelay)
  | some delay =>
    match c.namedThresholds.find? (·.2 = 0) with
    | some (name, _) => .error (.invalidThreshold name)
    | none => .ok ⟨delay, c.thresholds, c.interval?, epoch⟩

def level (c : Config) : Except ConfigFault LogLevel :=
  match LogLevel.ofString? c.logLevel with
  | some level => .ok level
  | none => .error (.invalidLogLevel c.logLevel)

end Vigil.Config

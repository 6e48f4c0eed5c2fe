import Vigil.Alert.Binding
import Vigil.Net.Address
import Vigil.Positional

/-!
# Configurations

A configuration has a value for each of its settings. A configuration file is a layer: it gives some
of them, and each of the others has its default.
-/

namespace Vigil

/-- The settings of the program as they are given, before they are checked. -/
structure Config where
  address : Address
  port : Nat
  authToken : Option String
  /-- The silence after which a probe ticks, in words. -/
  inactivityDelay : String
  thresholds : Thresholds
  logLevel : String
  dashboard : Bool
  /-- The seconds between two snapshots for the dashboard. -/
  dashboardInterval : Nat
  low : Option Binding
  high : Option Binding
  deriving DecidableEq, Repr

namespace Config

/-! ## Defaults -/

def defaultAddress : Address := .v4 0

def defaultPort : Nat := 5000

def defaultInactivityDelay : String := "30s"

def defaultToFailed : Nat := 2

def defaultToLow : Nat := 3

def defaultToHigh : Nat := 5

def defaultLogLevel : String := "info"

def defaultDashboard : Bool := true

def defaultDashboardInterval : Nat := 5

/-- The configuration where nothing is given. -/
def default : Config where
  address := defaultAddress
  port := defaultPort
  authToken := none
  inactivityDelay := defaultInactivityDelay
  thresholds := ⟨defaultToFailed, defaultToLow, defaultToHigh⟩
  logLevel := defaultLogLevel
  dashboard := defaultDashboard
  dashboardInterval := defaultDashboardInterval
  low := none
  high := none

end Config

/-- The settings that a configuration file gives. -/
structure Layer where
  address : Option Address
  port : Option Nat
  authToken : Option (Option String)
  inactivityDelay : Option String
  toFailed : Option Nat
  toLow : Option Nat
  toHigh : Option Nat
  logLevel : Option String
  dashboard : Option Bool
  dashboardInterval : Option Nat
  low : Option (Option Binding)
  high : Option (Option Binding)

namespace Layer

def empty : Layer :=
  ⟨none, none, none, none, none, none, none, none, none, none, none, none⟩

open Config in
/-- The configuration of a layer. A field that it does not give has a default of its own. -/
def config (l : Layer) : Config where
  address := l.address.getD defaultAddress
  port := l.port.getD defaultPort
  authToken := l.authToken.getD none
  inactivityDelay := l.inactivityDelay.getD defaultInactivityDelay
  thresholds :=
    ⟨l.toFailed.getD defaultToFailed, l.toLow.getD defaultToLow, l.toHigh.getD defaultToHigh⟩
  logLevel := l.logLevel.getD defaultLogLevel
  dashboard := l.dashboard.getD defaultDashboard
  dashboardInterval := l.dashboardInterval.getD defaultDashboardInterval
  low := l.low.getD none
  high := l.high.getD none

open Json Decode in
def fields : List (RecordField Layer) :=
  [⟨"address", (·.address.isSome),
      fun l v => do return { l with address := some (← parsed Address.ofString? v) }, true⟩,
    ⟨"port", (·.port.isSome),
      fun l v => do return { l with port := some (← natural 65536 v) }, true⟩,
    ⟨"auth_token", (·.authToken.isSome),
      fun l v => do return { l with authToken := some (← nullable text v) }, false⟩,
    ⟨"probe_inactivity_delay", (·.inactivityDelay.isSome),
      fun l v => do return { l with inactivityDelay := some (← text v) }, true⟩,
    ⟨"degraded_to_failed", (·.toFailed.isSome),
      fun l v => do return { l with toFailed := some (← natural Positional.word64 v) }, true⟩,
    ⟨"failed_to_alerted_low", (·.toLow.isSome),
      fun l v => do return { l with toLow := some (← natural Positional.word64 v) }, true⟩,
    ⟨"alerted_low_to_alerted_high", (·.toHigh.isSome),
      fun l v => do return { l with toHigh := some (← natural Positional.word64 v) }, true⟩,
    ⟨"logging_level", (·.logLevel.isSome),
      fun l v => do return { l with logLevel := some (← text v) }, true⟩,
    ⟨"dashboard", (·.dashboard.isSome),
      fun l v => do return { l with dashboard := some (← bool v) }, true⟩,
    ⟨"dashboard_interval_secs", (·.dashboardInterval.isSome),
      fun l v => do
        return { l with dashboardInterval := some (← natural Positional.word64 v) },
      true⟩,
    ⟨"low_alert_provider", (·.low.isSome),
      fun l v => do return { l with low := some (← nullable Binding.decode v) }, false⟩,
    ⟨"high_alert_provider", (·.high.isSome),
      fun l v => do return { l with high := some (← nullable Binding.decode v) }, false⟩]

def decode : Json.Decode Layer :=
  Json.Decode.record fields empty

end Layer

/-- Reads a configuration file. -/
def Config.decode : Json.Decode Config := fun v => do
  return (← Layer.decode v).config

end Vigil

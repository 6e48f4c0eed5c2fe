import Vigil.Alert
import Vigil.Rung
import Vigil.ServiceState
import Vigil.Evaluation

/-!
# Events

What the monitor tells the world while it works: alerts, and notices for its log.
-/

namespace Vigil

inductive NoticeLevel where
  | info
  | warn
  | error
  deriving DecidableEq, Repr

def NoticeLevel.name : NoticeLevel → String
  | info => "info"
  | warn => "warn"
  | error => "error"

/-- The two slots for providers of alerts. -/
inductive Slot where
  | low
  | high
  deriving DecidableEq, Repr

def Slot.name : Slot → String
  | low => "low"
  | high => "high"

inductive Notice where
  | registering (machine : String)
  | deleted (machine : String)
  | unknownDelete (machine : String)
  | shuttingDown (probes : Nat)
  /-- A report came from a machine above the lowest rung. -/
  | recovered (machine : String)
  | silent (machine : String) (rung : Rung) (seconds : Nat)
  | stillAlerted (machine : String)
  | unknownState (service : String) (text : String)
  | failing (name : String) (count : Nat)
  | stillFailing (name : String) (count : Nat)
  | mailboxClosed
  /-- A report came for a probe that is lost. -/
  | undeliverable (machine : String)
  /-- A probe that is lost was told to stop. -/
  | unclean (machine : String)
  | unbound (alert : Alert)
  | sending (severity : Severity) (provider : String)
  | undelivered (severity : Severity) (provider : String) (cause : String)
  | webhookSent
  | pagerDutySent
  | discordSent
  | discordRefused (body : String)
  | alertsDisabled
  | slotUnbound (slot : Slot)
  | clientConnected
  | clientDisconnected
  | clientLagging (skipped : Nat)
  deriving DecidableEq, Repr

namespace Notice

def level : Notice → NoticeLevel
  | registering _ | deleted _ | shuttingDown _ | recovered _ | sending _ _ | webhookSent
  | pagerDutySent | discordSent | clientConnected | clientDisconnected => .info
  | undelivered _ _ _ | discordRefused _ | unclean _ => .error
  | _ => .warn

def silenceMessage (span machine : String) (rung : Rung) : String :=
  "no report received for " ++ span ++ ", machine " ++ machine ++ " is now in " ++ rung.name ++
    " state"

def message : Notice → String
  | registering m => "registering new probe " ++ m
  | deleted m => "probe " ++ m ++ " deleted"
  | unknownDelete m => "delete requested for unknown probe " ++ m ++ ", ignoring"
  | shuttingDown n => "shutting down " ++ toString n ++ " probe(s)"
  | recovered m => "machine " ++ m ++ " is back in normal state"
  | silent m rung seconds => silenceMessage (toString seconds ++ "s") m rung
  | stillAlerted m => "machine " ++ m ++ " is still in " ++ Rung.alertedHigh.name ++ " state"
  | unknownState _ text => ServiceState.unknownMessage text ++ ", treating as fail"
  | failing name n => "service " ++ name ++ " failed " ++ toString n ++ " consecutive reports"
  | stillFailing name n =>
    "service " ++ name ++ " is still failing after " ++ toString n ++ " consecutive reports"
  | mailboxClosed => "mailbox closed, shutting down"
  | undeliverable m =>
    "failed to deliver report to " ++ m ++ ": probe mailbox closed: channel closed"
  | unclean m =>
    "probe worker for " ++ m ++ " did not stop cleanly: overflow when adding duration to instant"
  | unbound a =>
    "no provider configured for " ++ a.severity.name ++ " alerts, dropping alert for " ++ a.name
  | sending severity provider => "sending " ++ severity.name ++ " alert to provider " ++ provider
  | undelivered severity provider cause =>
    "failed to send " ++ severity.name ++ " alert through " ++ provider ++ ": " ++ cause
  | webhookSent => "successfully sent webhook alert"
  | pagerDutySent => "event sent to PagerDuty successfully"
  | discordSent => "successfully sent Discord message"
  | discordRefused body => "Discord API error response: " ++ body
  | alertsDisabled => "alerting is disabled by the --no-alert flag"
  | slotUnbound slot => slot.name ++ " alert provider is not configured"
  | clientConnected => "dashboard client connected"
  | clientDisconnected => "dashboard client disconnected"
  | clientLagging n => "dashboard client lagging, skipped " ++ toString n ++ " snapshot(s)"

def service? : Notice → Option String
  | unknownState service _ => some service
  | _ => none

end Notice

/-- An alert that is raised or a notice for the log. -/
inductive Event where
  | alert (a : Alert)
  | notice (n : Notice)
  deriving DecidableEq, Repr

def Event.alert? : Event → Option Alert
  | alert a => some a
  | notice _ => none

/-- A value with the instant it belongs to, in milliseconds. -/
structure Stamped (α : Type) where
  instant : Nat
  value : α
  deriving DecidableEq, Repr

end Vigil

import Vigil.Json.Fault

/-!
# Faults of configurations

Why a configuration cannot be had or used.
-/

namespace Vigil

/-- Why a file cannot be read. -/
inductive FileFault where
  | absent
  | isDirectory
  /-- The path leads through a file. -/
  | notDirectory
  /-- The file is not UTF-8. -/
  | notText
  /-- The path or one of its components is too long. -/
  | tooLong
  /-- The path holds a NUL. -/
  | nul
  /-- Any other cause, in the words of the system. -/
  | refused (cause : String)
  deriving DecidableEq, Repr

def FileFault.message : FileFault → String
  | absent => "No such file or directory (os error 2)"
  | isDirectory => "Is a directory (os error 21)"
  | notDirectory => "Not a directory (os error 20)"
  | notText => "stream did not contain valid UTF-8"
  | tooLong => "File name too long (os error 36)"
  | nul => "file name contained an unexpected NUL byte"
  | refused cause => cause

/-- Why a configuration cannot be had or used. -/
inductive ConfigFault where
  | unreadable (path : String) (cause : FileFault)
  | malformed (fault : Json.Fault)
  | invalidDelay (raw : String)
  | invalidThreshold (name : String)
  | invalidLogLevel (raw : String)
  | invalidVariable (key value : String)
  /-- A variable cannot have the value that a file of assignments gives it. -/
  | unsettable (key : String)
  deriving DecidableEq, Repr

namespace ConfigFault

/-- The text of a fault. Where a file is no JSON for a configuration, what is wrong with it is told
afterwards. -/
def message : ConfigFault → String
  | unreadable path cause => "failed to read configuration file " ++ path ++ ": " ++ cause.message
  | malformed _ => "invalid configuration file"
  | invalidDelay raw =>
    "invalid probe inactivity delay '" ++ raw ++ "' (expected e.g. \"30s\" or \"1m30s\")"
  | invalidThreshold name => "threshold '" ++ name ++ "' must be at least 1"
  | invalidLogLevel raw => "invalid logging level '" ++ raw ++ "'"
  | invalidVariable key value =>
    "invalid value '" ++ value ++ "' for environment variable " ++ key
  | unsettable key =>
    "failed to set environment variable " ++ key ++ ": its value contains a NUL byte"

/-- The texts of a fault and of what caused it, the outermost first. -/
def chain (f : ConfigFault) : List String :=
  match f with
  | unreadable _ cause => [f.message, cause.message]
  | malformed fault => [f.message, fault.label]
  | _ => [f.message]

end ConfigFault

end Vigil

/-!
# Arguments

The arguments of the server's command line. Each option may be given once. An option with a value
takes it from the same argument, after an equals sign or, for a short option, without one, or else
from the next argument, which then must not look like an option.
-/

namespace Vigil

/-- What the command line asks for. -/
structure Arguments where
  file : Option String
  noAlert : Bool
  logLevel : Option String
  deriving DecidableEq, Repr, Inhabited

/-- Why a command line does not start the server. -/
inductive Usage where
  | help
  | wrong
  deriving DecidableEq, Repr

namespace Arguments

inductive Key where
  | file
  | noAlert
  | logLevel
  | help
  deriving DecidableEq, Repr

def Key.ofLong? : String → Option Key
  | "file" => some file
  | "no-alert" => some noAlert
  | "log-level" => some logLevel
  | "help" => some help
  | _ => none

def Key.ofShort? : Char → Option Key
  | 'f' => some file
  | 'h' => some help
  | _ => none

def Key.valued : Key → Bool
  | file | logLevel => true
  | noAlert | help => false

inductive Word where
  /-- An option, with the value that stands in the same argument, if any. -/
  | option (k : Key) (value : Option String)
  /-- The end of all options. -/
  | stop
  | other
  deriving DecidableEq, Repr

/-- The value that follows the name of an option in the same argument. -/
def attached : List Char → Option String
  | [] => none
  | '=' :: cs => some (String.ofList cs)
  | cs => some (String.ofList cs)

def word (arg : String) : Word :=
  match arg.toList with
  | ['-', '-'] => .stop
  | '-' :: '-' :: cs =>
    let name := cs.takeWhile (· ≠ '=')
    match Key.ofLong? (String.ofList name) with
    | some k => .option k (attached (cs.drop name.length))
    | none => .other
  | '-' :: c :: cs =>
    match Key.ofShort? c with
    | some k => .option k (if k.valued then attached cs else none)
    | none => .other
  | _ => .other

def isValue (arg : String) : Bool :=
  !arg.startsWith "-" || arg == "-"

/-- The arguments with one more option, unless it has been given already or only asks for help. -/
def set (a : Arguments) (k : Key) (value : String) : Except Usage Arguments :=
  match k with
  | .file => if a.file.isSome then .error .wrong else .ok { a with file := some value }
  | .logLevel => if a.logLevel.isSome then .error .wrong else .ok { a with logLevel := some value }
  | .noAlert => if a.noAlert then .error .wrong else .ok { a with noAlert := true }
  | .help => .error .help

def read (a : Arguments) : List String → Except Usage Arguments
  | [] => .ok a
  | arg :: rest =>
    match word arg with
    | .other => .error .wrong
    | .stop => if rest.isEmpty then .ok a else .error .wrong
    | .option k (some value) => do
      if k.valued then read (← a.set k value) rest else .error .wrong
    | .option k none =>
      if k.valued then
        match rest with
        | [] => .error .wrong
        | value :: rest => do
          if isValue value then read (← a.set k value) rest else .error .wrong
      else do read (← a.set k "") rest

/-- Reads a command line. -/
def parse (args : List String) : Except Usage Arguments :=
  read ⟨none, false, none⟩ args

end Arguments

namespace Usage

/-- The exit code of a command line that does not start the server. -/
def exitCode : Usage → Nat
  | help => 0
  | wrong => 2

/-- How the program is called. -/
def synopsis : String :=
  "Usage: sentinel-server [OPTIONS]"

/-- The lines that are written instead of starting the server. -/
def lines : Usage → List String
  | help =>
    ["Fleet health-monitoring server", "", synopsis, "", "Options:",
      "  -f, --file <FILE>            Config file (defaults to ./server-config.json when present)",
      "      --no-alert               Disable every alert provider",
      "      --log-level <LOG_LEVEL>  Override the configured logging level",
      "  -h, --help                   Print help"]
  | wrong =>
    ["error: unexpected arguments", "", synopsis, "", "For more information, try '--help'."]

end Usage

end Vigil

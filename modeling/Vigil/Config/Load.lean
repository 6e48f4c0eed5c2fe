import Vigil.Config.Directory
import Vigil.Config.EnvFile

/-!
# Loading

The configuration comes from a file, or from the default where there is none, and from the
environment, to which a file of assignments may add.
-/

namespace Vigil

/-- The configuration file that is read if none is named and this one is there. -/
def configFile : String := "server-config.json"

def envFile : String := ".server.env"

namespace Config

def ofFile (d : Directory) (path : String) : Except ConfigFault Config :=
  match d.readText path with
  | .error f => .error (.unreadable path f)
  | .ok text =>
    match Json.decode decode (Text.Code.ofString text) with
    | .error f => .error (.malformed f)
    | .ok c => .ok c

/-- The configuration before variables are applied. -/
def base (d : Directory) : Option String → Except ConfigFault Config
  | some path => ofFile d path
  | none => if d.holds configFile then ofFile d configFile else .ok .default

/-- The environment with the variables that the file of assignments gives. -/
def environment (d : Directory) (env : Environment) : Except ConfigFault Environment :=
  match d.read envFile with
  | .ok bytes => EnvFile.extend bytes env
  | .error _ => .ok env

/-- The configuration that a directory and an environment give, with the file at `path` or, if none
is named, the one found there. -/
def load (d : Directory) (path : Option String) (env : Environment) :
    Except ConfigFault Config := do
  let c ← base d path
  match c.override (← environment d env) with
  | (c, none) => return c
  | (_, some f) => throw f

end Config

end Vigil

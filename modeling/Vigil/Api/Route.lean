import Vigil.Http.Message

/-!
# Routes

The paths that are served, and the methods that each of them takes. The name of a machine in a path
is percent-encoded.
-/

namespace Vigil

/-- The paths that are served. The names of machines are as they stand in the path. -/
inductive Route where
  | health
  | probes
  | probe (machine : String)
  | report (machine : String)
  | dashboard
  deriving DecidableEq, Repr

namespace Route

def pieces (path : String) : List String :=
  (path.toList.splitOn '/').map String.ofList

/-- The route of a path. A name may be empty only where something follows it, and the dashboard may
not be served. -/
def ofPath? (dashboard : Bool) (path : String) : Option Route :=
  match pieces path with
  | ["", "health"] => some .health
  | ["", "probes"] => some .probes
  | ["", "dashws"] => if dashboard then some .dashboard else none
  | ["", "probe", machine] => if machine.isEmpty then none else some (.probe machine)
  | ["", "probe", machine, "report"] => some (.report machine)
  | _ => none

def methods : Route → List String
  | health | probes | dashboard => ["GET", "HEAD"]
  | probe _ => ["DELETE"]
  | report _ => ["POST"]

def allow (r : Route) : String :=
  ",".intercalate r.methods

def takes (r : Route) (method : String) : Bool :=
  r.methods.contains method

/-- Whether a route is open only to those who hold the token. -/
def guarded : Route → Bool
  | health => false
  | _ => true

end Route

end Vigil

import Vigil.Config.Fault
import Vigil.Text.Code

/-!
# Directories

The files that the program finds where it is started. A directory tells what stands at a path, as
the path is written. `Directory.ofList` makes one out of a list of what is in it, at a place among
other contents of the system. A path is resolved component by component: a dot or nothing stays, two
dots go up, at the root as far as the root, and whatever a path leads through has to be a directory.
-/

namespace Vigil

/-- What stands at a path. -/
inductive DirectoryEntry where
  | file (bytes : List UInt8)
  | directory
  /-- A file that cannot be read, for the given cause. -/
  | sealed (cause : String)

/-- What stands at each path, or why nothing is found there. -/
structure Directory where
  locate : String → Except FileFault DirectoryEntry

/-- What there is, each at the components of its path from the root. -/
abbrev Contents := List (List String × DirectoryEntry)

namespace Contents

def components (name : String) : List String :=
  (name.splitOn "/").filter fun c => c ≠ "" ∧ c ≠ "."

/-- What stands at a resolved path. A directory stands wherever an entry lies below. -/
def find? (d : Contents) (path : List String) : Option DirectoryEntry :=
  if path.isEmpty || d.any (fun e => path.isPrefixOf e.1 && path ≠ e.1) then some .directory
  else d.lookup path

/-- The most bytes that a component of a path may have. -/
def componentLimit : Nat := 255

def pathLimit : Nat := 4095

/-- The resolved path to which components lead on from the place `here`. -/
def walk (d : Contents) (here : List String) : List String → Except FileFault (List String)
  | [] => .ok here
  | c :: cs =>
    match d.find? here with
    | none => .error .absent
    | some (.file _) | some (.sealed _) => .error .notDirectory
    | some .directory =>
      if c = "" ∨ c = "." then walk d here cs
      else if c = ".." then walk d here.dropLast cs
      else if componentLimit < c.utf8ByteSize then .error .tooLong
      else walk d (here ++ [c]) cs

/-- What stands at a path from the place `here`, or why nothing is found there. -/
def locate (d : Contents) (here : List String) (path : String) :
    Except FileFault DirectoryEntry := do
  if path.contains '\x00' then .error .nul
  else if pathLimit < path.utf8ByteSize then .error .tooLong
  else if path.isEmpty then .error .absent
  else
    let here := if path.startsWith "/" then [] else here
    match d.find? (← d.walk here (path.splitOn "/")) with
    | some e => .ok e
    | none => .error .absent

end Contents

namespace Directory

/-- The directory with the given entries at the place `here`, which lies among other contents. -/
def ofList (entries : List (String × DirectoryEntry)) (here : List String)
    (around : Contents) : Directory :=
  ⟨Contents.locate ((entries.map fun e => (here ++ Contents.components e.1, e.2)) ++ around) here⟩

/-- Whether anything is found at a path, be it readable or not. -/
def holds (d : Directory) (path : String) : Bool :=
  (d.locate path).isOk

def read (d : Directory) (path : String) : Except FileFault (List UInt8) :=
  match d.locate path with
  | .ok (.file bytes) => .ok bytes
  | .ok .directory => .error .isDirectory
  | .ok (.sealed cause) => .error (.refused cause)
  | .error f => .error f

def readText (d : Directory) (path : String) : Except FileFault String := do
  match Text.text? (← d.read path) with
  | some s => .ok s
  | none => .error .notText

end Directory

end Vigil

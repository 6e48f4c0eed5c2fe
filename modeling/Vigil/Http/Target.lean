/-!
# Targets

What a request asks for: a path with a query, an address from the scheme on, an authority alone, or
a star. `Target.path` gives the path of any text; `Target.isWellFormed` tells whether a text may
stand in a request at all.
-/

namespace Vigil.Http.Target

/-- What stands before a query and a fragment. -/
def withoutQuery (cs : List Char) : List Char :=
  cs.takeWhile fun c => c ≠ '?' && c ≠ '#'

/-- What follows the scheme of an absolute target, which ends with a colon and two slashes. -/
def afterScheme? : List Char → Option (List Char)
  | ':' :: '/' :: '/' :: cs => some cs
  | c :: cs => if c.isAlphanum || c ∈ ['+', '-', '.'] then afterScheme? cs else none
  | [] => none

def path (target : String) : String :=
  match target.toList with
  | '/' :: cs => String.ofList ('/' :: withoutQuery cs)
  | cs =>
    match afterScheme? cs with
    | none => String.ofList (withoutQuery cs)
    | some rest =>
      match (withoutQuery rest).dropWhile (· ≠ '/') with
      | [] => "/"
      | path => String.ofList path

/-! ## Well-formed targets -/

/-- Whether a character may stand in a target at all: a visible one of ASCII or one beyond. -/
def isVisible (c : Char) : Bool :=
  ('\x20' < c && c < '\x7f') || '\x80' ≤ c

def inPath (c : Char) : Bool :=
  isVisible c && c ∉ ['<', '>', '\x60']

def inQuery (c : Char) : Bool :=
  isVisible c && c ∉ ['"', '<', '>']

/-- Whether a path, a query and a fragment may follow each other. -/
def isPathAndQuery (cs : List Char) : Bool :=
  (withoutQuery cs).all inPath &&
    match cs.dropWhile fun c => c ≠ '?' && c ≠ '#' with
    | '?' :: query =>
      (query.takeWhile (· ≠ '#')).all inQuery && (query.dropWhile (· ≠ '#')).all isVisible
    | fragment => fragment.all isVisible

def inAuthority (c : Char) : Bool :=
  c.isAlphanum || c ∈ ['!', '$', '%', '&', '\'', '(', ')', '*', '+', ',', '-', '.', ':', ';', '=',
    '@', '[', ']', '_', '~']

/-- Whether a host with or without a port is well-formed: colons are for the port or stand in
brackets. -/
def isHost (cs : List Char) : Bool :=
  let isPlain (cs : List Char) := cs.all (· ∉ ['[', ']', '%']) && cs.count ':' ≤ 1
  match cs with
  | [] => false
  | '[' :: rest =>
    let inner := rest.takeWhile (· ≠ ']')
    '[' ∉ inner && inner.count ':' ≤ 8 &&
      match rest.dropWhile (· ≠ ']') with
      | [] => false
      | _ :: after => isPlain after
  | cs => isPlain cs

/-- Whether an authority is well-formed: users, each before an at sign, and a host. -/
def isAuthority (cs : List Char) : Bool :=
  cs.all inAuthority && isHost (cs.reverse.takeWhile (· ≠ '@')).reverse

def endsAuthority (c : Char) : Bool :=
  c ∈ ['/', '?', '#']

/-- Whether a text may stand in a request. -/
def isWellFormed (target : String) : Bool :=
  match target.toList with
  | '/' :: cs => isPathAndQuery ('/' :: cs)
  | ['*'] => true
  | cs =>
    match afterScheme? cs with
    | some rest =>
      isAuthority (rest.takeWhile (!endsAuthority ·)) &&
        isPathAndQuery (rest.dropWhile (!endsAuthority ·))
    | none => isAuthority cs

end Vigil.Http.Target

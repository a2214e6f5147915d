import AppScaffold.Text.Split

/-!
# Paths

Paths are texts whose components stand between slashes. Joining follows the rule of the file
system: an absolute part replaces what it is joined onto. `components` is the meaning of a path;
empty parts and inner dots have none.
-/

set_option autoImplicit false

namespace AppScaffold.Host

inductive PathComponent where
  | root
  | current
  | parent
  | normal (name : String)
deriving DecidableEq, Repr, Inhabited

namespace Path

def isAbsolute (path : String) : Bool := path.toList.head? == some '/'

def join (base part : String) : String :=
  if isAbsolute part then part
  else if base.isEmpty || base.toList.getLast? == some '/' then base ++ part
  else base ++ "/" ++ part

def joinAll (base : String) (parts : List String) : String := parts.foldl join base

/-- The texts between slashes; a leading slash leaves an empty first one. -/
def pieces (path : String) : List String := Text.splitOn '/' path

def component? : String → Option PathComponent
  | "" => none
  | "." => none
  | ".." => some .parent
  | name => some (.normal name)

def components (path : String) : List PathComponent :=
  match pieces path with
  | [] => []
  | "" :: rest => (if path.isEmpty then [] else [.root]) ++ rest.filterMap component?
  | "." :: rest => .current :: rest.filterMap component?
  | all => all.filterMap component?

def isInner (path : String) : Bool :=
  let cs := components path
  !cs.isEmpty && cs.all fun
    | .normal _ => true
    | _ => false

/-- Drops the pieces at the end that mean nothing; a dot that starts a relative path stays. -/
def dropIdle (pieces : List String) : List String :=
  let kept := (pieces.reverse.dropWhile fun p => p == "" || p == ".").reverse
  if kept.isEmpty && pieces.head? == some "." then ["."] else kept

/-- The root mark of a path and the pieces after it, without idle ones at the end. -/
def body (path : String) : String × List String :=
  if isAbsolute path then
    let rest := (pieces path).drop 1
    ("/", (rest.reverse.dropWhile fun p => p == "" || p == ".").reverse)
  else ("", dropIdle (pieces path))

/-- The path without its last component; none when there is nothing to drop. -/
def parent? (path : String) : Option String :=
  match body path with
  | (_, []) => none
  | (root, parts) =>
    let kept := parts.dropLast
    let kept :=
      if root.isEmpty then dropIdle kept
      else (kept.reverse.dropWhile fun p => p == "" || p == ".").reverse
    some (root ++ Text.joinWith "/" kept)

def fileName? (path : String) : Option String :=
  match (components path).getLast? with
  | some (.normal name) => some name
  | _ => none

/-- What follows the last dot of a file name, unless that dot starts the name. -/
def extension? (path : String) : Option String := do
  let name ← fileName? path
  let cs := name.toList
  let ending := (cs.reverse.takeWhile (· != '.')).reverse
  if ending.length + 1 < cs.length then some (String.ofList ending) else none

def ofComponents : List PathComponent → String
  | .root :: rest => "/" ++ Text.joinWith "/" (rest.map name)
  | cs => Text.joinWith "/" (cs.map name)
where
  name : PathComponent → String
    | .root => ""
    | .current => "."
    | .parent => ".."
    | .normal n => n

end Path

end AppScaffold.Host

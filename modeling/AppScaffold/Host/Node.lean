import AppScaffold.Keyed.Basic

/-!
# File trees

A tree of files, symbolic links and directories, and the changes to it. A `Location` is the list
of names from the root of a tree down; nothing here follows a link. Directories list their children
in any order.
-/

set_option autoImplicit false

namespace AppScaffold.Host

inductive Node where
  | file (contents : ByteArray) (executable : Bool)
  | link (target : String)
  | dir (children : List (String × Node))
deriving Inhabited

abbrev Location := List String

/-- What stands at a location, without what is below it. -/
inductive Item where
  | file (contents : ByteArray) (executable : Bool)
  | link (target : String)
  | dir

def Item.isDir : Item → Bool
  | .dir => true
  | _ => false

namespace Node

def item : Node → Item
  | .file contents executable => .file contents executable
  | .link target => .link target
  | .dir _ => .dir

def isDir : Node → Bool
  | .dir _ => true
  | _ => false

def isFile : Node → Bool
  | .file _ _ => true
  | _ => false

def emptyDir : Node := .dir []

def at? : Location → Node → Option Node
  | [], n => some n
  | name :: rest, .dir children =>
    match children.lookup name with
    | some child => child.at? rest
    | none => none
  | _ :: _, _ => none

/-- The tree with another node at a location whose directory exists. -/
def put (new : Node) : Location → Node → Option Node
  | [], _ => some new
  | [name], .dir children => some (.dir (Keyed.set name new children))
  | name :: rest, .dir children =>
    match children.lookup name with
    | some child => (put new rest child).map fun c => .dir (Keyed.set name c children)
    | none => none
  | _ :: _, _ => none

def remove : Location → Node → Option Node
  | [name], .dir children => some (.dir (children.filter (·.1 != name)))
  | name :: rest, .dir children =>
    match children.lookup name with
    | some child => (remove rest child).map fun c => .dir (Keyed.set name c children)
    | none => none
  | _, _ => none

def sortByName {α : Type} (entries : List (String × α)) : List (String × α) :=
  entries.mergeSort fun a b => decide (a.1 ≤ b.1)

mutual

/-- The regular files below a node by relative location, depth first and siblings by name. What
`keep` turns down, by its location and what it is, is left out with all below it. -/
def walk (keep : Location → Item → Bool) : Node → List (Location × ByteArray)
  | .file contents _ => [([], contents)]
  | .link _ => []
  | .dir children =>
    (sortByName (walkChildren keep children)).flatMap fun c =>
      c.2.map fun f => (c.1 :: f.1, f.2)

def walkChildren (keep : Location → Item → Bool) :
    List (String × Node) → List (String × List (Location × ByteArray))
  | [] => []
  | (name, child) :: rest =>
    if keep [name] child.item then
      (name, child.walk fun l => keep (name :: l)) :: walkChildren keep rest
    else walkChildren keep rest

end

def files (n : Node) : List (Location × ByteArray) := n.walk fun _ _ => true

end Node

end AppScaffold.Host

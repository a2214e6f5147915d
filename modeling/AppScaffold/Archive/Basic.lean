/-!
# Archives

Files by name, in the order in which they were added. A name is added once only.
-/

set_option autoImplicit false

namespace AppScaffold

structure Archive.Entry where
  name : String
  contents : ByteArray
  mode : Nat := 0o644
deriving Inhabited

abbrev Archive := List Archive.Entry

namespace Archive

def names (a : Archive) : List String := a.map (·.name)

def add? (a : Archive) (e : Entry) : Option Archive :=
  if a.names.contains e.name then none else some (a ++ [e])

/-- Adds entries until a name is taken; that name is the second part. -/
def addAll (a : Archive) : List Entry → Archive × Option String
  | [] => (a, none)
  | e :: rest =>
    match a.add? e with
    | some a => a.addAll rest
    | none => (a, some e.name)

end Archive

end AppScaffold

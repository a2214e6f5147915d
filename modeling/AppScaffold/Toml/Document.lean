import AppScaffold.Json.Decode
import AppScaffold.Toml.Statement

/-!
# Documents from statements

A header opens a table, the pairs after it fill that table, and the table joins the document when
the next header comes. A table is opened once only; what was never opened may still be.
-/

set_option autoImplicit false

namespace AppScaffold.Toml

open Json (Place Node Items Members)

/-- A document whose last table is still open. -/
structure Draft where
  root : Table := {}
  current : Table := {}
  /-- Where the open table belongs; the root for an empty path. -/
  path : List Key := []
  /-- The open table is an element of an array of tables. -/
  isElement : Bool := false
deriving Repr, Inhabited

def firstPlace (elements : List (Origin × Entries)) : Option Place :=
  match elements with
  | [] => none
  | (origin, _) :: _ => origin.place

def Draft.close (d : Draft) : Option Table :=
  match d.path.getLast? with
  | none => some d.current
  | some key =>
    d.root.update false false
      (fun parent =>
        if d.isElement then
          match parent.entries.find? key.name with
          | some (.tables _ elements) =>
            let elements := elements ++ [(d.current.origin, d.current.entries)]
            some { parent with
              entries := parent.entries.put key (.tables (firstPlace elements) elements) }
          | _ => none
        else
          some { parent with
            entries := parent.entries.put key (.table d.current.origin d.current.entries) })
      d.path.dropLast

/-- The open table of a header: a new one, or one that was spoken of but never opened. -/
def openTable (place : Place) (root : Table) (path : List Key) : Option Draft := do
  let key ← path.getLast?
  let opened (entries : Entries) : Table := ⟨{ place := some place }, entries⟩
  let known ← look root path.dropLast key
  match known with
  | none =>
    let root ← root.update false false some path.dropLast
    some ⟨root, opened [], path, false⟩
  | some (.table origin entries) =>
    if origin.implicit && !origin.dotted && !origin.inline then
      let root ← root.update false false
        (fun parent => some { parent with entries := parent.entries.erase key.name }) path.dropLast
      some ⟨root, opened entries, path, false⟩
    else none
  | some _ => none
where
  /-- The value under a key of the table at a path, if that table can be had. -/
  look (root : Table) (path : List Key) (key : Key) : Option (Option Value) :=
    match path with
    | [] => some (root.entries.find? key.name)
    | k :: path =>
      match root.entries.find? k.name with
      | none => some none
      | some (.table origin entries) => look ⟨origin, entries⟩ path key
      | some (.tables _ elements) =>
        match elements.getLast? with
        | some (origin, entries) => look ⟨origin, entries⟩ path key
        | none => none
      | some _ => none

def openElement (place : Place) (root : Table) (path : List Key) : Option Draft := do
  let key ← path.getLast?
  let root ← root.update false false
    (fun parent =>
      match parent.entries.find? key.name with
      | none => some { parent with entries := parent.entries.put key (.tables none []) }
      | some (.tables _ _) => some parent
      | some _ => none)
    path.dropLast
  some ⟨root, ⟨{ place := some place }, []⟩, path, true⟩

def Draft.add (d : Draft) : Statement → Option Draft
  | .pair path value => do some { d with current := ← d.current.define false path value }
  | .header path place => do openTable place (← d.close) path
  | .arrayHeader path place => do openElement place (← d.close) path

def byteOrderMark : Char := '\uFEFF'

def ofText? (s : String) : Option Table := do
  let cs := placed 1 1 s.toList
  let cs := match cs with
    | c :: rest => if c.char == byteOrderMark then rest else cs
    | [] => []
  let statements ← readStatements (cs.length + 1) cs
  let draft ← statements.foldlM Draft.add {}
  draft.close

/-! ## As nodes -/

/-- The name that the text of a date and time goes by when a table is asked for. -/
def dateTimeMember : String := "$date-time"

mutual

def Value.toNode : Value → Node
  | .text p s => .text (.ok s) (some p)
  | .integer p n =>
    .number (.ok (if 0 ≤ n then .natural n.toNat else .negative (-n).toNat)) (some p) (some p)
  | .float p d => .foreign (.decimal d) (some p)
  | .bool p b => .bool b (some p)
  | .dateTime p =>
    .object none (some p)
      (.member (.ok dateTimeMember) ⟨some p, some p⟩ (.text (.ok "") (some p)) (some p)
        (.closed (some p)))
  | .array p items => .array none (some p) (itemNodes (some p) items)
  | .table origin entries => .object none origin.place (memberNodes origin.place entries)
  | .tables p elements => .array none p (elementNodes p elements)

/-- Items beyond those asked for are passed over. -/
def itemNodes (stop : Option Place) : List Value → Items
  | [] => .closed stop
  | v :: rest => .item none v.toNode v.place? (itemNodes stop rest)

/-- A value without a place of its own has that of its key. -/
def memberNodes (stop : Option Place) : List (Key × Value) → Members
  | [] => .closed stop
  | (k, v) :: rest =>
    .member (.ok k.name) ⟨some k.place, some k.place⟩ v.toNode (v.place? <|> some k.place)
      (memberNodes stop rest)

def elementNodes (stop : Option Place) : List (Origin × List (Key × Value)) → Items
  | [] => .closed stop
  | (origin, entries) :: rest =>
    .item none (.object none origin.place (memberNodes origin.place entries)) origin.place
      (elementNodes stop rest)

end

def Table.toNode (t : Table) : Node :=
  .object none t.origin.place (memberNodes t.origin.place t.entries)

end AppScaffold.Toml

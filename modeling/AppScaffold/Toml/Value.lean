import AppScaffold.Json.Fault

/-!
# Configuration documents

A document is a table: values by key, in the order in which they were first spoken of. Tables
remember how they came about, because that decides what may be added to them.
-/

set_option autoImplicit false

namespace AppScaffold.Toml

open Json (Place)
open Number (Double)

structure Key where
  name : String
  place : Place
deriving DecidableEq, Repr, Inhabited

/-- How a table came about. -/
structure Origin where
  place : Option Place := none
  dotted : Bool := false
  /-- It was never spoken of on its own. -/
  implicit : Bool := false
  inline : Bool := false
deriving DecidableEq, Repr, Inhabited

inductive Value where
  | text (place : Place) (s : String)
  | integer (place : Place) (n : Int)
  | float (place : Place) (d : Double)
  | bool (place : Place) (b : Bool)
  | dateTime (place : Place)
  | array (place : Place) (items : List Value)
  | table (origin : Origin) (entries : List (Key × Value))
  /-- Tables under one header, the last one still open. -/
  | tables (place : Option Place) (elements : List (Origin × List (Key × Value)))
deriving Repr, Inhabited

abbrev Entries := List (Key × Value)

structure Table where
  origin : Origin := {}
  entries : Entries := []
deriving Repr, Inhabited

namespace Value

def place? : Value → Option Place
  | .text p _ => some p
  | .integer p _ => some p
  | .float p _ => some p
  | .bool p _ => some p
  | .dateTime p => some p
  | .array p _ => some p
  | .table origin _ => origin.place
  | .tables p _ => p

end Value

namespace Entries

def find? (entries : Entries) (name : String) : Option Value :=
  (List.find? (fun e => e.1.name == name) entries).map (·.2)

/-- Adds a value, or puts it in the place of the one with its name. -/
def put (entries : Entries) (key : Key) (value : Value) : Entries :=
  match entries with
  | [] => [(key, value)]
  | (k, v) :: rest =>
    if k.name == key.name then (k, value) :: rest else (k, v) :: put rest key value

def erase (entries : Entries) (name : String) : Entries := entries.filter fun e => e.1.name != name

end Entries

namespace Table

/-- Changes the table at a path. Tables that are missing are made; a `dotted` path may pass only
through tables that such paths made. -/
def update (inline dotted : Bool) (change : Table → Option Table) :
    List Key → Table → Option Table
  | [], t => change t
  | key :: path, t =>
    match t.entries.find? key.name with
    | none => do
      let made : Table :=
        { origin := { dotted := dotted, implicit := !inline || dotted, inline := inline } }
      let child ← update inline dotted change path made
      some { t with entries := t.entries.put key (.table child.origin child.entries) }
    | some (.table origin entries) =>
      if origin.inline != inline || (dotted && !origin.implicit) then none
      else do
        let child ← update inline dotted change path ⟨origin, entries⟩
        some { t with entries := t.entries.put key (.table child.origin child.entries) }
    | some (.tables place elements) =>
      match elements.getLast? with
      | none => none
      | some (origin, entries) => do
        let child ← update inline dotted change path ⟨origin, entries⟩
        some { t with
          entries := t.entries.put key
            (.tables place (elements.dropLast ++ [(child.origin, child.entries)])) }
    | some _ => none

/-- Adds a value under a path of keys; no key is given twice. -/
def define (inline : Bool) (path : List Key) (value : Value) (t : Table) : Option Table :=
  match path.getLast? with
  | none => none
  | some key =>
    let above := path.dropLast
    update inline (!above.isEmpty)
      (fun t =>
        if t.origin.dotted == above.isEmpty || (t.entries.find? key.name).isSome then none
        else some { t with entries := t.entries.put key value })
      above t

end Table

end AppScaffold.Toml

import AppScaffold.Json.Fault

/-!
# Documents as far as they can be read

A `Node` is what a JSON text says up to its first fault of form, with the places that messages
speak of. A fault stands in the tree where it occurs, so whoever walks the tree in document order
meets faults of form and faults of shape in the order of the text. A `Json` value is a node
without faults and without places.

Reading a value and skipping one disagree on some faults; where they do, a node holds both.
-/

set_option autoImplicit false

namespace AppScaffold.Json

/-- Where a key ends, and where its object goes on after it. -/
structure KeyPlaces where
  stop : Option Place := none
  resume : Option Place := none

mutual

inductive Node where
  | null (stop : Option Place)
  | bool (b : Bool) (stop : Option Place)
  | number (n : Except Fault Number) (start stop : Option Place)
  | text (s : Except Fault String) (stop : Option Place)
  /-- `limit` is the fault of entering an array that is nested too deeply. -/
  | array (limit : Option Fault) (start : Option Place) (items : Items)
  | object (limit : Option Fault) (start : Option Place) (members : Members)
  /-- A value that is of no use to any reader. -/
  | foreign (found : Found) (place : Option Place)
  | broken (read skip : Fault)

/-- The items of an array from some point on. -/
inductive Items where
  | closed (stop : Option Place)
  /-- `finish` is the fault for a reader that expects the end here, if that is a fault. -/
  | broken (read skip finish : Fault)
  /-- `resume` is the place at which the array goes on after the item. -/
  | item (finish : Option Fault) (value : Node) (resume : Option Place) (rest : Items)

/-- The members of an object from some point on. -/
inductive Members where
  | closed (stop : Option Place)
  /-- `name` is the fault for a reader that expects nothing but a name here. -/
  | broken (read skip name : Fault)
  | member (key : Except Fault String) (keyPlaces : KeyPlaces) (value : Node)
      (resume : Option Place) (rest : Members)

end

namespace Node

def mismatch (expected : String) : Node → Fault
  | .null stop => ⟨.invalidType .null expected, stop, []⟩
  | .bool b stop => ⟨.invalidType (.bool b) expected, stop, []⟩
  | .number (.ok n) _ stop => ⟨.invalidType (.number n) expected, stop, []⟩
  | .number (.error f) _ _ => f
  | .text (.ok s) stop => ⟨.invalidType (.text s) expected, stop, []⟩
  | .text (.error f) _ => f
  | .array _ start _ => ⟨.invalidType .sequence expected, start, []⟩
  | .object _ start _ => ⟨.invalidType .map expected, start, []⟩
  | .foreign found place => ⟨.invalidType found expected, place, []⟩
  | .broken read _ => read

end Node

/-- The fault of a value, seen from the object that holds it under a key. A value that does not
begin, because no colon follows the key, is no part of the object. -/
def Fault.inMember (f : Fault) (key : String) (value : Node) : Fault :=
  match value with
  | .broken ⟨.expectedColon, _, _⟩ _ => f
  | .broken ⟨.eofObject, _, _⟩ _ => f
  | _ => f.under (.key key)

def enter (limit : Option Fault) : Except Fault Unit :=
  match limit with
  | some f => .error f
  | none => .ok ()

mutual

/-- Passes over a value; only faults of form count. -/
def Node.skip : Node → Except Fault Unit
  | .array _ _ items => items.skip
  | .object _ _ members => members.skip
  | .broken _ skip => .error skip
  | _ => .ok ()

def Items.skip : Items → Except Fault Unit
  | .closed _ => .ok ()
  | .broken _ skip _ => .error skip
  | .item _ value _ rest =>
    match value.skip with
    | .error f => .error f
    | .ok () => rest.skip

def Members.skip : Members → Except Fault Unit
  | .closed _ => .ok ()
  | .broken _ skip _ => .error skip
  | .member _ _ value _ rest =>
    match value.skip with
    | .error f => .error f
    | .ok () => rest.skip

end

mutual

def Node.value : Node → Except Fault Json
  | .null _ => .ok .null
  | .bool b _ => .ok (.bool b)
  | .number n _ _ => n.map .number
  | .text s _ => s.map .text
  | .array limit _ items => do
    enter limit
    return .array (← items.values 0)
  | .object limit _ members => do
    enter limit
    return .object (← members.values [])
  | .foreign found place => .error ⟨.invalidType found "any value", place, []⟩
  | .broken read _ => .error read

def Items.values (index : Nat) : Items → Except Fault (List Json)
  | .closed _ => .ok []
  | .broken read _ _ => .error read
  | .item _ value _ rest => do
    let v ← value.value.mapError (·.under (.index index))
    return v :: (← rest.values (index + 1))

/-- Adds the members to those already read; the last one with a key stays. -/
def Members.values (known : List (String × Json)) :
    Members → Except Fault (List (String × Json))
  | .closed _ => .ok known
  | .broken read _ _ => .error (read.under .unknown)
  | .member (.error f) _ _ _ _ => .error (f.under .unknown)
  | .member (.ok key) _ value _ rest => do
    let v ← value.value.mapError (·.inMember key value)
    rest.values (Keyed.insert key v known)

end

/-- The fault of items that nobody asked for, among `count`. -/
def surplus (count : Nat) : Fault := ⟨.invalidLength count "fewer elements in array", none, []⟩

mutual

/-- A value as a node; it has no places. -/
def Node.ofJson : Json → Node
  | .null => .null none
  | .bool b => .bool b none
  | .number n => .number (.ok n) none none
  | .text s => .text (.ok s) none
  | .array items => .array none none (Items.ofJson items.length items)
  | .object members => .object none none (Members.ofJson members)

def Items.ofJson (count : Nat) : List Json → Items
  | [] => .closed none
  | v :: rest => .item (some (surplus count)) (Node.ofJson v) none (Items.ofJson count rest)

def Members.ofJson : List (String × Json) → Members
  | [] => .closed none
  | (k, v) :: rest => .member (.ok k) {} (Node.ofJson v) none (Members.ofJson rest)

end

end AppScaffold.Json

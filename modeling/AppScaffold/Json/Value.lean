import AppScaffold.Keyed.Basic
import AppScaffold.Number.Double

/-!
# JSON values

Numbers keep their kind: natural numbers and negative integers of 64 bits, and doubles. The
members of an object stand in the order of their keys, each key once; `Json.ofMembers` makes any
list of members so.
-/

set_option autoImplicit false

namespace AppScaffold

inductive Json.Number where
  | natural (n : Nat)
  /-- The integer `-n`. -/
  | negative (n : Nat)
  | double (d : AppScaffold.Number.Double)
deriving DecidableEq, Repr, Inhabited

inductive Json where
  | null
  | bool (b : Bool)
  | number (n : Json.Number)
  | text (s : String)
  | array (items : List Json)
  | object (members : List (String × Json))
deriving Repr, Inhabited

namespace Json

open AppScaffold.Number (DecimalStyle)

/-- A finite double has the shortest decimal that reads back. -/
def Number.toText : Json.Number → String
  | .natural n => Nat.repr n
  | .negative n => "-" ++ Nat.repr n
  | .double d => d.write DecimalStyle.json

def nat (n : Nat) : Json := .number (.natural n)

/-- Of the members with one key the last one stays. -/
def ofMembers (members : List (String × Json)) : Json := .object (Keyed.ofList members)

def text? : Option String → Json
  | some s => .text s
  | none => .null

def get? (key : String) : Json → Option Json
  | .object members => members.lookup key
  | _ => none

def texts (ss : List String) : Json := .array (ss.map .text)

end Json

end AppScaffold

import AppScaffold.Json.Reader

/-!
# Reading typed values

Texts, booleans, integers, lists and records out of a node. A record is an object with known
members, or an array of its fields in order; members it does not know are passed over.
-/

set_option autoImplicit false

namespace AppScaffold.Json

abbrev Read (α : Type) := Except Fault α

namespace Node

def readText : Node → Read String
  | .text s _ => s
  | n => .error (n.mismatch "a string")

def readPath : Node → Read String
  | .text s _ => s
  | n => .error (n.mismatch "path string")

def readBool : Node → Read Bool
  | .bool b _ => .ok b
  | n => .error (n.mismatch "a boolean")

/-- An integer between zero and `bound`, which goes by the name `type` in messages. -/
def readNatural (type : String) (bound : Nat) : Node → Read Nat
  | .number (.ok (.natural n)) _ stop =>
    if n ≤ bound then .ok n
    else .error ⟨.invalidValue (.number (.natural n)) type, stop, []⟩
  | .number (.ok (.negative n)) _ stop =>
    .error ⟨.invalidValue (.number (.negative n)) type, stop, []⟩
  | n => .error (n.mismatch type)

def maxWord : Nat := 0xFFFFFFFFFFFFFFFF

def readWord : Node → Read Nat := readNatural "u64" maxWord

/-- `null` is an absent value. -/
def readOption {α : Type} (read : Node → Read α) : Node → Read (Option α)
  | .null _ => .ok none
  | n => some <$> read n

end Node

/-- Reads each item; a fault without a place lies where the array goes on after the item. -/
def Items.readEach {α : Type} (read : Node → Read α) (index : Nat) : Items → Read (List α)
  | .closed _ => .ok []
  | .broken fault _ _ => .error fault
  | .item _ value resume rest => do
    let a ← (read value).mapError fun f => (f.under (.index index)).placedAt resume
    return a :: (← rest.readEach read (index + 1))

def Node.readList {α : Type} (read : Node → Read α) : Node → Read (List α)
  | .array limit _ items => do
    enter limit
    items.readEach read 0
  | n => .error (n.mismatch "a sequence")

/-- Reads the values of a map; the keys come in increasing order, the last value of a key stays. -/
def Members.readMap {α : Type} (read : Node → Read α) (known : List (String × α)) :
    Members → Read (List (String × α))
  | .closed _ => .ok known
  | .broken fault _ _ => .error (fault.under .unknown)
  | .member (.error f) _ _ _ _ => .error (f.under .unknown)
  | .member (.ok key) _ value resume rest => do
    let a ← (read value).mapError fun f => (f.inMember key value).placedAt resume
    rest.readMap read (Keyed.insert key a known)

def Node.readMap {α : Type} (read : Node → Read α) : Node → Read (List (String × α))
  | .object limit _ members => do
    enter limit
    members.readMap read []
  | n => .error (n.mismatch "a map")

/-! ## Records -/

/-- What becomes of a field that is not there. -/
inductive Absent where
  /-- It has a value of its own, also in the array form. -/
  | filled
  /-- It counts as `null`, in the object form only. -/
  | null
  | refused
deriving DecidableEq, Repr

/-- The shape of a record: its name in messages and its fields in order. -/
structure Shape where
  name : String
  fields : List (String × Absent)

namespace Shape

def expected (s : Shape) : String := "struct " ++ s.name

def expectedItems (s : Shape) : String :=
  let n := s.fields.length
  "struct " ++ s.name ++ " with " ++ Nat.repr n ++ if n == 1 then " element" else " elements"

def knows (s : Shape) (key : String) : Bool := s.fields.any (·.1 == key)

def missing? (s : Shape) (seen : List String) : Option String :=
  (s.fields.find? fun f => f.2 == .refused && !seen.contains f.1).map (·.1)

end Shape

section

variable {σ : Type} (read : String → Node → σ → Read σ)

def Members.readFields (shape : Shape) (acc : σ) (seen : List String) : Members → Read σ
  | .closed stop =>
    match shape.missing? seen with
    | some field => .error ⟨.missingField field, stop, []⟩
    | none => .ok acc
  | .broken fault _ _ => .error (fault.under .unknown)
  | .member (.error f) _ _ _ _ => .error (f.under .unknown)
  | .member (.ok key) keyPlaces value resume rest =>
    if shape.knows key then
      if seen.contains key then .error ⟨.duplicateField key, keyPlaces.resume, []⟩
      else
        match read key value acc with
        | .error f => .error ((f.inMember key value).placedAt resume)
        | .ok acc => rest.readFields shape acc (key :: seen)
    else
      match value.skip with
      | .error f => .error (f.inMember key value)
      | .ok () => rest.readFields shape acc seen

/-- Reads the fields of a record from the array form, from the field with this index on. -/
def Items.readFields (shape : Shape) (index : Nat) :
    List (String × Absent) → σ → Items → Read σ
  | [], acc, .closed _ => .ok acc
  | [], _, .broken _ _ finish => .error finish
  | [], acc, .item finish _ _ _ =>
    match finish with
    | some f => .error f
    | none => .ok acc
  | (_, .filled) :: fields, acc, .closed stop =>
    readFields shape (index + 1) fields acc (.closed stop)
  | (_, _) :: _, _, .closed stop => .error ⟨.invalidLength index shape.expectedItems, stop, []⟩
  | _ :: _, _, .broken fault _ _ => .error fault
  | (field, _) :: fields, acc, .item _ value resume rest =>
    match read field value acc with
    | .error f => .error ((f.under (.index index)).placedAt resume)
    | .ok acc => readFields shape (index + 1) fields acc rest

def Node.readRecord (shape : Shape) (empty : σ) : Node → Read σ
  | .object limit _ members => do
    enter limit
    members.readFields read shape empty []
  | .array limit _ items => do
    enter limit
    items.readFields read shape 0 shape.fields empty
  | n => .error (n.mismatch shape.expected)

end

/-! ## Names -/

def readName {α : Type} (known : List (String × α)) (s : String) (stop : Option Place) : Read α :=
  match known.lookup s with
  | some a => .ok a
  | none => .error ⟨.unknownVariant s (known.map (·.1)), stop, []⟩

/-- Where an object that holds one name would have to end. -/
def Members.endOfName {α : Type} (a : α) (resume : Option Place) : Members → Read α
  | .closed _ => .ok a
  | .broken ⟨.eofObject, place, _⟩ _ _ => .error ⟨.eofObject, place, []⟩
  | _ => .error ⟨.expectedValue, resume, []⟩

/-- One of several names: a text, or an object with that name and `null`. -/
def Node.readVariant {α : Type} (known : List (String × α)) : Node → Read α
  | .text (.ok s) stop => readName known s stop
  | .text (.error f) _ => .error f
  | .object limit _ members => do
    enter limit
    match members with
    | .closed stop => .error ⟨.expectedValue, stop, []⟩
    | .broken _ _ name => .error name
    | .member (.error f) _ _ _ _ => .error f
    | .member (.ok key) keyPlaces value resume rest =>
      let a ← readName known key keyPlaces.stop
      match value with
      | .null _ => rest.endOfName a resume
      | v => .error (v.mismatch "unit")
  | .null stop => .error ⟨.expectedValue, stop.map fun p => ⟨p.line, p.column - 3⟩, []⟩
  | .bool b stop =>
    .error ⟨.expectedValue, stop.map fun p => ⟨p.line, p.column - (if b then 3 else 4)⟩, []⟩
  | .array _ start _ => .error ⟨.expectedValue, start.map fun p => ⟨p.line, p.column + 1⟩, []⟩
  | .number _ start _ => .error ⟨.expectedValue, start, []⟩
  | n => .error (n.mismatch "a name")

end AppScaffold.Json

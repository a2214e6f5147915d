import AppScaffold.Text.Split

/-!
# Media types

The type of a body as a header names it, with its parameters.
-/

set_option autoImplicit false

namespace AppScaffold.Web

/-- A type such as `application/geo+json; charset=utf-8`. -/
structure MediaType where
  type : String
  subtype : String
  /-- What follows the last plus sign: the format that the type is written in. -/
  suffix : Option String := none
  /-- Names are in lower case; values are as they were written. -/
  parameters : List (String × String) := []
deriving DecidableEq, Repr, Inhabited

namespace MediaType

def tokenMarks : List Char :=
  ['!', '#', '$', '%', '&', '\'', '*', '+', '-', '.', '^', '_', '`', '|', '~']

def isTokenChar (c : Char) : Bool := c.isAlphanum || tokenMarks.contains c

def isQuotable (c : Char) : Bool := 0x20 ≤ c.toNat && c.toNat != 0x7F

/-- A value between quotes, from behind the first one, and the rest. A quote that comes at once
belongs to the value. -/
def readQuoted? (cs : List Char) : Option (List Char × List Char) :=
  let value := match cs with
    | '"' :: rest => '"' :: rest.takeWhile (· != '"')
    | cs => cs.takeWhile (· != '"')
  match cs.drop value.length with
  | '"' :: rest => if value.all isQuotable then some (value, rest) else none
  | _ => none

/-- Parameters after a semicolon; `fuel` bounds their number and the blanks before them. -/
def readParameters : Nat → List Char → Option (List (String × String))
  | 0, _ => none
  | _ + 1, [] => some []
  | fuel + 1, ' ' :: rest => readParameters fuel rest
  | fuel + 1, cs =>
    let name := cs.takeWhile isTokenChar
    let parameter (value : List Char) : String × String :=
      ((String.ofList name).toLower, .ofList value)
    match name, cs.dropWhile isTokenChar with
    | [], _ => none
    | _, '=' :: '"' :: rest => do
      let (value, rest) ← readQuoted? rest
      match rest.dropWhile (· == ' ') with
      | [] => return [parameter value]
      | ';' :: rest => return parameter value :: (← readParameters fuel rest)
      | _ => none
    | _, '=' :: rest =>
      let value := rest.takeWhile isTokenChar
      match rest.drop value.length with
      | [] => some [parameter value]
      | ';' :: rest =>
        if value.isEmpty then none
        else (readParameters fuel rest).map (parameter value :: ·)
      | _ => none
    | _, _ => none

/-- A subtype and what follows its last plus sign; a plus sign at the start is a part of it. -/
def splitSuffix (cs : List Char) : List Char × Option (List Char) :=
  match cs with
  | [] => ([], none)
  | first :: rest =>
    match Text.cut? '+' rest.reverse with
    | some (suffix, before) => (first :: before.reverse, some suffix.reverse)
    | none => (cs, none)

def ofText? (s : String) : Option MediaType :=
  let cs := s.toList
  let type := cs.takeWhile isTokenChar
  match cs.drop type.length with
  | '/' :: rest => do
    let name := rest.takeWhile isTokenChar
    let (subtype, suffix) := splitSuffix name
    let known : MediaType :=
      { type := (String.ofList type).toLower, subtype := (String.ofList subtype).toLower
        suffix := suffix.map fun cs => (String.ofList cs).toLower }
    match type.isEmpty, rest.drop name.length with
    | true, _ => none
    | _, [] => return known
    | _, ';' :: more =>
      if name.isEmpty then none
      else return { known with parameters := ← readParameters (more.length + 1) more }
    | _, _ => none
  | _ => none

def parameter? (m : MediaType) (name : String) : Option String := m.parameters.lookup name

/-- JSON, or a format that is written in it. -/
def isJson (m : MediaType) : Bool :=
  m.type == "application" && (m.subtype == "json" || m.suffix == some "json")

def formBoundary? (m : MediaType) : Option String :=
  if m.type == "multipart" && m.subtype == "form-data" then m.parameter? "boundary" else none

end MediaType

end AppScaffold.Web

import AppScaffold.Text.Quoted
import AppScaffold.Web.MediaType

/-!
# Forms with files

A form body is a sequence of parts between boundary lines; each part has headers, which name the
field and the file, and contents. Contents are bytes and may hold anything but the boundary.
-/

set_option autoImplicit false

namespace AppScaffold.Web

inductive FormFault where
  | incomplete
  | incompletePart (field : Option String)
  | badHeaders
  | tooLarge
deriving DecidableEq, Repr, Inhabited

namespace FormFault

def message : FormFault → String
  | .incomplete => "incomplete multipart stream"
  | .incompletePart field =>
    "field " ++ Text.quoted (field.getD "<unknown>") ++ " received with incomplete data"
  | .badHeaders => "failed to read headers"
  | .tooLarge => "failed to read stream"

def status : FormFault → Nat
  | .tooLarge => 413
  | _ => 400

end FormFault

structure FormPart where
  name : Option String
  fileName : Option String
  contents : List UInt8
deriving Repr, Inhabited

/-- The parts of a form up to its end or its first fault. -/
structure Form where
  parts : List FormPart := []
  fault : Option FormFault := none
deriving Repr, Inhabited

namespace Form

def bytes (s : String) : List UInt8 := s.toUTF8.toList

def lineEnd : List UInt8 := [13, 10]

def isBlankByte (b : UInt8) : Bool := b == 32 || b == 9

def isSpaceByte (b : UInt8) : Bool := isBlankByte b || b == 10 || b == 12 || b == 13

/-! ## Headers of a part -/

def isNameByte (b : UInt8) : Bool := MediaType.isTokenChar (Char.ofNat b.toNat)

/-- Tabs, visible characters and all bytes beyond ASCII. -/
def isValueByte (b : UInt8) : Bool := b == 9 || (32 ≤ b && b != 127)

/-- What follows the end of a line, which may lack its carriage return. -/
def afterLineEnd? : List UInt8 → Option (List UInt8)
  | 13 :: 10 :: rest => some rest
  | 10 :: rest => some rest
  | _ => none

/-- A header line as a name in lower case and a value, and the lines after it. -/
def header? (cs : List UInt8) : Option ((String × List UInt8) × List UInt8) := do
  let name := cs.takeWhile isNameByte
  if name.isEmpty then none
  let value ← Text.dropLiteral? [58] (cs.drop name.length)
  let value := value.dropWhile isBlankByte
  let rest ← afterLineEnd? (value.dropWhile isValueByte)
  let value := ((value.takeWhile isValueByte).reverse.dropWhile isBlankByte).reverse
  return ((String.ofList (name.map fun b => (Char.ofNat b.toNat).toLower), value), rest)

def maxHeaders : Nat := 32

/-- The headers before the first empty line; `room` is how many there may be. -/
def headersWithin? : Nat → List UInt8 → Option (List (String × List UInt8))
  | room, cs =>
    if (afterLineEnd? cs).isSome then some []
    else
      match room with
      | 0 => none
      | room + 1 => do
        let (header, rest) ← header? cs
        return header :: (← headersWithin? room rest)

/-- The headers of a part; of those with one name the last counts. -/
def headers? (block : List UInt8) : Option (List (String × List UInt8)) :=
  (headersWithin? maxHeaders (block ++ lineEnd ++ lineEnd)).map List.reverse

/-- The end of a quoted value: the first quote with no backslash before it, and whether there were
quotes with one. -/
def quotedValue? : Bool → Bool → List UInt8 → Option (List UInt8 × Bool)
  | _, _, [] => none
  | afterBackslash, escaped, b :: rest =>
    if b == 34 && !afterBackslash then some ([], escaped)
    else (quotedValue? (b == 92) (escaped || b == 34) rest).map fun (v, e) => (b :: v, e)

def unescaped : List UInt8 → List UInt8
  | 92 :: 34 :: rest => 34 :: unescaped rest
  | b :: rest => b :: unescaped rest
  | [] => []

def attributeValue? (cs : List UInt8) : Option String :=
  match cs.dropWhile isSpaceByte with
  | 61 :: rest =>
    match rest.dropWhile isSpaceByte with
    | 34 :: rest => do
      let (value, escaped) ← quotedValue? false false rest
      String.fromUTF8? ⟨(if escaped then unescaped value else value).toArray⟩
    | rest => String.fromUTF8? ⟨(rest.takeWhile fun b => b != 59 && b != 32).toArray⟩
  | _ => none

/-- The first attribute of this name. What comes before the name has to end in a blank or a
semicolon, unless nothing does. -/
def attribute? (name : List UInt8) : Nat → List UInt8 → Option String
  | 0, _ => none
  | fuel + 1, cs =>
    match Text.cutAt? name cs with
    | none => none
    | some (before, rest) =>
      let starts := match before.getLast? with
        | none => true
        | some b => isSpaceByte b || b == 59
      if starts then attributeValue? rest else attribute? name fuel rest

def namesOf (headers : List (String × List UInt8)) : Option String × Option String :=
  match headers.lookup "content-disposition" with
  | some value =>
    (attribute? (bytes "name") (value.length + 1) value,
      attribute? (bytes "filename") (value.length + 1) value)
  | none => (none, none)

/-! ## Parts -/

/-- The parts that follow a boundary; `delimiter` is the boundary behind two hyphens, and `fuel`
bounds the number of parts. -/
def readParts (delimiter : List UInt8) : Nat → List UInt8 → Form
  | 0, _ => { fault := some .incomplete }
  | fuel + 1, cs =>
    match cs with
    | 45 :: 45 :: _ => {}
    | [] => { fault := some .incomplete }
    | [_] => { fault := some .incomplete }
    | cs =>
      match Text.dropLiteral? lineEnd (cs.dropWhile isBlankByte) with
      | none => { fault := some .incomplete }
      | some rest =>
        match Text.cutAt? (lineEnd ++ lineEnd) rest with
        | none => { fault := some .incomplete }
        | some (block, rest) =>
          match headers? block with
          | none => { fault := some .badHeaders }
          | some headers =>
            let (name, fileName) := namesOf headers
            match Text.cutAt? (lineEnd ++ delimiter) rest with
            | none => { fault := some (.incompletePart name) }
            | some (contents, rest) =>
              let more := readParts delimiter fuel rest
              { more with parts := ⟨name, fileName, contents⟩ :: more.parts }

def ofBody (boundary : String) (body : List UInt8) : Form :=
  let delimiter := bytes ("--" ++ boundary)
  match Text.cutAt? delimiter body with
  | none => { fault := some .incomplete }
  | some (_, rest) => readParts delimiter (body.length + 1) rest

/-- The first part of a field; a fault counts if the field does not come before it. -/
def find (f : Form) (field : String) : Except FormFault (Option FormPart) :=
  match f.parts.find? (·.name == some field), f.fault with
  | some part, _ => .ok (some part)
  | none, some fault => .error fault
  | none, none => .ok none

end Form

end AppScaffold.Web

import AppScaffold.Json.Value
import AppScaffold.Text.Quoted

/-!
# What is wrong with a JSON document

The causes for which a text is no JSON, or JSON of another shape than asked for, with their
wording and place. Columns count bytes. A place may be missing: a value that is not being read
from a text has none.
-/

set_option autoImplicit false

namespace AppScaffold.Json

structure Place where
  line : Nat
  column : Nat
deriving DecidableEq, Repr, Inhabited

inductive Found where
  | null
  | bool (b : Bool)
  | number (n : Number)
  | text (s : String)
  | sequence
  | map
  /-- A number of a format with other texts for numbers. -/
  | decimal (d : AppScaffold.Number.Double)
deriving DecidableEq, Repr

namespace Found

def describe : Found → String
  | .null => "null"
  | .bool b => "boolean `" ++ toString b ++ "`"
  | .number (.double d) => "floating point `" ++ (Number.double d).toText ++ "`"
  | .number n => "integer `" ++ n.toText ++ "`"
  | .text s => "string " ++ Text.quoted s
  | .decimal d =>
    "floating point `" ++ d.write AppScaffold.Number.DecimalStyle.pointed ++ "`"
  | .sequence => "sequence"
  | .map => "map"

end Found

inductive Problem where
  | eofList
  | eofObject
  | eofString
  | eofValue
  | expectedColon
  | expectedListEnd
  | expectedObjectEnd
  | expectedIdent
  | expectedValue
  | invalidEscape
  | invalidNumber
  | numberOutOfRange
  | controlCharacter
  | keyNotText
  | loneSurrogate
  | trailingComma
  | trailingCharacters
  | brokenSurrogatePair
  | tooDeep
  | invalidType (found : Found) (expected : String)
  | invalidValue (found : Found) (expected : String)
  | invalidLength (length : Nat) (expected : String)
  | missingField (name : String)
  | duplicateField (name : String)
  | unknownVariant (name : String) (known : List String)
  | noVariant (type : String)
  | custom (message : String)
deriving DecidableEq, Repr

namespace Problem

def alternatives : List String → String
  | [] => "there are no variants"
  | [a] => "expected `" ++ a ++ "`"
  | [a, b] => "expected `" ++ a ++ "` or `" ++ b ++ "`"
  | names => "expected one of " ++ Text.joinWith ", " (names.map fun n => "`" ++ n ++ "`")

def message : Problem → String
  | .eofList => "EOF while parsing a list"
  | .eofObject => "EOF while parsing an object"
  | .eofString => "EOF while parsing a string"
  | .eofValue => "EOF while parsing a value"
  | .expectedColon => "expected `:`"
  | .expectedListEnd => "expected `,` or `]`"
  | .expectedObjectEnd => "expected `,` or `\x7d`"
  | .expectedIdent => "expected ident"
  | .expectedValue => "expected value"
  | .invalidEscape => "invalid escape"
  | .invalidNumber => "invalid number"
  | .numberOutOfRange => "number out of range"
  | .controlCharacter => "control character (\\u0000-\\u001F) found while parsing a string"
  | .keyNotText => "key must be a string"
  | .loneSurrogate => "lone leading surrogate in hex escape"
  | .trailingComma => "trailing comma"
  | .trailingCharacters => "trailing characters"
  | .brokenSurrogatePair => "unexpected end of hex escape"
  | .tooDeep => "recursion limit exceeded"
  | .invalidType found expected =>
    "invalid type: " ++ found.describe ++ ", expected " ++ expected
  | .invalidValue found expected =>
    "invalid value: " ++ found.describe ++ ", expected " ++ expected
  | .invalidLength n expected => "invalid length " ++ Nat.repr n ++ ", expected " ++ expected
  | .missingField name => "missing field `" ++ name ++ "`"
  | .duplicateField name => "duplicate field `" ++ name ++ "`"
  | .unknownVariant name known => "unknown variant `" ++ name ++ "`, " ++ alternatives known
  | .noVariant type => "data did not match any variant of untagged enum " ++ type
  | .custom message => message

/-- Whether the text itself is no JSON. -/
def isSyntax : Problem → Bool
  | .invalidType .. | .invalidValue .. | .invalidLength .. | .missingField _ | .duplicateField _
  | .unknownVariant .. | .noVariant _ | .custom _ => false
  | _ => true

end Problem

/-- A step from a document to a part of it. -/
inductive Step where
  | key (name : String)
  | index (i : Nat)
  | unknown
deriving DecidableEq, Repr

structure Fault where
  problem : Problem
  place : Option Place := none
  path : List Step := []
deriving DecidableEq, Repr

namespace Fault

def message (f : Fault) : String :=
  f.problem.message ++
    match f.place with
    | some p => " at line " ++ Nat.repr p.line ++ " column " ++ Nat.repr p.column
    | none => ""

/-- Gives a fault without a place the one where its container goes on. -/
def placedAt (f : Fault) (place : Option Place) : Fault :=
  { f with place := f.place <|> place }

def under (f : Fault) (step : Step) : Fault := { f with path := step :: f.path }

def pathText (path : List Step) : String :=
  let rec go (sep : String) : List Step → String
    | [] => ""
    | .key k :: rest => sep ++ k ++ go "." rest
    | .index i :: rest => "[" ++ Nat.repr i ++ "]" ++ go "." rest
    | .unknown :: rest => sep ++ "?" ++ go "." rest
  go "" path

/-- The message behind the path to the faulty part, if a part of that path is known. -/
def tracedMessage (f : Fault) : String :=
  if f.path.all (· == .unknown) then f.message else pathText f.path ++ ": " ++ f.message

end Fault

end AppScaffold.Json

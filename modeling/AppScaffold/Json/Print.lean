import AppScaffold.Json.Value
import AppScaffold.Text.Split
import AppScaffold.Text.Quoted

/-!
# Writing JSON

The compact form, and the form with one member a line. Control characters are escaped, all other
characters stand for themselves.
-/

set_option autoImplicit false

namespace AppScaffold.Json

def writeChar (c : Char) : List Char :=
  match c with
  | '"' => ['\\', '"']
  | '\\' => ['\\', '\\']
  | '\x08' => ['\\', 'b']
  | '\x0c' => ['\\', 'f']
  | '\n' => ['\\', 'n']
  | '\r' => ['\\', 'r']
  | '\t' => ['\\', 't']
  | c =>
    if c.toNat < 0x20 then
      let ds := Text.hexDigits c.toNat
      '\\' :: 'u' :: List.replicate (4 - ds.length) '0' ++ ds
    else [c]

def writeText (s : String) : String :=
  String.ofList ('"' :: s.toList.flatMap writeChar ++ ['"'])

/-- An infinite or undefined double is written as `null`. -/
def writeNumber : Number → String
  | .double d => if d.isFinite then (Number.double d).toText else "null"
  | n => n.toText

mutual

def compact : Json → String
  | .null => "null"
  | .bool b => toString b
  | .number n => writeNumber n
  | .text s => writeText s
  | .array items => "[" ++ compactItems items ++ "]"
  | .object members => "\x7b" ++ compactMembers members ++ "\x7d"

def compactItems : List Json → String
  | [] => ""
  | [v] => v.compact
  | v :: rest => v.compact ++ "," ++ compactItems rest

def compactMembers : List (String × Json) → String
  | [] => ""
  | [(k, v)] => writeText k ++ ":" ++ v.compact
  | (k, v) :: rest => writeText k ++ ":" ++ v.compact ++ "," ++ compactMembers rest

end

mutual

/-- The form with two blanks for each level. -/
def pretty (level : Nat) : Json → String
  | .array [] => "[]"
  | .object [] => "\x7b\x7d"
  | .array items =>
    "[\n" ++ prettyItems (level + 1) items ++ "\n" ++ Text.repeated level "  " ++ "]"
  | .object members =>
    "\x7b\n" ++ prettyMembers (level + 1) members ++ "\n" ++ Text.repeated level "  " ++ "\x7d"
  | .null => "null"
  | .bool b => toString b
  | .number n => writeNumber n
  | .text s => writeText s

def prettyItems (level : Nat) : List Json → String
  | [] => ""
  | [v] => Text.repeated level "  " ++ v.pretty level
  | v :: rest => Text.repeated level "  " ++ v.pretty level ++ ",\n" ++ prettyItems level rest

def prettyMembers (level : Nat) : List (String × Json) → String
  | [] => ""
  | [(k, v)] => Text.repeated level "  " ++ writeText k ++ ": " ++ v.pretty level
  | (k, v) :: rest =>
    Text.repeated level "  " ++ writeText k ++ ": " ++ v.pretty level ++ ",\n" ++
      prettyMembers level rest

end

end AppScaffold.Json

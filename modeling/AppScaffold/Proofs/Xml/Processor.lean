import AppScaffold.Proofs.Xml.Reader
import AppScaffold.Toml.Statement

/-!
# Start tags as a processor reads them

How an XML 1.0 processor without a document type reads a start tag, character by character. Ends of
lines become line feeds first. In a value a reference stands for its character, and a character of
white space that is written as itself for a blank. A character that no document may hold is refused.
That the attributes of a tag have different names is no matter of this reader.
-/

set_option autoImplicit false

namespace AppScaffold.Xml.Processor

/-! ## Characters -/

def isAllowed (c : Char) : Bool :=
  c == '\t' || c == '\n' || c == '\r' || (0x20 ≤ c.toNat && c.toNat ≤ 0xFFFD) || 0x10000 ≤ c.toNat

def inRanges (ranges : List (Nat × Nat)) (c : Char) : Bool :=
  ranges.any fun r => r.1 ≤ c.toNat && c.toNat ≤ r.2

def startRanges : List (Nat × Nat) :=
  [(0x3A, 0x3A), (0x41, 0x5A), (0x5F, 0x5F), (0x61, 0x7A), (0xC0, 0xD6), (0xD8, 0xF6),
    (0xF8, 0x2FF), (0x370, 0x37D), (0x37F, 0x1FFF), (0x200C, 0x200D), (0x2070, 0x218F),
    (0x2C00, 0x2FEF), (0x3001, 0xD7FF), (0xF900, 0xFDCF), (0xFDF0, 0xFFFD), (0x10000, 0xEFFFF)]

/-- Hyphen, point, digits and marks, which no name starts with. -/
def laterRanges : List (Nat × Nat) :=
  [(0x2D, 0x2E), (0x30, 0x39), (0xB7, 0xB7), (0x300, 0x36F), (0x203F, 0x2040)]

def startsName (c : Char) : Bool := inRanges startRanges c

def inName (c : Char) : Bool := startsName c || inRanges laterRanges c

/-- Every end of a line becomes one line feed before anything is read. -/
def lineEnds : List Char → List Char
  | '\r' :: '\n' :: cs => '\n' :: lineEnds cs
  | '\r' :: cs => '\n' :: lineEnds cs
  | c :: cs => c :: lineEnds cs
  | [] => []

/-- What a character that is written as itself stands for in a value. -/
def blankOf (c : Char) : Char := if isSpace c then ' ' else c

def decimal? (digits : List Char) : Option Char := do
  let n ← digits.foldlM (fun n d => if d.isDigit then some (n * 10 + (d.toNat - 48)) else none) 0
  if n.isValidChar then some (Char.ofNat n) else none

/-- What a reference stands for, by the text between its marks. -/
def referenced? : List Char → Option Char
  | ['a', 'm', 'p'] => some '&'
  | ['l', 't'] => some '<'
  | ['g', 't'] => some '>'
  | ['q', 'u', 'o', 't'] => some '"'
  | ['a', 'p', 'o', 's'] => some '\''
  | '#' :: 'x' :: d :: ds => (Toml.codePoint? (d :: ds)).filter isAllowed
  | '#' :: d :: ds => (decimal? (d :: ds)).filter isAllowed
  | _ => none

/-! ## Tags -/

@[ext] structure Tag where
  name : String
  attributes : List Attribute := []
deriving DecidableEq, Repr

def Tag.add (t : Tag) (key value : List Char) : Tag :=
  { t with attributes := t.attributes ++ [⟨String.ofList key, String.ofList value⟩] }

/-- Where the processor stands, with what it has read of the tag. -/
inductive Mode where
  | before
  | opening
  | name (seen : List Char)
  | inside (tag : Tag) (spaced : Bool)
  | slash (tag : Tag)
  | naming (tag : Tag) (seen : List Char)
  | behindKey (tag : Tag) (key : List Char)
  | equals (tag : Tag) (key : List Char)
  | value (tag : Tag) (key : List Char) (quote : Char) (seen : List Char)
  | reference (tag : Tag) (key : List Char) (quote : Char) (seen inner : List Char)
  | closed (tag : Tag)
deriving DecidableEq, Repr

namespace Mode

/-- What may follow the name of the tag or an attribute. An attribute needs space before it. -/
def stepInside (tag : Tag) (spaced : Bool) (c : Char) : Option Mode :=
  if isSpace c then some (.inside tag true)
  else if c = '/' then some (.slash tag)
  else if c = '>' then some (.closed tag)
  else if spaced && startsName c then some (.naming tag [c])
  else none

def stepKey (tag : Tag) (key : List Char) (c : Char) : Option Mode :=
  if isSpace c then some (.behindKey tag key)
  else if c = '=' then some (.equals tag key)
  else none

/-- Behind the tag everything is let through. -/
def step : Mode → Char → Option Mode
  | .before, c => if isSpace c then some .before else if c = '<' then some .opening else none
  | .opening, c => if startsName c then some (.name [c]) else none
  | .name seen, c =>
    if inName c then some (.name (seen ++ [c])) else stepInside ⟨String.ofList seen, []⟩ false c
  | .inside tag spaced, c => stepInside tag spaced c
  | .slash tag, c => if c = '>' then some (.closed tag) else none
  | .naming tag seen, c => if inName c then some (.naming tag (seen ++ [c])) else stepKey tag seen c
  | .behindKey tag key, c => stepKey tag key c
  | .equals tag key, c =>
    if isSpace c then some (.equals tag key)
    else if c = '"' ∨ c = '\'' then some (.value tag key c [])
    else none
  | .value tag key quote seen, c =>
    if c = quote then some (.inside (tag.add key seen) false)
    else if c = '&' then some (.reference tag key quote seen [])
    else if c = '<' ∨ isAllowed c = false then none
    else some (.value tag key quote (seen ++ [blankOf c]))
  | .reference tag key quote seen inner, c =>
    if c = ';' then (referenced? inner).map fun x => .value tag key quote (seen ++ [x])
    else some (.reference tag key quote seen (inner ++ [c]))
  | .closed tag, _ => some (.closed tag)

def run (m : Mode) (cs : List Char) : Option Mode := cs.foldlM step m

end Mode

def readTag? (s : String) : Option Tag :=
  match Mode.before.run (lineEnds s.toList) with
  | some (.closed tag) => some tag
  | _ => none

end AppScaffold.Xml.Processor

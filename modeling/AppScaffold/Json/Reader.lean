import AppScaffold.Json.Node

/-!
# Reading JSON texts

From a text to its `Document`. Nothing is refused here: faults stand in the tree. `Document.value`
is the plain reading of a text as a value.
-/

set_option autoImplicit false

namespace AppScaffold.Json

/-- Values nested this deep are not entered. -/
def depthLimit : Nat := 128

namespace Place

def start : Place := ⟨1, 0⟩

def after (p : Place) (c : Char) : Place :=
  if c == '\n' then ⟨p.line + 1, 0⟩ else ⟨p.line, p.column + c.utf8Size⟩

/-- The place one byte further on, or the same place at the end of the text. -/
def peek (p : Place) : List Char → Place
  | [] => p
  | c :: _ => if c == '\n' then ⟨p.line + 1, 0⟩ else ⟨p.line, p.column + 1⟩

end Place

structure Cursor where
  rest : List Char
  place : Place

namespace Cursor

def peek (c : Cursor) : Place := c.place.peek c.rest

/-- A fault at the byte in front of the cursor. -/
def faultAhead (c : Cursor) (problem : Problem) : Fault := ⟨problem, some c.peek, []⟩

/-- A fault at the last byte that was read. -/
def faultHere (c : Cursor) (problem : Problem) : Fault := ⟨problem, some c.place, []⟩

def moveTo (c : Cursor) : List Char → Nat → Cursor
  | rest, n => ⟨rest, ⟨c.place.line, c.place.column + n⟩⟩

end Cursor

def skipSpace : List Char → Place → Cursor
  | [], p => ⟨[], p⟩
  | c :: cs, p =>
    if c == ' ' || c == '\n' || c == '\t' || c == '\r' then skipSpace cs (p.after c)
    else ⟨c :: cs, p⟩

def Cursor.skipSpace (c : Cursor) : Cursor := Json.skipSpace c.rest c.place

/-! ## Strings -/

def hexValue? (c : Char) : Option Nat :=
  if c.isDigit then some (c.toNat - '0'.toNat)
  else if 'a' ≤ c && c ≤ 'f' then some (c.toNat - 'a'.toNat + 10)
  else if 'A' ≤ c && c ≤ 'F' then some (c.toNat - 'A'.toNat + 10)
  else none

def passBytes : Nat → List Char → Place → Option Cursor
  | 0, cs, p => some ⟨cs, p⟩
  | _, [], _ => none
  | n + 1, c :: cs, p =>
    if n + 1 < c.utf8Size then some ⟨cs, ⟨p.line, p.column + n + 1⟩⟩
    else passBytes (n + 1 - c.utf8Size) cs (p.after c)

def endPlace : List Char → Place → Place
  | [], p => p
  | c :: cs, p => endPlace cs (p.after c)

def hexEscape (c : Cursor) : Except Fault (Nat × Cursor) :=
  match c.rest with
  | c₁ :: c₂ :: c₃ :: c₄ :: rest =>
    match hexValue? c₁, hexValue? c₂, hexValue? c₃, hexValue? c₄ with
    | some a, some b, some d, some e =>
      .ok (((a * 16 + b) * 16 + d) * 16 + e, c.moveTo rest 4)
    | _, _, _, _ =>
      match passBytes 4 c.rest c.place with
      | some after => .error (after.faultHere .invalidEscape)
      | none => .error ⟨.eofString, some (endPlace c.rest c.place), []⟩
  | _ =>
    match passBytes 4 c.rest c.place with
    | some after => .error (after.faultHere .invalidEscape)
    | none => .error ⟨.eofString, some (endPlace c.rest c.place), []⟩

/-- A string being read: its characters so far in reverse, or the first fault that only a reader
of the value minds. -/
abbrev Partial := Except Fault (List Char)

def Partial.push (s : Partial) (c : Char) : Partial := s.map (c :: ·)

def Partial.fail (s : Partial) (f : Fault) : Partial :=
  match s with
  | .error g => .error g
  | .ok _ => .error f

/-- The first fault when the text ends with `f`. -/
def Partial.firstFault (s : Partial) (f : Fault) : Fault :=
  match s with
  | .error g => g
  | .ok _ => f

def isHighSurrogate (n : Nat) : Bool := 0xD800 ≤ n && n ≤ 0xDBFF

def isLowSurrogate (n : Nat) : Bool := 0xDC00 ≤ n && n ≤ 0xDFFF

def simpleEscape? : Char → Option Char
  | '"' => some '"'
  | '\\' => some '\\'
  | '/' => some '/'
  | 'b' => some '\x08'
  | 'f' => some '\x0c'
  | 'n' => some '\n'
  | 'r' => some '\r'
  | 't' => some '\t'
  | _ => none

/-- The rest of a `\u` escape: the pair that a high surrogate needs, if it is there. -/
def unicodeEscape (s : Partial) (n : Nat) (c : Cursor) : Except Fault (Partial × Cursor) :=
  if isLowSurrogate n then .ok (s.fail (c.faultHere .loneSurrogate), c)
  else if !isHighSurrogate n then .ok (s.push (Char.ofNat n), c)
  else
    match c.rest with
    | [] => .error (c.faultHere .eofString)
    | '\\' :: rest =>
      let c₁ := c.moveTo rest 1
      match rest with
      | [] => .error (c₁.faultHere .eofString)
      | 'u' :: rest₁ =>
        match hexEscape (c₁.moveTo rest₁ 1) with
        | .error f => .error f
        | .ok (m, c₂) =>
          if isLowSurrogate m then
            .ok (s.push (Char.ofNat (0x10000 + (n - 0xD800) * 0x400 + (m - 0xDC00))), c₂)
          else .ok (s.fail (c₂.faultHere .loneSurrogate), c₂)
      | _ => .ok (s.fail (c₁.faultAhead .brokenSurrogatePair), c)
    | _ => .ok (s.fail (c.faultAhead .brokenSurrogatePair), c)

/-- What a string comes to: its value and where it ends, or the faults that end the text. -/
structure Scanned where
  value : Partial
  after : Cursor

/-- Reads a string after its opening quotation mark. Every step takes at least one character, so
`fuel` never runs out when it exceeds the length of the text. -/
def readString (fuel : Nat) (s : Partial) (c : Cursor) : Except (Fault × Fault) Scanned :=
  match fuel with
  | 0 => .error (c.faultHere .eofString, c.faultHere .eofString)
  | fuel + 1 =>
    match c.rest with
    | [] => .error (c.faultHere .eofString, c.faultHere .eofString)
    | '"' :: rest => .ok ⟨s, c.moveTo rest 1⟩
    | '\\' :: rest =>
      let c := c.moveTo rest 1
      match rest with
      | [] => .error (c.faultHere .eofString, c.faultHere .eofString)
      | 'u' :: rest =>
        match hexEscape (c.moveTo rest 1) with
        | .error f => .error (s.firstFault f, f)
        | .ok (n, c) =>
          match unicodeEscape s n c with
          | .error f => .error (s.firstFault f, f)
          | .ok (s, c) => readString fuel s c
      | e :: rest =>
        match simpleEscape? e with
        | some ch => readString fuel (s.push ch) (c.moveTo rest 1)
        | none =>
          let f := c.faultAhead .invalidEscape
          .error (s.firstFault f, f)
    | ch :: rest =>
      if ch.toNat < 0x20 then
        let f := c.faultAhead .controlCharacter
        .error (s.firstFault f, c.faultHere .controlCharacter)
      else readString fuel (s.push ch) ⟨rest, c.place.after ch⟩

def Scanned.text (s : Scanned) : Except Fault String :=
  s.value.map fun cs => String.ofList cs.reverse

/-! ## Numbers -/

/-- A number as its digits say it, before its value is taken. -/
structure Numeral where
  negative : Bool
  whole : List Char
  fraction : Option (List Char)
  exponent : Option (Bool × List Char)

def digitsValue (ds : List Char) : Nat :=
  ds.foldl (fun n d => n * 10 + (d.toNat - '0'.toNat)) 0

/-- The digits that fit into 64 bits, their value, and how many digits are left over. -/
def significand : Nat → List Char → Nat × Nat
  | n, [] => (n, 0)
  | n, d :: ds =>
    let m := n * 10 + (d.toNat - '0'.toNat)
    if 0x10000000000000000 ≤ m then (n, (d :: ds).length) else significand m ds

def pow10 (n : Nat) : Float := Float.ofScientific 1 false n

/-- Divides by `10 ^ 308` while the exponent is below the range of doubles. -/
def scaleDown : Nat → Float → Nat → Float
  | 0, f, _ => f
  | steps + 1, f, e =>
    if e ≤ 308 then f / pow10 e
    else if f == 0.0 then f
    else scaleDown steps (f / pow10 308) (e - 308)

/-- `n * 10 ^ e` by one multiplication or by divisions of doubles; `none` when it is too great. -/
def doubleOfParts (n : Nat) (e : Int) : Option Float :=
  let f := n.toUInt64.toFloat
  if e < 0 then some (scaleDown (e.natAbs / 308 + 1) f e.natAbs)
  else if e ≤ 308 then
    let g := f * pow10 e.toNat
    if g.isInf then none else some g
  else if f == 0.0 then some f
  else none

/-- Exponents are kept in 32 bits. -/
def exponentBound : Nat := 0x7FFFFFFF

/-- Whether the digits of an exponent exceed the bound, and after how many of them. -/
def exponentOverflow? : Nat → Nat → List Char → Option Nat
  | _, _, [] => none
  | n, count, d :: ds =>
    let m := n * 10 + (d.toNat - '0'.toNat)
    if exponentBound < m then some (count + 1) else exponentOverflow? m (count + 1) ds

def signed (negative : Bool) (f : Float) : Number :=
  .double (Number.Double.ofFloat (if negative then -f else f))

/-- The value of a numeral that starts at `start`: an integer while 64 bits hold it, else a
double of the digits that 64 bits hold and a power of ten. -/
def Numeral.value (n : Numeral) (lead : Nat) (stop : Place) : Except Fault Number :=
  let (whole, dropped) := significand 0 n.whole
  let outOfRange (p : Place) : Except Fault Number := .error ⟨.numberOutOfRange, some p, []⟩
  match n.fraction, n.exponent, dropped with
  | none, none, 0 =>
    if !n.negative then .ok (.natural whole)
    else if whole == 0 then .ok (signed true 0.0)
    else if whole ≤ 0x8000000000000000 then .ok (.negative whole)
    else .ok (signed true whole.toUInt64.toFloat)
  | fraction, exponent, dropped =>
    let ds := fraction.getD []
    -- digits of the fraction count until one of them no longer fits
    let (digits, left) :=
      if dropped == 0 then significand whole ds
      else match ds with
        | [] => (whole, 0)
        | ds => significand whole ds
    let point : Int := (dropped : Int) - ((ds.length - left : Nat) : Int)
    match exponent with
    | none =>
      match doubleOfParts digits point with
      | some f => .ok (signed n.negative f)
      | none => outOfRange stop
    | some (down, es) =>
      match exponentOverflow? 0 0 es with
      | some count =>
        if digits != 0 && !down then
          outOfRange ⟨stop.line, lead + count⟩
        else .ok (signed n.negative 0.0)
      | none =>
        let e : Int := digitsValue es
        match doubleOfParts digits (if down then point - e else point + e) with
        | some f => .ok (signed n.negative f)
        | none => outOfRange stop

/-- Reads the exponent of a number, from its `e` on if there is one. -/
def readExponent (c : Cursor) : Except (Fault × Fault) (Option (Bool × List Char) × Cursor) :=
  match c.rest with
  | e :: rest =>
    if e == 'e' || e == 'E' then
      let c := c.moveTo rest 1
      let (down, c) := match c.rest with
        | '+' :: rest => (false, c.moveTo rest 1)
        | '-' :: rest => (true, c.moveTo rest 1)
        | _ => (false, c)
      let ds := c.rest.takeWhile Char.isDigit
      if ds.isEmpty then
        if c.rest.isEmpty then .error (c.faultHere .eofValue, c.faultHere .invalidNumber)
        else .error (c.faultAhead .invalidNumber, c.faultAhead .invalidNumber)
      else .ok (some (down, ds), c.moveTo (c.rest.dropWhile Char.isDigit) ds.length)
    else .ok (none, c)
  | [] => .ok (none, c)

def readNumber (negative : Bool) (c : Cursor) : Node × Option Cursor :=
  let broken (read skip : Fault) : Node × Option Cursor := (.broken read skip, none)
  let same (f : Fault) := broken f f
  let start : Place := ⟨c.place.line, if negative then c.place.column else c.place.column + 1⟩
  match c.rest with
  | [] => broken (c.faultHere .eofValue) (c.faultHere .invalidNumber)
  | d :: rest =>
    if !d.isDigit then same (c.faultAhead .invalidNumber)
    else
      let whole := c.rest.takeWhile Char.isDigit
      if d == '0' && whole.length != 1 then same ((c.moveTo rest 1).faultAhead .invalidNumber)
      else
        let c := c.moveTo (c.rest.dropWhile Char.isDigit) whole.length
        let fraction : Except (Fault × Fault) (Option (List Char) × Cursor) :=
          match c.rest with
          | '.' :: rest =>
            let c := c.moveTo rest 1
            let ds := c.rest.takeWhile Char.isDigit
            if ds.isEmpty then
              if c.rest.isEmpty then .error (c.faultAhead .eofValue, c.faultAhead .invalidNumber)
              else .error (c.faultAhead .invalidNumber, c.faultAhead .invalidNumber)
            else .ok (some ds, c.moveTo (c.rest.dropWhile Char.isDigit) ds.length)
          | _ => .ok (none, c)
        match fraction with
        | .error (read, skip) => broken read skip
        | .ok (fraction, c) =>
          match readExponent c with
          | .error (read, skip) => broken read skip
          | .ok (exponent, after) =>
            let digits := match exponent with
              | some (_, es) => es.length
              | none => 0
            let lead := after.place.column - digits
            let n : Numeral := ⟨negative, whole, fraction, exponent⟩
            (.number (n.value lead after.place) (some start) (some after.place), some after)

/-! ## Values -/

/-- Reads the rest of a name such as `null` after its first letter. -/
def readWord (word : List Char) (c : Cursor) (node : Place → Node) : Node × Option Cursor :=
  match word with
  | [] => (node c.place, some c)
  | w :: word =>
    match c.rest with
    | [] => (.broken (c.faultHere .eofValue) (c.faultHere .eofValue), none)
    | ch :: rest =>
      if ch == w then readWord word (c.moveTo rest 1) node
      else (.broken (c.faultAhead .expectedIdent) (c.faultAhead .expectedIdent), none)

def limitAt (depth : Nat) (c : Cursor) : Option Fault :=
  if depthLimit ≤ depth then some (c.faultAhead .tooDeep) else none

/-- The place where a container goes on after an item: behind its end, behind a comma if commas
are passed, else where the text stops. -/
def resumeAt (close : Char) (commas : Bool) (c : Cursor) : Place :=
  match c.rest with
  | ch :: rest =>
    if ch == close then ⟨c.place.line, c.place.column + 1⟩
    else if ch == ',' && commas then (c.moveTo rest 1).skipSpace.place
    else c.place
  | [] => c.place

/-! Between two characters at most two readers start, so twice the length of the text is enough
fuel for all of them. -/

mutual

/-- Reads a value inside `depth` containers. The cursor is missing after a fault. -/
def readValue (fuel depth : Nat) (c : Cursor) : Node × Option Cursor :=
  match fuel with
  | 0 => (.broken (c.faultAhead .eofValue) (c.faultAhead .eofValue), none)
  | fuel + 1 =>
    let c := c.skipSpace
    match c.rest with
    | [] => (.broken (c.faultAhead .eofValue) (c.faultAhead .eofValue), none)
    | 'n' :: rest => readWord ['u', 'l', 'l'] (c.moveTo rest 1) fun p => .null (some p)
    | 't' :: rest => readWord ['r', 'u', 'e'] (c.moveTo rest 1) fun p => .bool true (some p)
    | 'f' :: rest => readWord ['a', 'l', 's', 'e'] (c.moveTo rest 1) fun p => .bool false (some p)
    | '-' :: rest => readNumber true (c.moveTo rest 1)
    | '"' :: rest =>
      match readString fuel (.ok []) (c.moveTo rest 1) with
      | .error (read, skip) => (.broken read skip, none)
      | .ok s => (.text s.text (some s.after.place), some s.after)
    | '[' :: rest =>
      let (items, after) := readItems fuel (depth + 1) true (c.moveTo rest 1).skipSpace
      (.array (limitAt (depth + 1) c) (some c.place) items, after)
    | '{' :: rest =>
      let (members, after) := readMembers fuel (depth + 1) true (c.moveTo rest 1).skipSpace
      (.object (limitAt (depth + 1) c) (some c.place) members, after)
    | ch :: _ =>
      if ch.isDigit then readNumber false c
      else (.broken (c.faultAhead .expectedValue) (c.faultAhead .expectedValue), none)

/-- Reads the items of an array; `first` holds before the first one. -/
def readItems (fuel depth : Nat) (first : Bool) (c : Cursor) : Items × Option Cursor :=
  match fuel with
  | 0 => (.broken (c.faultAhead .eofList) (c.faultAhead .eofList) (c.faultAhead .eofList), none)
  | fuel + 1 =>
    let one (c : Cursor) : Items × Option Cursor :=
      let finish := c.faultAhead .trailingCharacters
      match readValue fuel depth c with
      | (v, none) =>
        (.item (some finish) v none (.broken finish finish finish), none)
      | (v, some after) =>
        let after := after.skipSpace
        let (rest, last) := readItems fuel depth false after
        (.item (some finish) v (some (resumeAt ']' true after)) rest, last)
    match c.rest with
    | [] =>
      let f := c.faultAhead .eofList
      (.broken f f f, none)
    | ']' :: rest =>
      let after := c.moveTo rest 1
      (.closed (some after.place), some after)
    | ch :: rest =>
      if first then one c
      else if ch == ',' then
        let c := (c.moveTo rest 1).skipSpace
        match c.rest with
        | [] =>
          let f := c.faultAhead .eofValue
          (.broken f f (c.faultAhead .trailingCharacters), none)
        | ']' :: _ =>
          let f := c.faultAhead .trailingComma
          (.broken f (c.faultAhead .expectedValue) f, none)
        | _ => one c
      else
        let f := c.faultAhead .expectedListEnd
        (.broken f f (c.faultAhead .trailingCharacters), none)

def readMembers (fuel depth : Nat) (first : Bool) (c : Cursor) : Members × Option Cursor :=
  match fuel with
  | 0 =>
    let f := c.faultAhead .eofObject
    (.broken f f f, none)
  | fuel + 1 =>
    let one (c : Cursor) (rest : List Char) : Members × Option Cursor :=
      match readString fuel (.ok []) (c.moveTo rest 1) with
      | .error (read, skip) => (.broken read skip read, none)
      | .ok s =>
        let after := s.after.skipSpace
        let keyPlaces : KeyPlaces := ⟨some s.after.place, some (resumeAt '}' false after)⟩
        let stopped (f : Fault) : Members × Option Cursor :=
          (.member s.text keyPlaces (.broken f f) none (.broken f f f), none)
        match after.rest with
        | [] => stopped (after.faultAhead .eofObject)
        | ':' :: rest =>
          match readValue fuel depth (after.moveTo rest 1) with
          | (v, none) =>
            let f := after.faultAhead .eofObject
            (.member s.text keyPlaces v none (.broken f f f), none)
          | (v, some after) =>
            let after := after.skipSpace
            let (more, last) := readMembers fuel depth false after
            (.member s.text keyPlaces v (some (resumeAt '}' false after)) more, last)
        | _ => stopped (after.faultAhead .expectedColon)
    let broken (read skip : Problem) (c : Cursor) : Members × Option Cursor :=
      (.broken (c.faultAhead read) (c.faultAhead skip) (c.faultAhead .expectedValue), none)
    match c.rest with
    | [] =>
      let f := c.faultAhead .eofObject
      (.broken f f (c.faultAhead .eofValue), none)
    | '}' :: rest =>
      let after := c.moveTo rest 1
      (.closed (some after.place), some after)
    | ch :: rest =>
      if first then
        if ch == '"' then one c rest
        else
          let f := c.faultAhead .keyNotText
          (.broken f f ((readValue fuel depth c).1.mismatch "variant identifier"), none)
      else if ch == ',' then
        let c := (c.moveTo rest 1).skipSpace
        match c.rest with
        | [] => broken .eofValue .eofObject c
        | '}' :: _ => broken .trailingComma .keyNotText c
        | '"' :: rest => one c rest
        | _ => broken .keyNotText .keyNotText c
      else broken .expectedObjectEnd .expectedObjectEnd c

end

structure Document where
  root : Node
  trailing : Option Fault

namespace Document

def ofChars (cs : List Char) : Document :=
  let (root, after) := readValue (2 * cs.length + 2) 0 ⟨cs, Place.start⟩
  let trailing := after.bind fun c =>
    let c := c.skipSpace
    if c.rest.isEmpty then none else some (c.faultAhead .trailingCharacters)
  ⟨root, trailing⟩

def ofText (s : String) : Document := ofChars s.toList

/-- Reads the root as the only value of the text. -/
def read {α : Type} (d : Document) (decode : Node → Except Fault α) : Except Fault α := do
  let a ← decode d.root
  match d.trailing with
  | some f => .error f
  | none => .ok a

def value (d : Document) : Except Fault Json := d.read Node.value

end Document

def parse (s : String) : Except Fault Json := (Document.ofText s).value

end AppScaffold.Json

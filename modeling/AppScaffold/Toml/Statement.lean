import AppScaffold.Toml.Value

/-!
# Statements

The lines of a configuration document: headers of tables, and values under keys. Each character
carries its place, so that a value knows where it starts. A text that is no statement is refused
without a reason.
-/

set_option autoImplicit false

namespace AppScaffold.Toml

open Json (Place)
open Number (Double)

structure PlacedChar where
  char : Char
  place : Place
deriving DecidableEq, Repr, Inhabited

abbrev Input := List PlacedChar

/-- Gives each character its line and its column, both from one on. -/
def placed (line column : Nat) : List Char → Input
  | [] => []
  | c :: cs =>
    ⟨c, ⟨line, column⟩⟩ ::
      if c == '\n' then placed (line + 1) 1 cs else placed line (column + 1) cs

def chars (cs : Input) : List Char := cs.map (·.char)

def skip (p : Char → Bool) (cs : Input) : Input := cs.dropWhile fun c => p c.char

def take (p : Char → Bool) (cs : Input) : List Char := chars (cs.takeWhile fun c => p c.char)

def isBlank (c : Char) : Bool := c == ' ' || c == '\t'

def isCommentChar (c : Char) : Bool := c == '\t' || (0x20 ≤ c.toNat && c.toNat != 0x7F)

def lineEnd? : Input → Option Input
  | ⟨'\n', _⟩ :: cs => some cs
  | ⟨'\r', _⟩ :: ⟨'\n', _⟩ :: cs => some cs
  | _ => none

def skipComment : Input → Input
  | ⟨'#', p⟩ :: cs => skip isCommentChar (⟨'#', p⟩ :: cs)
  | cs => cs

def finishLine (cs : Input) : Option Input :=
  let cs := skipComment (skip isBlank cs)
  if cs.isEmpty then some [] else lineEnd? cs

def skipSpace : Nat → Input → Option Input
  | 0, _ => none
  | fuel + 1, cs =>
    let cs := skip isBlank cs
    match cs with
    | ⟨'#', _⟩ :: _ => do skipSpace fuel (← lineEnd? (skipComment cs))
    | ⟨'\n', _⟩ :: rest => skipSpace fuel rest
    | ⟨'\r', _⟩ :: ⟨'\n', _⟩ :: rest => skipSpace fuel rest
    | _ => some cs

/-! ## Texts -/

def hexValue? (c : Char) : Option Nat :=
  let n := c.toNat
  if '0' ≤ c && c ≤ '9' then some (n - '0'.toNat)
  else if 'a' ≤ c && c ≤ 'f' then some (n - 'a'.toNat + 10)
  else if 'A' ≤ c && c ≤ 'F' then some (n - 'A'.toNat + 10)
  else none

def codePoint? (digits : List Char) : Option Char := do
  let n ← digits.foldlM (fun n d => (hexValue? d).map (n * 16 + ·)) 0
  if n.isValidChar then some (Char.ofNat n) else none

/-- What an escape stands for, from the character after the backslash on. -/
def escape? : Input → Option (Char × Input)
  | ⟨'b', _⟩ :: cs => some ('\x08', cs)
  | ⟨'t', _⟩ :: cs => some ('\t', cs)
  | ⟨'n', _⟩ :: cs => some ('\n', cs)
  | ⟨'f', _⟩ :: cs => some ('\x0c', cs)
  | ⟨'r', _⟩ :: cs => some ('\r', cs)
  | ⟨'"', _⟩ :: cs => some ('"', cs)
  | ⟨'\\', _⟩ :: cs => some ('\\', cs)
  | ⟨'u', _⟩ :: cs => unicode 4 cs
  | ⟨'U', _⟩ :: cs => unicode 8 cs
  | _ => none
where
  unicode (n : Nat) (cs : Input) : Option (Char × Input) :=
    if cs.length < n then none else (codePoint? (chars (cs.take n))).map (·, cs.drop n)

def isTextChar (c : Char) : Bool := isCommentChar c

def readBasic : Nat → Input → Option (List Char × Input)
  | 0, _ => none
  | fuel + 1, cs =>
    match cs with
    | [] => none
    | ⟨'"', _⟩ :: rest => some ([], rest)
    | ⟨'\\', _⟩ :: rest => do
      let (c, rest) ← escape? rest
      let (s, rest) ← readBasic fuel rest
      some (c :: s, rest)
    | ⟨c, _⟩ :: rest =>
      if isTextChar c then do
        let (s, rest) ← readBasic fuel rest
        some (c :: s, rest)
      else none

def readLiteral : Input → Option (List Char × Input)
  | [] => none
  | ⟨'\'', _⟩ :: rest => some ([], rest)
  | ⟨c, _⟩ :: rest =>
    if isTextChar c then do
      let (s, rest) ← readLiteral rest
      some (c :: s, rest)
    else none

/-- The quotes at a place where three of them end a text: how many belong to the text, and
whether it ends. -/
def closing (quote : Char) (cs : Input) : Nat × Bool :=
  let n := (take (· == quote) cs).length
  if n < 3 then (n, false) else (min (n - 3) 2, true)

/-- Passes over the line ends and blanks after a backslash that ends a line. -/
def skipFolded (cs : Input) : Option Input :=
  match lineEnd? (skip isBlank cs) with
  | none => none
  | some rest => some (go (rest.length + 1) rest)
where
  go : Nat → Input → Input
    | 0, cs => cs
    | fuel + 1, cs =>
      let cs := skip isBlank cs
      match lineEnd? cs with
      | some rest => go fuel rest
      | none => cs

/-- A text of several lines up to its three closing quotes; `escapes` says whether a backslash is
special. A line end counts as one line feed. -/
def readLines (quote : Char) (escapes : Bool) : Nat → Input → Option (List Char × Input)
  | 0, _ => none
  | fuel + 1, cs =>
    let push (c : Char) (rest : Input) : Option (List Char × Input) := do
      let (s, rest) ← readLines quote escapes fuel rest
      some (c :: s, rest)
    match cs with
    | [] => none
    | ⟨'\n', _⟩ :: rest => push '\n' rest
    | ⟨'\r', _⟩ :: ⟨'\n', _⟩ :: rest => push '\n' rest
    | ⟨c, _⟩ :: rest =>
      if c == quote then
        match closing quote cs with
        | (n, true) => some (List.replicate n quote, cs.drop (n + 3))
        | (n, false) => do
          let (s, rest) ← readLines quote escapes fuel (cs.drop n)
          some (List.replicate n quote ++ s, rest)
      else if escapes && c == '\\' then
        match skipFolded rest with
        | some rest => readLines quote escapes fuel rest
        | none =>
          match escape? rest with
          | some (c, rest) => push c rest
          | none => none
      else if isTextChar c then push c rest
      else none

/-- A line end right after the opening quotes does not count. -/
def skipFirstLineEnd (cs : Input) : Input := (lineEnd? cs).getD cs

def readText (cs : Input) : Option (String × Input) :=
  let fuel := cs.length + 1
  let text := Option.map fun (r : List Char × Input) => (String.ofList r.1, r.2)
  match cs with
  | ⟨'"', _⟩ :: ⟨'"', _⟩ :: ⟨'"', _⟩ :: rest =>
    text (readLines '"' true fuel (skipFirstLineEnd rest))
  | ⟨'\'', _⟩ :: ⟨'\'', _⟩ :: ⟨'\'', _⟩ :: rest =>
    text (readLines '\'' false fuel (skipFirstLineEnd rest))
  | ⟨'"', _⟩ :: rest => text (readBasic fuel rest)
  | ⟨'\'', _⟩ :: rest => text (readLiteral rest)
  | _ => none

/-! ## Keys -/

def isKeyChar (c : Char) : Bool := c.isAlphanum || c == '-' || c == '_'

def readKey (cs : Input) : Option (Key × Input) :=
  match cs with
  | [] => none
  | ⟨c, place⟩ :: rest =>
    let quoted (read : Option (List Char × Input)) : Option (Key × Input) :=
      read.map fun (s, rest) => (⟨.ofList s, place⟩, rest)
    if c == '"' then quoted (readBasic (rest.length + 1) rest)
    else if c == '\'' then quoted (readLiteral rest)
    else
      let name := take isKeyChar cs
      if name.isEmpty then none else some (⟨.ofList name, place⟩, skip isKeyChar cs)

/-- How deep values nest and how many parts a key has, at most. -/
def maxNesting : Nat := 80

def readPath : Nat → Input → Option (List Key × Input)
  | 0, _ => none
  | fuel + 1, cs => do
    let (key, rest) ← readKey (skip isBlank cs)
    match skip isBlank rest with
    | ⟨'.', _⟩ :: rest => do
      let (path, rest) ← readPath fuel rest
      some (key :: path, rest)
    | rest => some ([key], rest)

def readKeys (cs : Input) : Option (List Key × Input) := do
  let (path, rest) ← readPath (cs.length + 1) cs
  if path.length < maxNesting then some (path, rest) else none

/-! ## Numbers and times -/

/-- Digits of a kind, with single underscores between them. -/
def readDigits (isDigit : Char → Bool) (cs : Input) : Option (List Char × Input) :=
  match cs with
  | [] => none
  | ⟨c, _⟩ :: rest => if isDigit c then some (go [c] rest) else none
where
  go (acc : List Char) : Input → List Char × Input
    | ⟨'_', p⟩ :: ⟨d, q⟩ :: rest =>
      if isDigit d then go (d :: acc) rest else (acc.reverse, ⟨'_', p⟩ :: ⟨d, q⟩ :: rest)
    | ⟨d, p⟩ :: rest => if isDigit d then go (d :: acc) rest else (acc.reverse, ⟨d, p⟩ :: rest)
    | [] => (acc.reverse, [])

def readSign : Input → Bool × Input
  | ⟨'+', _⟩ :: cs => (false, cs)
  | ⟨'-', _⟩ :: cs => (true, cs)
  | cs => (false, cs)

/-- A sign and decimal digits without a needless zero. -/
def readDecimal (cs : Input) : Option ((Bool × List Char) × Input) :=
  let (negative, cs) := readSign cs
  match cs with
  | ⟨'0', _⟩ :: rest => some ((negative, ['0']), rest)
  | _ => (readDigits Char.isDigit cs).map fun (ds, rest) => ((negative, ds), rest)

def digitsValue (base : Nat) (ds : List Char) : Nat :=
  ds.foldl (fun n d => n * base + (hexValue? d).getD 0) 0

/-- Integers have 64 bits. -/
def bounded (n : Int) : Option Int :=
  if -0x8000000000000000 ≤ n ∧ n < 0x8000000000000000 then some n else none

def readInteger (cs : Input) : Option (Int × Input) :=
  let based (base : Nat) (isDigit : Char → Bool) (cs : Input) : Option (Int × Input) := do
    let (ds, rest) ← readDigits isDigit cs
    some (← bounded (digitsValue base ds), rest)
  match cs with
  | ⟨'0', _⟩ :: ⟨'x', _⟩ :: rest => based 16 (fun c => (hexValue? c).isSome) rest
  | ⟨'0', _⟩ :: ⟨'o', _⟩ :: rest => based 8 (fun c => '0' ≤ c && c ≤ '7') rest
  | ⟨'0', _⟩ :: ⟨'b', _⟩ :: rest => based 2 (fun c => c == '0' || c == '1') rest
  | _ => do
    let ((negative, ds), rest) ← readDecimal cs
    let n : Int := digitsValue 10 ds
    some (← bounded (if negative then -n else n), rest)

def readFraction (cs : Input) : Option (List Char × Input) :=
  match cs with
  | ⟨'.', _⟩ :: rest => readDigits Char.isDigit rest
  | _ => some ([], cs)

def readExponent (cs : Input) : Option (Int × Input) :=
  match cs with
  | ⟨c, _⟩ :: rest =>
    if c == 'e' || c == 'E' then do
      let (negative, rest) := readSign rest
      let (ds, rest) ← readDigits Char.isDigit rest
      let n : Int := digitsValue 10 ds
      some (if negative then -n else n, rest)
    else some (0, cs)
  | [] => some (0, cs)

/-- Digits with a fraction, an exponent or both; a number too great is refused. -/
def readFloat (cs : Input) : Option (Double × Input) := do
  let ((negative, whole), rest) ← readDecimal cs
  let starts := match rest with
    | ⟨c, _⟩ :: _ => c == '.' || c == 'e' || c == 'E'
    | [] => false
  if !starts then none
  else do
    let (fraction, rest) ← readFraction rest
    let (e, rest) ← readExponent rest
    let d := Double.ofDecimal negative (digitsValue 10 (whole ++ fraction)) (e - fraction.length)
    if d.isInfinite && !negative then none else some (d, rest)

def readWord (word : String) (cs : Input) : Option Input :=
  let n := word.length
  if chars (cs.take n) == word.toList then some (cs.drop n) else none

def readSpecial (cs : Input) : Option (Double × Input) :=
  let (negative, rest) := readSign cs
  match readWord "inf" rest with
  | some rest => some (.infinite negative, rest)
  | none => (readWord "nan" rest).map fun rest => (.undefined negative, rest)

def readField (n low high : Nat) (cs : Input) : Option (Nat × Input) :=
  let ds := chars (cs.take n)
  let v := digitsValue 10 ds
  if ds.length == n && ds.all Char.isDigit && low ≤ v && v ≤ high then some (v, cs.drop n) else none

def readMark (c : Char) : Input → Option Input
  | ⟨d, _⟩ :: cs => if c == d then some cs else none
  | [] => none

def daysOf (year month : Nat) : Nat :=
  if month == 2 then
    if year % 4 == 0 && (year % 100 != 0 || year % 400 == 0) then 29 else 28
  else if month == 4 || month == 6 || month == 9 || month == 11 then 30
  else 31

def readDate (cs : Input) : Option Input := do
  let (year, cs) ← readField 4 0 9999 cs
  let (month, cs) ← readField 2 1 12 (← readMark '-' cs)
  let (_, cs) ← readField 2 1 (daysOf year month) (← readMark '-' cs)
  some cs

def readTime (cs : Input) : Option Input := do
  let (_, cs) ← readField 2 0 23 cs
  let (_, cs) ← readField 2 0 59 (← readMark ':' cs)
  let (_, cs) ← readField 2 0 60 (← readMark ':' cs)
  match cs with
  | ⟨'.', _⟩ :: rest =>
    if (take Char.isDigit rest).isEmpty then some cs else some (skip Char.isDigit rest)
  | _ => some cs

def readOffset (cs : Input) : Option Input :=
  match cs with
  | ⟨'Z', _⟩ :: rest => some rest
  | ⟨'z', _⟩ :: rest => some rest
  | ⟨'+', _⟩ :: rest => hours rest
  | ⟨'-', _⟩ :: rest => hours rest
  | _ => none
where
  hours (cs : Input) : Option Input := do
    let (_, cs) ← readField 2 0 23 cs
    let (_, cs) ← readField 2 0 59 (← readMark ':' cs)
    some cs

/-- A date, a time, or both with a letter or a blank between them and perhaps an offset. -/
def readDateTime (cs : Input) : Option Input :=
  match readDate cs with
  | none => readTime cs
  | some rest =>
    let timed : Option Input :=
      match rest with
      | ⟨c, _⟩ :: after =>
        if c == 'T' || c == 't' || c == ' ' then readTime after else none
      | [] => none
    match timed with
    | some after => some ((readOffset after).getD after)
    | none => some rest

/-! ## Values -/

def readScalar (place : Place) (cs : Input) : Option (Value × Input) :=
  match cs with
  | [] => none
  | ⟨c, _⟩ :: _ =>
    if c == '"' || c == '\'' then (readText cs).map fun (s, rest) => (.text place s, rest)
    else if c == 't' then (readWord "true" cs).map fun rest => (.bool place true, rest)
    else if c == 'f' then (readWord "false" cs).map fun rest => (.bool place false, rest)
    else
      match readDateTime cs with
      | some rest => some (.dateTime place, rest)
      | none =>
        match (readFloat cs).orElse fun _ => readSpecial cs with
        | some (d, rest) => some (.float place d, rest)
        | none => (readInteger cs).map fun (n, rest) => (.integer place n, rest)

mutual

/-- A value that stands inside `depth` others. -/
def readValue (fuel depth : Nat) (cs : Input) : Option (Value × Input) :=
  match fuel with
  | 0 => none
  | fuel + 1 =>
    match cs with
    | ⟨'[', place⟩ :: rest =>
      if depth + 1 < maxNesting then
        (readItems fuel (depth + 1) rest).map fun (vs, rest) => (.array place vs, rest)
      else none
    | ⟨'{', place⟩ :: rest =>
      if depth + 1 < maxNesting then
        match skip isBlank rest with
        | ⟨'}', _⟩ :: rest => some (.table { place := some place, inline := true } [], rest)
        | rest =>
          let start := { origin := { place := some place, inline := true } }
          (readPairs fuel (depth + 1) start rest).map fun (t, rest) =>
            (.table t.origin t.entries, rest)
      else none
    | ⟨_, place⟩ :: _ => readScalar place cs
    | [] => none

def readItems (fuel depth : Nat) (cs : Input) : Option (List Value × Input) :=
  match fuel with
  | 0 => none
  | fuel + 1 =>
    match skipSpace (cs.length + 1) cs with
    | none => none
    | some (⟨']', _⟩ :: rest) => some ([], rest)
    | some cs =>
      match readValue fuel depth cs with
      | none => none
      | some (v, rest) =>
        match skipSpace (rest.length + 1) rest with
        | some (⟨',', _⟩ :: rest) =>
          (readItems fuel depth rest).map fun (vs, rest) => (v :: vs, rest)
        | some (⟨']', _⟩ :: rest) => some ([v], rest)
        | _ => none

def readPairs (fuel depth : Nat) (t : Table) (cs : Input) : Option (Table × Input) :=
  match fuel with
  | 0 => none
  | fuel + 1 =>
    match readKeys cs with
    | some (path, ⟨'=', _⟩ :: rest) =>
      match readValue fuel depth (skip isBlank rest) with
      | none => none
      | some (v, rest) =>
        match t.define true path v, skip isBlank rest with
        | some t, ⟨',', _⟩ :: rest => readPairs fuel depth t rest
        | some t, ⟨'}', _⟩ :: rest => some (t, rest)
        | _, _ => none
    | _ => none

end

/-! ## Lines -/

inductive Statement where
  | header (path : List Key) (place : Place)
  | arrayHeader (path : List Key) (place : Place)
  | pair (path : List Key) (value : Value)
deriving Repr

def readStatement (cs : Input) : Option (Statement × Input) :=
  match cs with
  | ⟨'[', place⟩ :: ⟨'[', _⟩ :: rest => do
    let (path, rest) ← readKeys rest
    some (.arrayHeader path place, ← finishLine (← readMark ']' (← readMark ']' rest)))
  | ⟨'[', place⟩ :: rest => do
    let (path, rest) ← readKeys rest
    some (.header path place, ← finishLine (← readMark ']' rest))
  | _ => do
    let (path, rest) ← readKeys cs
    let (value, rest) ← readValue (2 * cs.length + 2) 0 (skip isBlank (← readMark '=' rest))
    some (.pair path value, ← finishLine rest)

def readStatements : Nat → Input → Option (List Statement)
  | 0, _ => none
  | fuel + 1, cs =>
    match skip isBlank cs with
    | [] => some []
    | ⟨'#', p⟩ :: rest => do readStatements fuel (← finishLine (⟨'#', p⟩ :: rest))
    | ⟨'\n', _⟩ :: rest => readStatements fuel rest
    | ⟨'\r', _⟩ :: ⟨'\n', _⟩ :: rest => readStatements fuel rest
    | cs => do
      let (s, rest) ← readStatement cs
      let ss ← readStatements fuel rest
      some (s :: ss)

end AppScaffold.Toml

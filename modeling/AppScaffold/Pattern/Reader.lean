import AppScaffold.Pattern.Basic

/-!
# Reading patterns

The written form of patterns: alternatives, sequences, repetition by `*`, `+`, `?` and counts,
groups, character classes, anchors and escapes. A text that is no pattern is refused.
-/

set_option autoImplicit false

namespace AppScaffold.Pattern

def maxCount : Nat := 1000

def anyChar : Pattern := .oneOf true [('\n', '\n')]

/-- What a letter after a backslash stands for: some characters. -/
def classEscape? : Char → Option (Bool × List (Char × Char))
  | 'd' => some (false, [('0', '9')])
  | 'D' => some (true, [('0', '9')])
  | 'w' => some (false, [('A', 'Z'), ('a', 'z'), ('0', '9'), ('_', '_')])
  | 'W' => some (true, [('A', 'Z'), ('a', 'z'), ('0', '9'), ('_', '_')])
  | 's' => some (false, [('\t', '\r'), (' ', ' ')])
  | 'S' => some (true, [('\t', '\r'), (' ', ' ')])
  | _ => none

/-- What a character after a backslash stands for: itself, or a control character. -/
def charEscape? : Char → Option Char
  | 'n' => some '\n'
  | 't' => some '\t'
  | 'r' => some '\r'
  | 'f' => some '\x0c'
  | 'v' => some '\x0b'
  | c => if c.isAlphanum || c == '_' || 127 ≤ c.toNat then none else some c

def classChar : List Char → Option (Char × List Char)
  | [] => none
  | '\\' :: c :: rest => (charEscape? c).map (·, rest)
  | c :: rest => some (c, rest)

/-- The ranges of a class up to its closing bracket; a bracket that comes `first` is a character
of the class. -/
def readRanges : Nat → Bool → List (Char × Char) → List Char →
    Option (List (Char × Char) × List Char)
  | 0, _, _, _ => none
  | fuel + 1, first, acc, cs =>
    match cs with
    | [] => none
    | ']' :: rest =>
      if first then readRanges fuel false ((']', ']') :: acc) rest else some (acc, rest)
    | '[' :: _ => none
    | '\\' :: c :: rest =>
      match classEscape? c with
      | some (false, ranges) => readRanges fuel false (ranges ++ acc) rest
      | some (true, _) => none
      | none =>
        match charEscape? c with
        | some low => afterLow fuel acc low rest
        | none => none
    | low :: rest => afterLow fuel acc low rest
where
  afterLow (fuel : Nat) (acc : List (Char × Char)) (low : Char) (rest : List Char) :
      Option (List (Char × Char) × List Char) :=
    match rest with
    | '-' :: ']' :: _ => readRanges fuel false ((low, low) :: acc) rest
    | '-' :: rest =>
      match classChar rest with
      | some (high, rest) =>
        if low ≤ high then readRanges fuel false ((low, high) :: acc) rest else none
      | none => none
    | _ => readRanges fuel false ((low, low) :: acc) rest

def readNatural (cs : List Char) : Option (Nat × List Char) :=
  let ds := cs.takeWhile Char.isDigit
  if ds.isEmpty then none
  else
    let n := ds.foldl (fun n d => n * 10 + (d.toNat - '0'.toNat)) 0
    if n ≤ maxCount then some (n, cs.dropWhile Char.isDigit) else none

def readCounts (a : Pattern) (cs : List Char) : Option (Pattern × List Char) := do
  let (low, rest) ← readNatural cs
  match rest with
  | '}' :: rest => some (a.times low, rest)
  | ',' :: '}' :: rest => some (.seq (a.times low) (.star a), rest)
  | ',' :: rest =>
    let (high, rest) ← readNatural rest
    match rest with
    | '}' :: rest =>
      if low ≤ high then some (.seq (a.times low) (a.upTo (high - low)), rest) else none
    | _ => none
  | _ => none

/-- The marks of repetition after an item; a question mark behind one does not change what
matches. -/
def readRepeats : Nat → Pattern → List Char → Option (Pattern × List Char)
  | 0, _, _ => none
  | fuel + 1, a, cs =>
    let lazily (p : Pattern) : List Char → Option (Pattern × List Char)
      | '?' :: rest => readRepeats fuel p rest
      | rest => readRepeats fuel p rest
    match cs with
    | '*' :: rest => lazily (.star a) rest
    | '+' :: rest => lazily (plus a) rest
    | '?' :: rest => lazily (optional a) rest
    | '{' :: rest =>
      match readCounts a rest with
      | some (p, rest) => lazily p rest
      | none => none
    | _ => some (a, cs)

mutual

def readAlternatives : Nat → List Char → Option (Pattern × List Char)
  | 0, _ => none
  | fuel + 1, cs =>
    match readSequence fuel cs with
    | some (a, '|' :: rest) => (readAlternatives fuel rest).map fun (b, rest) => (.alt a b, rest)
    | other => other

def readSequence : Nat → List Char → Option (Pattern × List Char)
  | 0, _ => none
  | fuel + 1, cs =>
    match cs with
    | [] => some (.empty, cs)
    | '|' :: _ => some (.empty, cs)
    | ')' :: _ => some (.empty, cs)
    | _ =>
      match readItem fuel cs with
      | none => none
      | some (a, rest) =>
        match readRepeats (rest.length + 1) a rest with
        | none => none
        | some (a, rest) => (readSequence fuel rest).map fun (b, rest) => (.seq a b, rest)

def readItem : Nat → List Char → Option (Pattern × List Char)
  | 0, _ => none
  | fuel + 1, cs =>
    let group (cs : List Char) : Option (Pattern × List Char) :=
      match readAlternatives fuel cs with
      | some (p, ')' :: rest) => some (p, rest)
      | _ => none
    match cs with
    | [] => none
    | '(' :: '?' :: ':' :: rest => group rest
    | '(' :: '?' :: _ => none
    | '(' :: rest => group rest
    | '[' :: '^' :: rest =>
      (readRanges (rest.length + 1) true [] rest).map fun (r, rest) => (.oneOf true r, rest)
    | '[' :: rest =>
      (readRanges (rest.length + 1) true [] rest).map fun (r, rest) => (.oneOf false r, rest)
    | '.' :: rest => some (anyChar, rest)
    | '^' :: rest => some (.start, rest)
    | '$' :: rest => some (.stop, rest)
    | '\\' :: c :: rest =>
      match classEscape? c with
      | some (negated, ranges) => some (.oneOf negated ranges, rest)
      | none => (charEscape? c).map fun c => (char c, rest)
    | c :: rest =>
      if c == '*' || c == '+' || c == '?' || c == '{' || c == '\\' then none
      else some (char c, rest)

end

def ofText? (s : String) : Option Pattern :=
  let cs := s.toList
  match readAlternatives (4 * cs.length + 4) cs with
  | some (p, []) => some p
  | _ => none

end AppScaffold.Pattern

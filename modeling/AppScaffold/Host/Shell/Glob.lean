import AppScaffold.Host.Files
import AppScaffold.Pattern.Basic

/-!
# File name patterns

Patterns in which a star stands for any text, a question mark for any character, and brackets for
one character of a set. What is quoted stands for itself.
-/

set_option autoImplicit false

namespace AppScaffold.Host.Shell.Glob

/-- Characters of a pattern; the flag says that the character is quoted. -/
abbrev Source := List (Char × Bool)

def anyChar : Pattern := .oneOf true []

/-- The ranges of a set up to its closing bracket, which does not come first. -/
def readRanges (first : Bool) : Source → Option (List (Char × Char) × Source)
  | [] => none
  | (']', false) :: rest =>
    if first then (readRanges false rest).map fun (rs, rest) => ((']', ']') :: rs, rest)
    else some ([], rest)
  | (low, _) :: ('-', false) :: (high, quoted) :: rest =>
    if high == ']' && !quoted then some ([(low, low), ('-', '-')], rest)
    else (readRanges false rest).map fun (rs, rest) => ((low, high) :: rs, rest)
  | (c, _) :: rest => (readRanges false rest).map fun (rs, rest) => ((c, c) :: rs, rest)

/-- The pattern that a source writes; `fuel` bounds its length. -/
def readParts : Nat → Source → Pattern
  | 0, _ => .empty
  | _ + 1, [] => .empty
  | fuel + 1, (c, quoted) :: rest =>
    let plain := Pattern.seq (.char c) (readParts fuel rest)
    let set (negated : Bool) (source : Source) : Pattern :=
      match readRanges true source with
      | some (ranges, rest) => .seq (.oneOf negated ranges) (readParts fuel rest)
      | none => plain
    if quoted then plain
    else if c == '*' then .seq (.star anyChar) (readParts fuel rest)
    else if c == '?' then .seq anyChar (readParts fuel rest)
    else if c == '[' then
      match rest with
      | ('!', false) :: source => set true source
      | ('^', false) :: source => set true source
      | source => set false source
    else plain

def ofSource (source : Source) : Pattern := readParts (source.length + 1) source

def fits (p : Pattern) (cs : List Char) : Bool := (Pattern.whole p).matchesFrom true cs

def dropStart (longest : Bool) (p : Pattern) (cs : List Char) : List Char :=
  let lengths := List.range (cs.length + 1)
  let tries := if longest then lengths.reverse else lengths
  match tries.find? fun n => fits p (cs.take n) with
  | some n => cs.drop n
  | none => cs

def dropEnd (longest : Bool) (p : Pattern) (cs : List Char) : List Char :=
  let lengths := List.range (cs.length + 1)
  let tries := if longest then lengths else lengths.reverse
  match tries.find? fun n => fits p (cs.drop n) with
  | some n => cs.take n
  | none => cs

/-! ## Paths -/

def isPattern (source : Source) : Bool :=
  source.any fun (c, quoted) => !quoted && (c == '*' || c == '?' || c == '[')

def text (source : Source) : String := .ofList (source.map fun c => c.1)

def components : Source → List Source
  | [] => [[]]
  | c :: rest =>
    if c.1 == '/' then [] :: components rest
    else
      match components rest with
      | [] => [[c]]
      | first :: others => (c :: first) :: others

/-- The names in a directory that a pattern fits, in order. A dot at the start of a name has to be
in the pattern. -/
def namesIn (fs : Files) (dir : String) (source : Source) : List String :=
  let hidden := source.head?.any (·.1 == '.')
  let names := match fs.node? dir with
    | some (.dir children) => (if hidden then [".", ".."] else []) ++ children.map Prod.fst
    | _ => []
  let pattern := ofSource source
  let fitting := names.filter fun n =>
    Text.startsWith n "." == hidden && fits pattern n.toList
  fitting.mergeSort fun a b => decide (a ≤ b)

/-- The paths that begin with `start` and go on with names that fit these sources. -/
def pathsFrom (fs : Files) (start : String) : List Source → List String
  | [] => [start]
  | source :: rest =>
    let names :=
      if isPattern source then namesIn fs (if start.isEmpty then "." else start) source
      else [text source]
    names.flatMap fun name =>
      match rest with
      | [] => if fs.exists? (start ++ name) then [start ++ name] else []
      | rest =>
        if fs.isDir (start ++ name ++ "/") then pathsFrom fs (start ++ name ++ "/") rest else []

/-- The paths that a source fits, or its own text if there are none. -/
def paths (fs : Files) (source : Source) : List String :=
  let found := if isPattern source then
      pathsFrom fs "" (components source)
    else []
  if found.isEmpty then [text source] else found

end AppScaffold.Host.Shell.Glob

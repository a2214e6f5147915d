/-!
# Splitting and joining text

Cutting a list of characters at a separator, joining pieces, and literal replacement.
-/

set_option autoImplicit false

namespace AppScaffold.Text

/-- Cuts at every occurrence of a separator; the pieces may be empty. -/
def splitBy (sep : Char → Bool) : List Char → List (List Char)
  | [] => [[]]
  | c :: cs =>
    if sep c then [] :: splitBy sep cs
    else
      match splitBy sep cs with
      | [] => [[c]]
      | piece :: rest => (c :: piece) :: rest

def splitOn (sep : Char) (s : String) : List String :=
  (splitBy (· == sep) s.toList).map String.ofList

/-- The lines of a text: a final line feed closes the last line, and a carriage return before a
line feed belongs to the line end. -/
def lines (s : String) : List String :=
  let pieces := splitBy (· == '\n') s.toList
  let closed := pieces.dropLast.map fun p => if p.getLast? == some '\r' then p.dropLast else p
  let tail := match pieces.getLast? with
    | some [] => []
    | some p => [p]
    | none => []
  (closed ++ tail).map String.ofList

def joinWith (sep : String) : List String → String
  | [] => ""
  | [s] => s
  | s :: rest => s ++ sep ++ joinWith sep rest

def dropLiteral? {α : Type} [BEq α] : List α → List α → Option (List α)
  | [], cs => some cs
  | _ :: _, [] => none
  | p :: ps, c :: cs => if p == c then dropLiteral? ps cs else none

/-- What comes before and after the first occurrence of a part. -/
def cutAt? {α : Type} [BEq α] (part : List α) : List α → Option (List α × List α)
  | [] => (dropLiteral? part []).map fun rest => ([], rest)
  | c :: cs =>
    match dropLiteral? part (c :: cs) with
    | some rest => some ([], rest)
    | none => (cutAt? part cs).map fun (a, b) => (c :: a, b)

def startsWith (s start : String) : Bool := (dropLiteral? start.toList s.toList).isSome

def contains (s part : String) : Bool :=
  let rec search (cs : List Char) : Bool :=
    (dropLiteral? part.toList cs).isSome ||
      match cs with
      | [] => false
      | _ :: rest => search rest
  search s.toList

/-- Splits at the first occurrence of a character. -/
def cut? (sep : Char) : List Char → Option (List Char × List Char)
  | [] => none
  | c :: cs => if c == sep then some ([], cs) else (cut? sep cs).map fun (a, b) => (c :: a, b)

def repeated (n : Nat) (s : String) : String := String.join (List.replicate n s)

def isAsciiAlnum (c : Char) : Bool := c.isAlphanum

end AppScaffold.Text

/-!
# Versions of the form x.y.z

Three numbers between points, then optionally a hyphen with pre-release identifiers and a plus
sign with build identifiers.
-/

set_option autoImplicit false

namespace AppScaffold.Check.Semver

/-- Numbers fit in 64 bits. -/
def maxNumber : Nat := 0xFFFFFFFFFFFFFFFF

/-- The digits at the start, unless there are none or they start with a needless zero. -/
def number? (cs : List Char) : Option (Nat × List Char) :=
  let ds := cs.takeWhile Char.isDigit
  let n := ds.foldl (fun n d => n * 10 + (d.toNat - '0'.toNat)) 0
  if ds.isEmpty || (ds.head? == some '0' && 1 < ds.length) || maxNumber < n then none
  else some (n, cs.dropWhile Char.isDigit)

def point? : List Char → Option (List Char)
  | '.' :: cs => some cs
  | _ => none

def isIdentifierChar (c : Char) : Bool := c.isAlphanum || c == '-'

/-- Identifiers between points up to the first other character; a number among them starts with a
needless zero only if `zeros` allows it. -/
def identifiers? (zeros : Bool) (cs : List Char) : Option (List Char) :=
  let run := cs.takeWhile fun c => isIdentifierChar c || c == '.'
  if (pieces run).all accepted then some (cs.drop run.length) else none
where
  pieces (run : List Char) : List (List Char) :=
    run.foldr (fun c acc =>
      if c == '.' then [] :: acc
      else match acc with
        | [] => [[c]]
        | p :: ps => (c :: p) :: ps) [[]]
  accepted (piece : List Char) : Bool :=
    !piece.isEmpty &&
      (zeros || !(piece.all Char.isDigit && piece.head? == some '0' && 1 < piece.length))

def parses (s : String) : Bool :=
  (do
    let (_, cs) ← number? s.toList
    let (_, cs) ← number? (← point? cs)
    let (_, cs) ← number? (← point? cs)
    let cs ← match cs with
      | '-' :: rest => identifiers? false rest
      | cs => some cs
    let cs ← match cs with
      | '+' :: rest => identifiers? true rest
      | cs => some cs
    if cs.isEmpty then some () else none).isSome

end AppScaffold.Check.Semver

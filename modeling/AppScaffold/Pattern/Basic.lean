/-!
# Patterns

Regular expressions with anchors at the two ends of a text, matched by derivatives. `Pattern.find`
says whether some part of a text matches. The end anchor holds at the very end only, not before a
final line end.
-/

set_option autoImplicit false

namespace AppScaffold

inductive Pattern where
  | never
  | empty
  | start
  | stop
  /-- One character in one of the ranges, or in none of them when `negated`. -/
  | oneOf (negated : Bool) (ranges : List (Char × Char))
  | seq (a b : Pattern)
  | alt (a b : Pattern)
  | star (a : Pattern)
deriving DecidableEq, Repr, Inhabited

namespace Pattern

def inRanges (ranges : List (Char × Char)) (c : Char) : Bool :=
  ranges.any fun r => r.1 ≤ c && c ≤ r.2

/-- Whether the pattern matches the empty text at a position; the two flags say whether the
position is the start and the end of the whole text. -/
def nullable (atStart atStop : Bool) : Pattern → Bool
  | .never => false
  | .empty => true
  | .start => atStart
  | .stop => atStop
  | .oneOf _ _ => false
  | .seq a b => a.nullable atStart atStop && b.nullable atStart atStop
  | .alt a b => a.nullable atStart atStop || b.nullable atStart atStop
  | .star _ => true

/-- A sequence, without parts that match the empty text or nothing. -/
def seqOf : Pattern → Pattern → Pattern
  | .never, _ => .never
  | .empty, b => b
  | a, b => .seq a b

def altOf : Pattern → Pattern → Pattern
  | .never, b => b
  | a, .never => a
  | a, b => .alt a b

/-- The pattern of what may follow `c` in a match that starts with it. -/
def derive (atStart : Bool) (c : Char) : Pattern → Pattern
  | .never => .never
  | .empty => .never
  | .start => .never
  | .stop => .never
  | .oneOf negated ranges => if inRanges ranges c != negated then .empty else .never
  | .seq a b =>
    let first := seqOf (a.derive atStart c) b
    if a.nullable atStart false then altOf first (b.derive atStart c) else first
  | .alt a b => altOf (a.derive atStart c) (b.derive atStart c)
  | .star a => seqOf (a.derive atStart c) (.star a)

/-- Whether some start of the text matches. -/
def matchesFrom (atStart : Bool) : Pattern → List Char → Bool
  | .never, _ => false
  | p, [] => p.nullable atStart true
  | p, c :: cs => p.nullable atStart false || matchesFrom false (p.derive atStart c) cs

/-- Whether a match starts at some position from here on. -/
def findFrom (atStart : Bool) (p : Pattern) : List Char → Bool
  | [] => p.matchesFrom atStart []
  | c :: cs => p.matchesFrom atStart (c :: cs) || p.findFrom false cs

def find (p : Pattern) (s : String) : Bool := p.findFrom true s.toList

def char (c : Char) : Pattern := .oneOf false [(c, c)]

def plus (a : Pattern) : Pattern := .seq a (.star a)

def optional (a : Pattern) : Pattern := .alt a .empty

def times (a : Pattern) : Nat → Pattern
  | 0 => .empty
  | n + 1 => .seq a (a.times n)

def upTo (a : Pattern) : Nat → Pattern
  | 0 => .empty
  | n + 1 => optional (.seq a (a.upTo n))

def sequence : List Pattern → Pattern
  | [] => .empty
  | [p] => p
  | p :: ps => .seq p (sequence ps)

def whole (p : Pattern) : Pattern := .seq .start (.seq p .stop)

/-! ## The patterns of this library -/

def letter : Pattern := .oneOf false [('A', 'Z'), ('a', 'z')]

def wordChar : Pattern := .oneOf false [('A', 'Z'), ('a', 'z'), ('0', '9'), ('_', '_')]

/-- A letter followed by letters, digits and underscores. -/
def word : Pattern := .seq letter (.star wordChar)

def identifier : Pattern := whole word

/-- Two or more words between dots. -/
def reverseDomain : Pattern := whole (.seq word (plus (.seq (char '.') word)))

end Pattern

end AppScaffold

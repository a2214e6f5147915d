import AppScaffold.Text.Space
import AppScaffold.Text.Split

/-!
# Byte ranges

The part of a file that a request asks for. Ranges are counted from the start of the file, or from
its end; they are satisfied together or not at all.
-/

set_option autoImplicit false

namespace AppScaffold.Web

inductive AskedRange where
  | between (first last : Nat)
  | startingAt (first : Nat)
  /-- The last `count` bytes. -/
  | ending (count : Nat)
deriving DecidableEq, Repr, Inhabited

/-- Bytes from `first` to `last`, both included. -/
structure ByteRange where
  first : Nat
  last : Nat
deriving DecidableEq, Repr, Inhabited

namespace ByteRange

def maxNumber : Nat := 0xFFFFFFFFFFFFFFFF

/-- A decimal number of one or more digits, without zeros before it. -/
def number? (cs : List Char) : Option Nat :=
  if cs.isEmpty || !cs.all Char.isDigit || (cs.head? == some '0' && cs.length != 1) then none
  else
    let n := cs.foldl (fun n c => 10 * n + (c.toNat - 48)) 0
    if n ≤ maxNumber then some n else none

def asked? (cs : List Char) : Option AskedRange := do
  match ← Text.cut? '-' cs with
  | ([], count) => return .ending (← number? count)
  | (first, []) => return .startingAt (← number? first)
  | (first, last) => return .between (← number? first) (← number? last)

/-- One of the ranges of a list. There may be one blank, and none at the end. -/
def listed? (cs : List Char) : Option AskedRange :=
  if cs.getLast?.any Text.isSpace || 1 < cs.countP Text.isSpace then none
  else asked? (Text.trim cs)

/-- The ranges that a header asks for; there is at least one. -/
def askedRanges? (header : String) : Option (List AskedRange) := do
  let list ← Text.dropLiteral? "bytes=".toList header.toList
  if list.head?.any Text.isSpace then none
  else (Text.splitBy (· == ',') list).mapM listed?

/-- The bytes of a file of this size that are meant. An empty file has its first byte all the
same, so that all of it can be asked for. -/
def ofAsked? (size : Nat) (asked : AskedRange) : Option ByteRange :=
  let (first, last) := match asked with
    | .between first last => (first, min last (size - 1))
    | .startingAt first => (first, size - 1)
    | .ending count => (size - count, size - 1)
  let reaches := match asked with
    | .ending count => 0 < count && count ≤ size
    | _ => true
  if reaches && first ≤ last then some ⟨first, last⟩ else none

def meets (a b : ByteRange) : Bool := a.first ≤ b.last && b.first ≤ a.last

def disjoint : List ByteRange → Bool
  | [] => true
  | r :: rest => rest.all (!r.meets ·) && disjoint rest

def satisfied? (header : String) (size : Nat) : Option (List ByteRange) := do
  let ranges ← (← askedRanges? header).mapM (ofAsked? size)
  if disjoint ranges then return ranges else none

def slice (r : ByteRange) (bytes : ByteArray) : ByteArray := bytes.extract r.first (r.last + 1)

end ByteRange

end AppScaffold.Web

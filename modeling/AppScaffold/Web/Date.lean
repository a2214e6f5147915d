import AppScaffold.Text.Space
import AppScaffold.Text.Split

/-!
# Dates in headers

The three notations of a date that headers may use, all of Greenwich time:
`Sun, 06 Nov 1994 08:49:37 GMT`, `Sunday, 06-Nov-94 08:49:37 GMT` and `Sun Nov  6 08:49:37 1994`.
-/

set_option autoImplicit false

namespace AppScaffold.Web

structure Date where
  year : Nat
  /-- From zero on. -/
  month : Nat
  day : Nat
  hour : Nat
  minute : Nat
  second : Nat
deriving DecidableEq, Repr, Inhabited

namespace Date

def weekdays : List String :=
  ["Monday", "Tuesday", "Wednesday", "Thursday", "Friday", "Saturday", "Sunday"]

def shortWeekdays : List String := weekdays.map fun name => .ofList (name.toList.take 3)

def months : List String :=
  ["Jan", "Feb", "Mar", "Apr", "May", "Jun", "Jul", "Aug", "Sep", "Oct", "Nov", "Dec"]

def daysBefore : List Nat := [0, 31, 59, 90, 120, 151, 181, 212, 243, 273, 304, 334]

/-! ## Parts of a date -/

def digits? (n : Nat) (cs : List Char) : Option (Nat × List Char) :=
  let digits := cs.take n
  if digits.length == n && digits.all Char.isDigit then
    some (digits.foldl (fun v c => 10 * v + (c.toNat - 48)) 0, cs.drop n)
  else none

/-- The place of the name that a text starts with, between `before` and `after`, and the rest. -/
def name? (names : List String) (before after : String) (cs : List Char) :
    Option (Nat × List Char) :=
  (names.zipIdx).findSome? fun (name, i) =>
    (Text.dropLiteral? (before ++ name ++ after).toList cs).map (i, ·)

structure Clock where
  hour : Nat
  minute : Nat
  second : Nat

def clock? (cs : List Char) : Option (Clock × List Char) := do
  let (hour, cs) ← digits? 2 cs
  let (minute, cs) ← digits? 2 (← Text.dropLiteral? [':'] cs)
  let (second, cs) ← digits? 2 (← Text.dropLiteral? [':'] cs)
  return (⟨hour, minute, second⟩, cs)

/-! ## The notations -/

def fixed? (cs : List Char) : Option Date := do
  let (_, cs) ← name? shortWeekdays "" ", " cs
  let (day, cs) ← digits? 2 cs
  let (month, cs) ← name? months " " " " cs
  let (year, cs) ← digits? 4 cs
  let (time, cs) ← clock? (← Text.dropLiteral? [' '] cs)
  if cs == " GMT".toList then return ⟨year, month, day, time.hour, time.minute, time.second⟩
  else none

/-- Years of two digits are those from 1970 to 2069. -/
def dashed? (cs : List Char) : Option Date := do
  let (_, cs) ← name? weekdays "" ", " cs
  let (day, cs) ← digits? 2 cs
  let (month, cs) ← name? months "-" "-" cs
  let (year, cs) ← digits? 2 cs
  let (time, cs) ← clock? (cs.drop 1)
  let year := if year < 70 then 2000 + year else 1900 + year
  if cs == " GMT".toList then return ⟨year, month, day, time.hour, time.minute, time.second⟩
  else none

/-- The day has two digits or a blank and one. -/
def plain? (cs : List Char) : Option Date := do
  let (_, cs) ← name? shortWeekdays "" " " cs
  let (month, cs) ← name? months "" " " cs
  let (day, cs) ← match cs with
    | ' ' :: cs => digits? 1 cs
    | cs => digits? 2 cs
  let (time, cs) ← clock? (← Text.dropLiteral? [' '] cs)
  let (year, cs) ← digits? 4 (← Text.dropLiteral? [' '] cs)
  if cs.isEmpty then return ⟨year, month, day, time.hour, time.minute, time.second⟩ else none

/-- A date that the calendar may have: a day that its month lacks is one of the next month. -/
def isValid (d : Date) : Bool :=
  d.second < 60 && d.minute < 60 && d.hour < 24 && 0 < d.day && d.day < 32 && 1970 ≤ d.year

def ofText? (s : String) : Option Date := do
  let cs := Text.trim s.toList
  let date ← (fixed? cs).or ((dashed? cs).or (plain? cs))
  if date.isValid then return date else none

/-! ## The calendar -/

def isLeap (year : Nat) : Bool := year % 4 == 0 && (year % 100 != 0 || year % 400 == 0)

def leapDays (year : Nat) : Nat :=
  ((year - 1) / 4 - (year - 1) / 100 + (year - 1) / 400) - (1969 / 4 - 1969 / 100 + 1969 / 400)

def days (d : Date) : Nat :=
  (d.year - 1970) * 365 + leapDays d.year + (daysBefore[d.month]?.getD 0) + (d.day - 1) +
    if isLeap d.year && 1 < d.month then 1 else 0

def seconds (d : Date) : Nat := ((d.days * 24 + d.hour) * 60 + d.minute) * 60 + d.second

end Date

end AppScaffold.Web

import AppScaffold.Number.Binary

/-!
# Shortest decimals

The decimal with the fewest digits among those that a binary number is the nearest one to, the
nearest of these, and its text. `DecimalStyle` says where positional text ends.
-/

set_option autoImplicit false

namespace AppScaffold.Number

/-- The number `0.d₁d₂… * 10 ^ point`. -/
structure Decimal where
  digits : List Char
  point : Int
deriving DecidableEq, Repr, Inhabited

/-- The decimals that round to a binary number lie between `low / den` and `high / den`; the ends
are among them when `closed` holds. -/
structure Neighbourhood where
  value : Nat
  low : Nat
  high : Nat
  den : Nat
  closed : Bool

/-- All numbers between the halves to the two neighbours. The one below is half as far when the
mantissa is the least of its exponent. -/
def neighbourhood (x : Binary) (least : Bool) : Neighbourhood :=
  let e := x.exponent - 2
  let up := Nat.pow 2 e.toNat
  { value := 4 * x.mantissa * up
    low := (4 * x.mantissa - (if least then 1 else 2)) * up
    high := (4 * x.mantissa + 2) * up
    den := Nat.pow 2 (-e).toNat
    closed := x.mantissa % 2 == 0 }

def Neighbourhood.holds (h : Neighbourhood) (num den : Nat) : Bool :=
  let a := num * h.den
  let l := h.low * den
  let u := h.high * den
  if h.closed then l ≤ a && a ≤ u else l < a && a < u

/-- The exponent `k` with `10 ^ k ≤ num / den < 10 ^ (k + 1)`. -/
def decimalExponent (num den : Nat) : Int :=
  if den ≤ num then ((Nat.repr (num / den)).length : Int) - 1
  else
    let c := (den + num - 1) / num
    if c ≤ 1 then 0 else Int.negOfNat (Nat.repr (c - 1)).length

def Neighbourhood.onGrid? (h : Neighbourhood) (unit : Int) : Option Nat :=
  let up := Nat.pow 10 unit.toNat
  let down := Nat.pow 10 (-unit).toNat
  -- the value in units of the grid is `num / den`
  let num := h.value * down
  let den := h.den * up
  let d := num / den
  let inside (k : Nat) : Bool := h.holds (k * up) down
  match inside d, inside (d + 1) with
  | true, true => some (roundQuotient num den)
  | true, false => some d
  | false, true => some (d + 1)
  | false, false => none

/-- Tries one digit more at a time; `more` bounds how many. -/
def shortestFrom (h : Neighbourhood) (top : Int) : Nat → Nat → Decimal
  | 0, digits => ⟨(Nat.repr (h.value / h.den)).toList, digits⟩
  | more + 1, digits =>
    match h.onGrid? (top - digits + 1) with
    | some k =>
      let ds := (Nat.repr k).toList
      let kept := (ds.reverse.dropWhile (· == '0')).reverse
      ⟨kept, top - digits + 1 + ds.length⟩
    | none => shortestFrom h top more (digits + 1)

/-- The shortest decimal of a positive number; seventeen digits are enough for 53 bits. -/
def shortest (x : Binary) (least : Bool) : Decimal :=
  let h := neighbourhood x least
  shortestFrom h (decimalExponent h.value h.den) 17 1

/-- How a decimal is written: positional while its point lies within the two bounds. -/
structure DecimalStyle where
  /-- The greatest point of positional text; there is none when every number is positional. -/
  lastPoint : Option Int
  /-- Positional text starts above this point. -/
  belowPoint : Option Int
  /-- Whether an integer keeps `.0`. -/
  fraction : Bool
  positiveMark : String

namespace DecimalStyle

/-- Sixteen places at most before the point, four zeros at most after it, and a signed exponent. -/
def json : DecimalStyle := ⟨some 16, some (-5), true, "e+"⟩

def plain : DecimalStyle := ⟨none, none, false, ""⟩

def pointed : DecimalStyle := { plain with fraction := true }

def write (style : DecimalStyle) (d : Decimal) : String :=
  let n : Int := d.digits.length
  let zeros (k : Int) : List Char := List.replicate k.toNat '0'
  let positional := (style.lastPoint.all (d.point ≤ ·)) && (style.belowPoint.all (· < d.point))
  if positional then
    if n ≤ d.point then
      String.ofList (d.digits ++ zeros (d.point - n)) ++ if style.fraction then ".0" else ""
    else if 0 < d.point then
      String.ofList (d.digits.take d.point.toNat ++ '.' :: d.digits.drop d.point.toNat)
    else String.ofList ('0' :: '.' :: (zeros (-d.point) ++ d.digits))
  else
    let e := d.point - 1
    let mark :=
      if 0 ≤ e then style.positiveMark ++ Nat.repr e.toNat else "e-" ++ Nat.repr (-e).toNat
    let body := match d.digits with
      | [] => []
      | [c] => [c]
      | c :: rest => c :: '.' :: rest
    String.ofList body ++ mark

end DecimalStyle

end AppScaffold.Number

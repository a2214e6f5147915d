/-!
# Binary floating point by integers

Non-negative numbers `m * 2 ^ e`, the results of their arithmetic rounded to a number of bits, and
their text with a fixed count of decimal places. Every rounding goes to the nearest number, a tie
to the even one. The range of exponents is not bounded here.
-/

set_option autoImplicit false

namespace AppScaffold.Number

/-- The nearest integer to `num / den`, of two equally near the even one. -/
def roundQuotient (num den : Nat) : Nat :=
  let q := num / den
  let r := num % den
  if den < 2 * r ∨ (2 * r = den ∧ q % 2 = 1) then q + 1 else q

/-- The number `mantissa * 2 ^ exponent`. -/
structure Binary where
  mantissa : Nat
  exponent : Int
deriving DecidableEq, Repr, Inhabited

namespace Binary

def num (x : Binary) : Nat := x.mantissa * Nat.pow 2 x.exponent.toNat

def den (x : Binary) : Nat := Nat.pow 2 (-x.exponent).toNat

/-- The number of `bits` bits nearest to `num / den`. -/
def ofQuotient (bits num den : Nat) : Binary :=
  if num = 0 then ⟨0, 0⟩
  else
    let low : Int := (Nat.log2 num : Int) - (Nat.log2 den : Int) - bits
    let at_ (e : Int) : Nat × Nat := (num * Nat.pow 2 (-e).toNat, den * Nat.pow 2 e.toNat)
    let (n, d) := at_ low
    let e := if Nat.pow 2 bits * d ≤ n then low + 1 else low
    let (n, d) := at_ e
    ⟨roundQuotient n d, e⟩

def ofNat (bits n : Nat) : Binary := ofQuotient bits n 1

def add (bits : Nat) (x y : Binary) : Binary :=
  ofQuotient bits (x.num * y.den + y.num * x.den) (x.den * y.den)

def mul (bits : Nat) (x y : Binary) : Binary := ofQuotient bits (x.num * y.num) (x.den * y.den)

def div (bits : Nat) (x y : Binary) : Binary := ofQuotient bits (x.num * y.den) (x.den * y.num)

def rem (bits : Nat) (x y : Binary) : Binary :=
  ofQuotient bits ((x.num * y.den) % (y.num * x.den)) (x.den * y.den)

def lt (x y : Binary) : Bool := decide (x.num * y.den < y.num * x.den)

def floor (x : Binary) : Nat := x.num / x.den

/-- The nearest integer, of two equally near the greater one. -/
def roundUpHalf (x : Binary) : Nat := (2 * x.num + x.den) / (2 * x.den)

def fixed (places : Nat) (x : Binary) : String :=
  let scaled := roundQuotient (x.num * Nat.pow 10 places) x.den
  let digits := (Nat.repr scaled).toList
  let padded := List.replicate (places + 1 - digits.length) '0' ++ digits
  let whole := padded.length - places
  if places = 0 then String.ofList padded
  else String.ofList (padded.take whole ++ '.' :: padded.drop whole)

end Binary

end AppScaffold.Number

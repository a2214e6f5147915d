import AppScaffold.Number.Shortest

/-!
# Doubles by their bits

A double is its 64 bits. This module takes them apart, orders all doubles, and writes a double as
the shortest decimal that reads back.
-/

set_option autoImplicit false

namespace AppScaffold.Number

structure Double where
  bits : UInt64
deriving DecidableEq, Repr, Inhabited

namespace Double

def leadingBit : Nat := 0x10000000000000

def signMark : Nat := 0x8000000000000000

def ofFloat (x : Float) : Double := ⟨x.toBits⟩

def toFloat (x : Double) : Float := Float.ofBits x.bits

def isNegative (x : Double) : Bool := x.bits.toNat / signMark == 1

def rawExponent (x : Double) : Nat := x.bits.toNat / leadingBit % 2048

def rawMantissa (x : Double) : Nat := x.bits.toNat % leadingBit

def isNaN (x : Double) : Bool := x.rawExponent == 2047 && x.rawMantissa != 0

def isInfinite (x : Double) : Bool := x.rawExponent == 2047 && x.rawMantissa == 0

def isFinite (x : Double) : Bool := x.rawExponent != 2047

def magnitude (x : Double) : Binary :=
  if x.rawExponent = 0 then ⟨x.rawMantissa, -1074⟩
  else ⟨leadingBit + x.rawMantissa, (x.rawExponent : Int) - 1075⟩

/-- The double with a magnitude of at most 53 bits in the normal range. -/
def ofBinary (x : Binary) : Double :=
  if x.mantissa = 0 then ⟨0⟩
  else
    let shift := 52 - (Nat.log2 x.mantissa : Int)
    let m := x.mantissa * Nat.pow 2 shift.toNat / Nat.pow 2 (-shift).toNat
    let e := (x.exponent - shift + 1075).toNat
    ⟨(e * leadingBit + (m - leadingBit)).toUInt64⟩

def signBit (negative : Bool) : Nat := if negative then signMark else 0

def infinite (negative : Bool) : Double := ⟨(signBit negative + 2047 * leadingBit).toUInt64⟩

def undefined (negative : Bool) : Double :=
  ⟨(signBit negative + 2047 * leadingBit + leadingBit / 2).toUInt64⟩

def ofQuotient (negative : Bool) (num den : Nat) : Double :=
  let x := Binary.ofQuotient 53 num den
  -- the greatest mantissa may have been rounded up to the next power of two
  let top := x.exponent + Nat.log2 x.mantissa
  if x.mantissa = 0 then ⟨(signBit negative).toUInt64⟩
  else if 1023 < top then infinite negative
  else if top < -1022 then ⟨(signBit negative + roundQuotient (num * Nat.pow 2 1074) den).toUInt64⟩
  else ⟨(signBit negative + (ofBinary x).bits.toNat).toUInt64⟩

def ofDecimal (negative : Bool) (digits : Nat) (e : Int) : Double :=
  let top := e + (Nat.repr digits).length
  if digits = 0 || top < -400 then ⟨(signBit negative).toUInt64⟩
  else if 400 < top then infinite negative
  else ofQuotient negative (digits * Nat.pow 10 e.toNat) (Nat.pow 10 (-e).toNat)

/-- A key that orders all doubles: negative NaN, negative numbers, the two zeros, positive
numbers, positive NaN. -/
def orderKey (x : Double) : Int :=
  let n : Int := x.bits.toNat % signMark
  if x.isNegative then -n - 1 else n

def totalLe (x y : Double) : Bool := decide (x.orderKey ≤ y.orderKey)

def write (style : DecimalStyle) (x : Double) : String :=
  let sign := if x.isNegative then "-" else ""
  if x.isNaN then "NaN"
  else if x.isInfinite then sign ++ "inf"
  else if x.magnitude.mantissa = 0 then sign ++ (if style.fraction then "0.0" else "0")
  else
    let least := x.rawMantissa == 0 && 1 < x.rawExponent
    sign ++ style.write (shortest x.magnitude least)

end Double

end AppScaffold.Number

/-!
# Bytes as text

Text as bytes, and bytes as text. Bytes that are no text come out as replacement characters, one
for each longest start of a character that breaks off, and one for each byte that starts none.
-/

set_option autoImplicit false

namespace AppScaffold.Text

def replacement : Char := '\uFFFD'

/-- The number of bytes that follow a first byte, the bounds of the second byte, and the bits that
the first byte contributes. -/
def leadByte? (b : UInt8) : Option (Nat × Nat × Nat × Nat) :=
  let n := b.toNat
  if n < 0x80 then some (0, 0, 0, n)
  else if n < 0xC2 then none
  else if n < 0xE0 then some (1, 0x80, 0xBF, n % 32)
  else if n == 0xE0 then some (2, 0xA0, 0xBF, 0)
  else if n == 0xED then some (2, 0x80, 0x9F, 13)
  else if n < 0xF0 then some (2, 0x80, 0xBF, n % 16)
  else if n == 0xF0 then some (3, 0x90, 0xBF, 0)
  else if n < 0xF4 then some (3, 0x80, 0xBF, n % 8)
  else if n == 0xF4 then some (3, 0x80, 0x8F, 4)
  else none

/-- A character being read: the bytes still missing, the bounds of the next one, the bits so far. -/
structure Partial where
  missing : Nat
  low : Nat
  high : Nat
  bits : Nat

/-- The characters that a byte starts or stands for on its own, and what it leaves open. -/
def startChar (b : UInt8) : List Char × Option Partial :=
  match leadByte? b with
  | none => ([replacement], none)
  | some (0, _, _, bits) => ([Char.ofNat bits], none)
  | some (missing, low, high, bits) => ([], some ⟨missing, low, high, bits⟩)

def decodeFrom : Option Partial → List UInt8 → List Char
  | none, [] => []
  | some _, [] => [replacement]
  | none, b :: bs =>
    let (cs, state) := startChar b
    cs ++ decodeFrom state bs
  | some p, b :: bs =>
    let n := b.toNat
    if p.low ≤ n && n ≤ p.high then
      let bits := p.bits * 64 + n % 64
      if p.missing ≤ 1 then Char.ofNat bits :: decodeFrom none bs
      else decodeFrom (some ⟨p.missing - 1, 0x80, 0xBF, bits⟩) bs
    else
      let (cs, state) := startChar b
      replacement :: cs ++ decodeFrom state bs

/-- The text of bytes, with replacement characters where they are none. -/
def decodeLossy (bytes : ByteArray) : String :=
  match String.fromUTF8? bytes with
  | some s => s
  | none => String.ofList (decodeFrom none bytes.toList)

end AppScaffold.Text

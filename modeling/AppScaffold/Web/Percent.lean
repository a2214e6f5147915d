import AppScaffold.Text.Utf8

/-!
# Percent encoding

Bytes written as a percent sign and two hexadecimal digits. A percent sign without two digits
stands for itself.
-/

set_option autoImplicit false

namespace AppScaffold.Web

def hexDigit? (b : UInt8) : Option UInt8 :=
  if 48 ≤ b && b ≤ 57 then some (b - 48)
  else if 65 ≤ b && b ≤ 70 then some (b - 55)
  else if 97 ≤ b && b ≤ 102 then some (b - 87)
  else none

def hexPair? (high low : UInt8) : Option UInt8 := do
  return (← hexDigit? high) * 16 + (← hexDigit? low)

def percentDecode : List UInt8 → List UInt8
  | 37 :: high :: low :: rest =>
    match hexPair? high low with
    | some b => b :: percentDecode rest
    | none => 37 :: percentDecode (high :: low :: rest)
  | b :: rest => b :: percentDecode rest
  | [] => []

def decodedBytes (s : String) : ByteArray := ⟨(percentDecode s.toUTF8.toList).toArray⟩

/-- The text behind percent signs, if the bytes are a text. -/
def decoded? (s : String) : Option String := String.fromUTF8? (decodedBytes s)

/-- The text of one side of a form field, in which a plus sign is a blank. -/
def decodedField (s : String) : String :=
  Text.decodeLossy (decodedBytes (s.map fun c => if c == '+' then ' ' else c))

end AppScaffold.Web

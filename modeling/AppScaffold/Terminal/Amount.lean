import AppScaffold.Telemetry.Registry

/-!
# Amounts for the eye

Lengths of time, sizes and counts as a terminal shows them. The unit is chosen before the number
is rounded. Times are numbers of 24 bits, sizes of 53.
-/

set_option autoImplicit false

namespace AppScaffold.Terminal

open Number (Binary DecimalStyle shortest)
open Telemetry (Duration)

/-- A natural number of 24 bits with as few significant digits as tell it apart. -/
def wholeNumber (n : Nat) : String :=
  let x := Binary.ofNat 24 n
  if x.mantissa = 0 then "0" else DecimalStyle.plain.write (shortest x (x.mantissa == 0x800000))

def duration (d : Duration) : String :=
  let seconds := d.toSeconds 24
  if seconds.lt (.ofNat 24 1) then (Binary.mul 24 seconds (.ofNat 24 1000)).fixed 0 ++ "ms"
  else if seconds.lt (.ofNat 24 60) then seconds.fixed 1 ++ "s"
  else
    let minutes := (Binary.div 24 seconds (.ofNat 24 60)).floor
    wholeNumber minutes ++ "m " ++ (Binary.rem 24 seconds (.ofNat 24 60)).fixed 0 ++ "s"

def kilobyte : Nat := 1024

def megabyte : Nat := 1024 * kilobyte

def size (bytes : Nat) : String :=
  let quotient (unit : Nat) : Binary := Binary.div 53 (.ofNat 53 bytes) (.ofNat 53 unit)
  if megabyte ≤ bytes then (quotient megabyte).fixed 2 ++ " MB"
  else if kilobyte ≤ bytes then (quotient kilobyte).fixed 1 ++ " KB"
  else Nat.repr bytes ++ " B"

def count (n : Nat) (singular plural : String) : String :=
  Nat.repr n ++ " " ++ if n = 1 then singular else plural

end AppScaffold.Terminal

import AppScaffold.Json.Value

/-!
# Histograms

The last samples under a name, and their statistics. Samples are compared in the total order of
doubles, and a percentile is always one of the samples.
-/

set_option autoImplicit false

namespace AppScaffold.Telemetry

open Number (Double Binary)

/-- The greatest number of samples that are kept. -/
def window : Nat := 1024

/-- Samples from the oldest to the newest. -/
abbrev Histogram := List Double

namespace Histogram

/-- Adds a sample; the oldest one makes room for it. -/
def record (h : Histogram) (x : Double) : Histogram :=
  if h.length = window then h.drop 1 ++ [x] else h ++ [x]

structure Stats where
  count : Nat
  min : Double
  max : Double
  mean : Double
  p50 : Double
  p95 : Double
  p99 : Double
deriving DecidableEq, Repr, Inhabited

def sorted (h : Histogram) : List Double := h.mergeSort Double.totalLe

/-- The sum in the order given, starting from the neutral zero, which is negative. -/
def sum (xs : List Double) : Double :=
  .ofFloat (xs.foldl (fun s x => s + x.toFloat) (-0.0))

def mean (xs : List Double) : Double :=
  .ofFloat ((sum xs).toFloat / Float.ofNat xs.length)

/-- The share `p / 100` of the last index of `count` samples, as a rounded product of doubles. -/
def percentileIndex (p count : Nat) : Nat :=
  (Binary.mul 53 (Binary.div 53 (.ofNat 53 p) (.ofNat 53 100)) (.ofNat 53 (count - 1))).roundUpHalf

def percentile (p : Nat) (sorted : List Double) : Double :=
  sorted.getD (min (percentileIndex p sorted.length) (sorted.length - 1)) default

def stats (h : Histogram) : Stats :=
  let xs := sorted h
  if xs.isEmpty then default
  else
    { count := xs.length
      min := xs.getD 0 default
      max := xs.getD (xs.length - 1) default
      mean := mean xs
      p50 := percentile 50 xs
      p95 := percentile 95 xs
      p99 := percentile 99 xs }

def Stats.toJson (s : Stats) : Json :=
  let number (x : Double) : Json := if x.isFinite then .number (.double x) else .null
  .ofMembers [("count", .nat s.count), ("min", number s.min), ("max", number s.max),
    ("mean", number s.mean), ("p50", number s.p50), ("p95", number s.p95), ("p99", number s.p99)]

end Histogram

end AppScaffold.Telemetry

import AppScaffold.Telemetry.Histogram

/-!
# Metrics

Counters and histograms by name. Counters are words of 64 bits and wrap around. An increment is
two critical sections of a shared registry: adding to a counter that is there, and otherwise
making the counter and adding to it.
-/

set_option autoImplicit false

namespace AppScaffold.Telemetry

open Number (Double Binary)

structure Registry where
  counters : List (String × UInt64) := []
  histograms : List (String × Histogram) := []
deriving Repr, Inhabited

structure Duration where
  seconds : Nat
  nanoseconds : Nat
deriving DecidableEq, Repr, Inhabited

namespace Duration

/-- The length in seconds as a number of `bits` bits. -/
def toSeconds (bits : Nat) (d : Duration) : Binary :=
  Binary.add bits (.ofNat bits d.seconds)
    (Binary.div bits (.ofNat bits d.nanoseconds) (.ofNat bits 1000000000))

def toMilliseconds (bits : Nat) (d : Duration) : Binary :=
  Binary.mul bits (d.toSeconds bits) (.ofNat bits 1000)

end Duration

namespace Registry

def counter (r : Registry) (name : String) : UInt64 := (r.counters.lookup name).getD 0

def addExisting? (r : Registry) (name : String) (amount : UInt64) : Option Registry :=
  match r.counters.lookup name with
  | some n => some { r with counters := Keyed.insert name (n + amount) r.counters }
  | none => none

/-- Adds to a counter, which is made if it is missing. -/
def addOrMake (r : Registry) (name : String) (amount : UInt64) : Registry :=
  { r with counters := Keyed.insert name (r.counter name + amount) r.counters }

def incrementBy (r : Registry) (name : String) (amount : UInt64) : Registry :=
  (r.addExisting? name amount).getD (r.addOrMake name amount)

def increment (r : Registry) (name : String) : Registry := r.incrementBy name 1

def histogram? (r : Registry) (name : String) : Option Histogram := r.histograms.lookup name

def record (r : Registry) (name : String) (x : Double) : Registry :=
  let h := (r.histogram? name).getD []
  { r with histograms := Keyed.insert name (h.record x) r.histograms }

def recordDuration (r : Registry) (name : String) (d : Duration) : Registry :=
  r.record name (.ofBinary (d.toMilliseconds 53))

def stats? (r : Registry) (name : String) : Option Histogram.Stats :=
  (r.histogram? name).map Histogram.stats

def countersJson (r : Registry) : Json :=
  .ofMembers (r.counters.map fun c => (c.1, .nat c.2.toNat))

def histogramsJson (r : Registry) : Json :=
  .ofMembers (r.histograms.map fun h => (h.1, (Histogram.stats h.2).toJson))

def toJson (r : Registry) (session : String) (uptime : Nat) : Json :=
  .ofMembers [("session_id", .text session), ("uptime_secs", .nat uptime),
    ("counters", r.countersJson), ("histograms", r.histogramsJson)]

end Registry

/-! ## The metrics of builds -/

def buildsStarted : String := "builds.started"

def buildsSucceeded : String := "builds.succeeded"

def buildsFailed : String := "builds.failed"

def keystoresSimulated : String := "keystore.simulated"

def renderMilliseconds : String := "render.duration_ms"

def buildMilliseconds : String := "build.duration_ms"

end AppScaffold.Telemetry

import AppScaffold.Json.Decode

/-!
# Health reports

The results of single checks and the report they add up to. A report is healthy when every check
is, and unhealthy when some check is; otherwise it is degraded.
-/

set_option autoImplicit false

namespace AppScaffold.Health

open Json (Node Read Shape)

inductive Status where
  | healthy
  | degraded
  | unhealthy
deriving DecidableEq, Repr, Inhabited

namespace Status

def names : List (String × Status) :=
  [("healthy", .healthy), ("degraded", .degraded), ("unhealthy", .unhealthy)]

def name : Status → String
  | .healthy => "healthy"
  | .degraded => "degraded"
  | .unhealthy => "unhealthy"

def isOperational : Status → Bool
  | .unhealthy => false
  | _ => true

end Status

structure CheckResult where
  name : String
  status : Status
  message : Option String := none
  milliseconds : Nat := 0
  details : List (String × String) := []
deriving DecidableEq, Repr, Inhabited

namespace CheckResult

def withDetail (c : CheckResult) (key value : String) : CheckResult :=
  { c with details := Keyed.insert key value c.details }

def toJson (c : CheckResult) : Json :=
  .ofMembers [("name", .text c.name), ("status", .text c.status.name),
    ("message", Json.text? c.message), ("duration_ms", .nat c.milliseconds),
    ("details", .ofMembers (c.details.map fun d => (d.1, .text d.2)))]

def shape : Shape :=
  ⟨"CheckResult", [("name", .refused), ("status", .refused), ("message", .null),
    ("duration_ms", .refused), ("details", .refused)]⟩

def read : Node → Read CheckResult :=
  Node.readRecord (fun key v c => do
    match key with
    | "name" => return { c with name := ← v.readText }
    | "status" => return { c with status := ← v.readVariant Status.names }
    | "message" => return { c with message := ← v.readOption Node.readText }
    | "duration_ms" => return { c with milliseconds := ← v.readWord }
    | _ => return { c with details := ← v.readMap Node.readText }) shape default

end CheckResult

structure Report where
  status : Status
  checks : List CheckResult
  milliseconds : Nat
  timestamp : String
  version : String
deriving DecidableEq, Repr, Inhabited

def serviceVersion : String := "0.3.0"

namespace Report

def overall (checks : List CheckResult) : Status :=
  if checks.all (·.status == .healthy) then .healthy
  else if checks.any (·.status == .unhealthy) then .unhealthy
  else .degraded

def ofChecks (checks : List CheckResult) (milliseconds : Nat) (timestamp : String) : Report :=
  ⟨overall checks, checks, milliseconds, timestamp, serviceVersion⟩

def failed (r : Report) : List CheckResult := r.checks.filter (·.status != .healthy)

def toJson (r : Report) : Json :=
  .ofMembers [("status", .text r.status.name), ("checks", .array (r.checks.map CheckResult.toJson)),
    ("total_duration_ms", .nat r.milliseconds), ("timestamp", .text r.timestamp),
    ("version", .text r.version)]

def shape : Shape :=
  ⟨"HealthReport", [("status", .refused), ("checks", .refused), ("total_duration_ms", .refused),
    ("timestamp", .refused), ("version", .refused)]⟩

def read : Node → Read Report :=
  Node.readRecord (fun key v r => do
    match key with
    | "status" => return { r with status := ← v.readVariant Status.names }
    | "checks" => return { r with checks := ← v.readList CheckResult.read }
    | "total_duration_ms" => return { r with milliseconds := ← v.readWord }
    | "timestamp" => return { r with timestamp := ← v.readText }
    | _ => return { r with version := ← v.readText }) shape default

end Report

end AppScaffold.Health

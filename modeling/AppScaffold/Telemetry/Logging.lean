import AppScaffold.Json.Decode

/-!
# Logging options

What is logged, where to, and how the two verbosity switches change it.
-/

set_option autoImplicit false

namespace AppScaffold.Telemetry

open Json (Node Read Shape)

structure LogOptions where
  level : String := "info"
  directory : Option String := none
  showTarget : Bool := false
  ansi : Bool := true
deriving DecidableEq, Repr, Inhabited

namespace LogOptions

/-- Being quiet wins over being verbose. -/
def withVerbosity (o : LogOptions) (verbose quiet : Bool) : LogOptions :=
  if quiet then { o with level := "warn" }
  else if verbose then { o with level := "debug", showTarget := true }
  else o

def toJson (o : LogOptions) : Json :=
  .ofMembers [("log_level", .text o.level), ("log_dir", Json.text? o.directory),
    ("show_target", .bool o.showTarget), ("ansi", .bool o.ansi)]

def shape : Shape :=
  ⟨"TelemetryConfig", [("log_level", .refused), ("log_dir", .null), ("show_target", .refused),
    ("ansi", .refused)]⟩

def read : Node → Read LogOptions :=
  Node.readRecord (fun key v o => do
    match key with
    | "log_level" => return { o with level := ← v.readText }
    | "log_dir" => return { o with directory := ← v.readOption Node.readPath }
    | "show_target" => return { o with showTarget := ← v.readBool }
    | _ => return { o with ansi := ← v.readBool }) shape {}

end LogOptions

end AppScaffold.Telemetry

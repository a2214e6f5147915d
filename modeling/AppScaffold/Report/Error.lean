import AppScaffold.Json.Decode

/-!
# Error reports

Every failure has a code. The code fixes its number, its category and the exit status; an error
adds what happened, what was being done, what may help, and the errors behind it.
-/

set_option autoImplicit false

namespace AppScaffold.Report

inductive Code where
  | unknown
  | internal
  | ioError
  | fileNotFound
  | permissionDenied
  | configError
  | configNotFound
  | configParseError
  | invalidConfigValue
  | processError
  | commandNotFound
  | validationError
  | invalidInput
  | invalidFormat
  | renderError
  | templateError
  | buildError
  | keystoreError
  | packagingError
deriving DecidableEq, Repr, Inhabited

namespace Code

/-- All codes by the name they have in documents. -/
def names : List (String × Code) := [
  ("UNKNOWN", .unknown),
  ("INTERNAL", .internal),
  ("IO_ERROR", .ioError),
  ("FILE_NOT_FOUND", .fileNotFound),
  ("PERMISSION_DENIED", .permissionDenied),
  ("CONFIG_ERROR", .configError),
  ("CONFIG_NOT_FOUND", .configNotFound),
  ("CONFIG_PARSE_ERROR", .configParseError),
  ("INVALID_CONFIG_VALUE", .invalidConfigValue),
  ("PROCESS_ERROR", .processError),
  ("COMMAND_NOT_FOUND", .commandNotFound),
  ("VALIDATION_ERROR", .validationError),
  ("INVALID_INPUT", .invalidInput),
  ("INVALID_FORMAT", .invalidFormat),
  ("RENDER_ERROR", .renderError),
  ("TEMPLATE_ERROR", .templateError),
  ("BUILD_ERROR", .buildError),
  ("KEYSTORE_ERROR", .keystoreError),
  ("PACKAGING_ERROR", .packagingError)]

def name : Code → String
  | .unknown => "UNKNOWN"
  | .internal => "INTERNAL"
  | .ioError => "IO_ERROR"
  | .fileNotFound => "FILE_NOT_FOUND"
  | .permissionDenied => "PERMISSION_DENIED"
  | .configError => "CONFIG_ERROR"
  | .configNotFound => "CONFIG_NOT_FOUND"
  | .configParseError => "CONFIG_PARSE_ERROR"
  | .invalidConfigValue => "INVALID_CONFIG_VALUE"
  | .processError => "PROCESS_ERROR"
  | .commandNotFound => "COMMAND_NOT_FOUND"
  | .validationError => "VALIDATION_ERROR"
  | .invalidInput => "INVALID_INPUT"
  | .invalidFormat => "INVALID_FORMAT"
  | .renderError => "RENDER_ERROR"
  | .templateError => "TEMPLATE_ERROR"
  | .buildError => "BUILD_ERROR"
  | .keystoreError => "KEYSTORE_ERROR"
  | .packagingError => "PACKAGING_ERROR"

def number : Code → Nat
  | .unknown => 1000
  | .internal => 1001
  | .ioError => 2000
  | .fileNotFound => 2001
  | .permissionDenied => 2002
  | .configError => 3000
  | .configNotFound => 3001
  | .configParseError => 3002
  | .invalidConfigValue => 3004
  | .processError => 5000
  | .commandNotFound => 5001
  | .validationError => 6000
  | .invalidInput => 6001
  | .invalidFormat => 6002
  | .renderError => 7000
  | .templateError => 7001
  | .buildError => 8000
  | .keystoreError => 8001
  | .packagingError => 8002

/-- The category is the number's thousands. -/
def category (c : Code) : String :=
  match c.number / 1000 with
  | 1 => "General"
  | 2 => "IO"
  | 3 => "Configuration"
  | 5 => "Process"
  | 6 => "Validation"
  | 7 => "Render"
  | 8 => "Build"
  | _ => "Unknown"

/-- The caller's input was at fault, not the service. -/
def isClientError (c : Code) : Bool := c.number / 1000 == 6

/-- `E` and the four digits of the number. -/
def label (c : Code) : String := "E" ++ Nat.repr c.number

def exitStatus (c : Code) : Nat :=
  match c.category with
  | "Validation" => 2
  | "Configuration" => 3
  | _ => if c == .commandNotFound then 127 else 1

end Code

structure Error where
  code : Code
  message : String
  context : Option String := none
  suggestion : Option String := none
  /-- The texts of the errors behind this one, the nearest first. -/
  sources : List String := []
deriving DecidableEq, Repr, Inhabited

namespace Error

def withContext (e : Error) (context : String) : Error := { e with context := some context }

def withSuggestion (e : Error) (suggestion : String) : Error :=
  { e with suggestion := some suggestion }

def withSources (e : Error) (sources : List String) : Error := { e with sources := sources }

def display (e : Error) : String :=
  let line (title : String) : Option String → String
    | some s => "\n  " ++ title ++ ": " ++ s
    | none => ""
  "[" ++ e.code.label ++ "] " ++ e.message ++ line "Context" e.context ++
    line "Suggestion" e.suggestion

/-- The error and all errors behind it on one line. -/
def chain (e : Error) : String := Text.joinWith ": " (e.display :: e.sources)

def fileNotFound (path : String) : Error :=
  { code := .fileNotFound
    message := "File not found: " ++ path
    suggestion := some "Check that the file exists and you have read permissions" }

def configNotFound (path : String) : Error :=
  { code := .configNotFound
    message := "Configuration file not found: " ++ path
    suggestion := some "Create a zeroapp.toml file or use --config to specify a path" }

def commandNotFound (command : String) : Error :=
  { code := .commandNotFound
    message := "Command not found: " ++ command
    suggestion := some ("Install " ++ command ++ " and ensure it's in your PATH") }

def ofJsonFault (f : Json.Fault) : Error :=
  { code := .invalidFormat
    message := "JSON parse error: " ++ f.message
    sources := [f.message] }

end Error

structure Summary where
  code : Code
  label : String
  category : String
  message : String
  context : Option String
  suggestion : Option String
  source : Option String
deriving DecidableEq, Repr

def Error.summary (e : Error) : Summary :=
  { code := e.code
    label := e.code.label
    category := e.code.category
    message := e.message
    context := e.context
    suggestion := e.suggestion
    source := e.sources.head? }

def member? (key : String) (value : Option String) : List (String × Json) :=
  match value with
  | some s => [(key, .text s)]
  | none => []

def Summary.toJson (s : Summary) : Json :=
  .ofMembers ([("code", .text s.code.name), ("code_str", .text s.label),
    ("category", .text s.category), ("message", .text s.message)] ++
    member? "context" s.context ++ member? "suggestion" s.suggestion ++ member? "source" s.source)

namespace Summary

open Json (Node Read Shape)

def shape : Shape :=
  ⟨"ErrorReport", [("code", .refused), ("code_str", .refused), ("category", .refused),
    ("message", .refused), ("context", .null), ("suggestion", .null), ("source", .null)]⟩

def empty : Summary := ⟨.unknown, "", "", "", none, none, none⟩

def read : Node → Read Summary :=
  Node.readRecord (fun key v s => do
    match key with
    | "code" => return { s with code := ← v.readVariant Code.names }
    | "code_str" => return { s with label := ← v.readText }
    | "category" => return { s with category := ← v.readText }
    | "message" => return { s with message := ← v.readText }
    | "context" => return { s with context := ← v.readOption Node.readText }
    | "suggestion" => return { s with suggestion := ← v.readOption Node.readText }
    | _ => return { s with source := ← v.readOption Node.readText }) shape empty

end Summary

def Error.ofCodeName (name message : String) : Error :=
  match (Json.Node.ofJson (.text name)).readVariant Code.names with
  | .ok code => { code := code, message := message }
  | .error f => .ofJsonFault f

end AppScaffold.Report

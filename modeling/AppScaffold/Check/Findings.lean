import AppScaffold.Pattern.Reader
import AppScaffold.Report.Error
import AppScaffold.Text.Space

/-!
# Findings

What checking an input brings up: errors, which reject it, and warnings, which do not. The checks
of single fields each add at most one finding.
-/

set_option autoImplicit false

namespace AppScaffold.Check

structure Finding where
  field : String
  message : String
  code : String
  expected : Option String := none
  actual : Option String := none
deriving DecidableEq, Repr, Inhabited

def Finding.display (f : Finding) : String := f.field ++ ": " ++ f.message

structure Findings where
  errors : List Finding := []
  warnings : List Finding := []
deriving DecidableEq, Repr, Inhabited

namespace Findings

def isValid (f : Findings) : Bool := f.errors.isEmpty

def addError (f : Findings) (e : Finding) : Findings := { f with errors := f.errors ++ [e] }

def addWarning (f : Findings) (w : Finding) : Findings :=
  { f with warnings := f.warnings ++ [w] }

/-- All errors on one line, if there are any. -/
def toError? (f : Findings) : Option Report.Error :=
  if f.isValid then none
  else some {
    code := .validationError
    message := "Validation failed: " ++ Text.joinWith "; " (f.errors.map Finding.display) }

def warningTexts (f : Findings) : List String := f.warnings.map Finding.display

/-- A field needs more than white space. -/
def required (f : Findings) (field value : String) : Findings :=
  if Text.isBlank value then
    f.addError ⟨field, "Field is required", "REQUIRED", some "non-empty value", some "empty"⟩
  else f

/-- The length is counted in bytes. -/
def maxLength (f : Findings) (field value : String) (max : Nat) : Findings :=
  if max < value.utf8ByteSize then
    f.addError
      { field := field
        message := "Must be at most " ++ Nat.repr max ++ " characters"
        code := "MAX_LENGTH"
        expected := some ("<= " ++ Nat.repr max ++ " chars")
        actual := some (Nat.repr value.utf8ByteSize ++ " chars") }
  else f

/-- An empty value is not looked at. -/
def pattern (f : Findings) (field value : String) (p : Pattern) (description : String) :
    Findings :=
  if value.isEmpty || p.find value then f
  else
    f.addError
      { field := field
        message := "Must match " ++ description
        code := "PATTERN"
        expected := some description
        actual := some value }

def writtenPattern (f : Findings) (field value written description : String) : Findings :=
  match Pattern.ofText? written with
  | some p => f.pattern field value p description
  | none =>
    if value.isEmpty then f
    else f.addError { field := field, message := "Invalid validation pattern", code := "INTERNAL" }

def custom (f : Findings) (field : String) (message : Option String) : Findings :=
  match message with
  | some m => f.addError { field := field, message := m, code := "CUSTOM" }
  | none => f

def warnIf (f : Findings) (field : String) (condition : Bool) (message : String) : Findings :=
  if condition then f.addWarning { field := field, message := message, code := "WARNING" } else f

end Findings

/-! ## As documents -/

open Json (Node Read Shape)

def Finding.toJson (f : Finding) : Json :=
  .ofMembers ([("field", .text f.field), ("message", .text f.message), ("code", .text f.code)] ++
    Report.member? "expected" f.expected ++ Report.member? "actual" f.actual)

def Finding.shape : Shape :=
  ⟨"ValidationError", [("field", .refused), ("message", .refused), ("code", .refused),
    ("expected", .null), ("actual", .null)]⟩

def Finding.read : Node → Read Finding :=
  Node.readRecord (fun key v f => do
    match key with
    | "field" => return { f with field := ← v.readText }
    | "message" => return { f with message := ← v.readText }
    | "code" => return { f with code := ← v.readText }
    | "expected" => return { f with expected := ← v.readOption Node.readText }
    | _ => return { f with actual := ← v.readOption Node.readText }) Finding.shape default

namespace Findings

def toJson (f : Findings) : Json :=
  .ofMembers [("errors", .array (f.errors.map Finding.toJson)),
    ("warnings", .array (f.warnings.map Finding.toJson))]

def shape : Shape := ⟨"ValidationResult", [("errors", .refused), ("warnings", .refused)]⟩

def read : Node → Read Findings :=
  Node.readRecord (fun key v f => do
    match key with
    | "errors" => return { f with errors := ← v.readList Finding.read }
    | _ => return { f with warnings := ← v.readList Finding.read }) shape {}

end Findings

end AppScaffold.Check

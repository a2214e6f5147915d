import AppScaffold.Config.Expand
import AppScaffold.Config.Settings
import AppScaffold.Report.Error
import AppScaffold.Text.Space
import AppScaffold.Toml.Document

/-!
# Reading settings

Settings out of the text of a configuration document, the port out of the environment, and the
directories that settings name.
-/

set_option autoImplicit false

namespace AppScaffold.Config

open Host (Environment Path.join)
open Report (Error)

def malformed : Error :=
  let message := "TOML parse error\nthe text is not a valid document"
  { code := .configParseError, message := "TOML parse error: " ++ message, sources := [message] }

def mistyped (f : Json.Fault) : Error :=
  let start := match f.place with
    | some p =>
      "TOML parse error at line " ++ Nat.repr p.line ++ ", column " ++ Nat.repr p.column ++ "\n"
    | none => ""
  let message := start ++ f.problem.message
  { code := .configParseError, message := "TOML parse error: " ++ message, sources := [message] }

/-- The settings of a text; what it leaves out has the usual value. -/
def Settings.ofText (env : Environment) (text : String) : Except Error Settings :=
  match Toml.ofText? text with
  | none => .error malformed
  | some t => (Settings.read (.usual env) t.toNode).mapError mistyped

/-- A port in decimal digits, perhaps after a plus sign. -/
def port? (text : String) : Option Nat :=
  let ds := match (Text.trimmed text).toList with
    | '+' :: rest => rest
    | cs => cs
  let n := ds.foldl (fun n d => n * 10 + (d.toNat - '0'.toNat)) 0
  if !ds.isEmpty && ds.all Char.isDigit && n ≤ maxPort then some n else none

/-- The variable `PORT` wins over the document. -/
def Settings.withPort (s : Settings) (env : Environment) : Except Error Settings :=
  match env.get? "PORT" with
  | none => .ok s
  | some text =>
    match port? text with
    | some n => .ok { s with server := { s.server with port := n } }
    | none => .error
      { code := .invalidConfigValue
        message := "PORT must be a number between 0 and 65535, got " ++ Text.quoted text }

namespace StorageSettings

def workPath (s : StorageSettings) (env : Environment) : String := expand env s.workDir

def outputPath (s : StorageSettings) (env : Environment) : String :=
  match s.outputDir with
  | some dir => expand env dir
  | none => Path.join (s.workPath env) "output"

def uploadPath (s : StorageSettings) (env : Environment) : String := expand env s.uploadDir

end StorageSettings

end AppScaffold.Config

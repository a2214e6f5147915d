import AppScaffold.Config.Settings
import AppScaffold.Host.FileTask
import AppScaffold.Text.Space

/-!
# Keystores

A keystore is made by the key tool, or copied from an upload. Where the tool is missing or fails a
placeholder stands in, and the outcome says so.
-/

set_option autoImplicit false

namespace AppScaffold.Build

open Host (FileTask Files Failure Launcher Environment)
open Report (Error)

def mockKeystore : String := "MOCK KEYSTORE FILE FOR DEMO"

inductive KeystoreOutcome where
  | generated (path : String)
  | simulated (path reason : String)
  | provided (path : String)
deriving DecidableEq, Repr, Inhabited

namespace KeystoreOutcome

def kind : KeystoreOutcome → String
  | .generated _ => "generated"
  | .simulated _ _ => "simulated"
  | .provided _ => "provided"

def path : KeystoreOutcome → String
  | .generated p => p
  | .simulated p _ => p
  | .provided p => p

def isSimulated : KeystoreOutcome → Bool
  | .simulated _ _ => true
  | _ => false

def toJson (k : KeystoreOutcome) : Json :=
  .ofMembers ([("kind", .text k.kind), ("path", .text k.path)] ++
    match k with
    | .simulated _ reason => [("reason", .text reason)]
    | _ => [])

end KeystoreOutcome

structure KeyTool where
  settings : Config.KeystoreSettings
  program : String := "keytool"
deriving Repr, Inhabited

namespace KeyTool

def keystoreError (what : String) (f : Failure) : Error :=
  { code := .keystoreError
    message := "Failed to " ++ what ++ " keystore: " ++ f.message
    sources := [f.message] }

def simulate (path reason : String) : FileTask KeystoreOutcome := do
  FileTask.write path mockKeystore.toUTF8 (keystoreError "write")
  return .simulated path reason

def arguments (t : KeyTool) (path password : String) : List String :=
  ["-genkey", "-v",
    "-keystore", path,
    "-alias", t.settings.keyAlias,
    "-keyalg", t.settings.algorithm,
    "-keysize", Nat.repr t.settings.keySize,
    "-validity", Nat.repr t.settings.validityDays,
    "-storepass", password,
    "-keypass", password,
    "-dname", t.settings.distinguishedName]

/-- Why a run of the tool did not do: the last line of its complaint, or its exit status. -/
def complaint (f : Host.Finished) : String :=
  let text := Text.trimmed f.errorText
  if text.isEmpty then "keytool exited with code " ++ toString f.exitCode
  else (Text.lines text).getLast?.getD text

/-- An empty password is none. -/
def passwordOr (usual : String) (given : Option String) : String :=
  match given with
  | some p => if p.isEmpty then usual else p
  | none => usual

/-- Makes a keystore at a path, or the placeholder. -/
def generate (t : KeyTool) (launcher : Launcher) (env : Environment) (path : String)
    (password : Option String) : FileTask KeystoreOutcome := do
  match ← FileTask.look (·.which? env t.program) with
  | none => simulate path (t.program ++ " not found")
  | some program =>
    let args := t.arguments path (passwordOr t.settings.password password)
    let (result, fs) := launcher.run (← get) env program args
    set fs
    match result with
    | .error f => simulate path (Host.startError program f).message
    | .ok finished =>
      if finished.success && fs.isFile path then return .generated path
      else simulate path (complaint finished)

def provide (source path : String) : FileTask KeystoreOutcome := do
  if !(← FileTask.look (·.isFile source)) then throw (.fileNotFound source)
  FileTask.change (fun fs => fs.copy source path) (keystoreError "copy")
  return .provided path

end KeyTool

end AppScaffold.Build

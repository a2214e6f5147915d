import AppScaffold.Build.Keystore
import AppScaffold.Build.Package
import AppScaffold.Build.Write
import AppScaffold.Check.Project
import AppScaffold.Config.Reading

/-!
# Builds

A builder checks a project, writes it, adds a keystore and packs the whole. A project that is
turned down leaves no trace.
-/

set_option autoImplicit false

namespace AppScaffold.Build

open Host (FileTask Launcher Environment Path.join)
open Report (Error)

structure Builder where
  maxDepth : Nat
  keyTool : KeyTool
  workDir : String
  outputDir : String
deriving Inhabited

namespace Builder

def ofSettings (s : Config.Settings) (env : Environment) : Builder :=
  { maxDepth := s.render.maxDepth
    keyTool := { settings := s.keystore }
    workDir := s.storage.workPath env
    outputDir := s.storage.outputPath env }

def withProgram (b : Builder) (program : String) : Builder :=
  { b with keyTool := { b.keyTool with program := program } }

def check (b : Builder) (p : App.Project) : Except Error (List String) := Check.accept b.maxDepth p

structure Generated where
  files : List String
  warnings : List String
deriving DecidableEq, Repr, Inhabited

def generate (b : Builder) (p : App.Project) (dir : String) : FileTask Generated := do
  let warnings ← liftExcept (b.check p)
  let rendered ← liftExcept (Render.project b.maxDepth p)
  return ⟨← writeProject dir rendered, warnings⟩
where
  liftExcept {α : Type} (x : Except Error α) : FileTask α := MonadExcept.ofExcept x

structure Request where
  project : App.Project
  password : Option String := none
  /-- A keystore to use instead of making one. -/
  keystore : Option String := none
deriving Inhabited

/-- What tells one build from another: the time in milliseconds and a random part. -/
structure Stamp where
  milliseconds : Nat
  unique : String
deriving DecidableEq, Repr, Inhabited

def Stamp.id (s : Stamp) : String := Nat.repr s.milliseconds ++ "-" ++ s.unique

structure Outcome where
  id : String
  projectDir : String
  package : Summary
  fileName : String
  downloadName : String
  keystore : KeystoreOutcome
  filesWritten : Nat
  warnings : List String
deriving DecidableEq, Repr, Inhabited

def projectDirName (id : String) : String :=
  "project_" ++ String.ofList (id.toList.map fun c => if c == '-' then '_' else c)

def packageName (id : String) : String := "app-" ++ id ++ ".apk"

def signAndPack (b : Builder) (launcher : Launcher) (env : Environment) (stamp : Stamp)
    (r : Request) (dir : String) (warnings files : List String) : FileTask Outcome := do
  let keystorePath := Path.join dir "app.keystore"
  let keystore ← match r.keystore with
    | some source => KeyTool.provide source keystorePath
    | none => b.keyTool.generate launcher env keystorePath r.password
  let fileName := packageName stamp.id
  let package ← packageProject dir (Path.join b.outputDir fileName)
  return {
    id := stamp.id
    projectDir := dir
    package := package
    fileName := fileName
    downloadName := r.project.downloadName
    keystore := keystore
    filesWritten := files.length
    warnings := warnings }

def build (b : Builder) (launcher : Launcher) (env : Environment) (stamp : Stamp) (r : Request) :
    FileTask Outcome := do
  let warnings ← MonadExcept.ofExcept (b.check r.project)
  let dir := Path.join b.workDir (projectDirName stamp.id)
  FileTask.createDirs dir (FileTask.during ("creating " ++ dir))
  FileTask.createDirs b.outputDir (FileTask.during ("creating " ++ b.outputDir))
  let rendered ← MonadExcept.ofExcept (Render.project b.maxDepth r.project)
  let files ← writeProject dir rendered
  b.signAndPack launcher env stamp r dir warnings files

end Builder

end AppScaffold.Build

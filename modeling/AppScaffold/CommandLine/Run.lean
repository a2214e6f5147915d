import AppScaffold.App.Reading
import AppScaffold.Build.Builder
import AppScaffold.CommandLine.Invocation
import AppScaffold.Config.Load
import AppScaffold.Health.Check
import AppScaffold.Json.Print
import AppScaffold.Telemetry.Logging
import AppScaffold.Terminal.Amount
import AppScaffold.Terminal.Console

/-!
# Running commands

What the commands do to the files, what they print, and the status they end with.
-/

set_option autoImplicit false

namespace AppScaffold.CommandLine

open Build (Builder)
open Host (Environment FileTask Files Launcher Path.join)
open Report (Error)
open Terminal (Console)

/-- What commands change. -/
structure Session where
  files : Files
  console : Console := {}
deriving Inhabited

/-- Why a command fails: what is printed, and the status it ends with. -/
structure Failure where
  message : String
  status : Nat
deriving DecidableEq, Repr, Inhabited

namespace Failure

def ofError (e : Error) : Failure := ⟨e.chain, e.code.exitStatus⟩

def during (what : String) (f : Failure) : Failure :=
  { f with message := what ++ ": " ++ f.message }

end Failure

abbrev Work (α : Type) := ExceptT Failure (StateM Session) α

structure Setting where
  environment : Environment
  launcher : Launcher
  stamp : Builder.Stamp
  /-- The time of the day, for reports. -/
  timestamp : String := ""
  elapsed : Telemetry.Duration := ⟨0, 0⟩

namespace Work

def onConsole (f : Console → Console) : Work Unit :=
  modify fun s => { s with console := f s.console }

def ofError {α : Type} (x : Except Error α) : Work α :=
  MonadExcept.ofExcept (x.mapError Failure.ofError)

def onFiles {α : Type} (task : FileTask α) : Work α := do
  let s ← get
  let (result, files) := task.run.run s.files
  set { s with files := files }
  ofError result

end Work

def loadProject (fs : Files) (path : String) : Except Failure App.Project := do
  let text ← (fs.readText path).mapError fun f =>
    (Failure.ofError f.toError).during ("Failed to read " ++ path)
  (App.Project.ofText text).mapError fun f =>
    (Failure.ofError (.ofJsonFault f)).during ("Failed to parse " ++ path)

def readProject (path : String) : Work App.Project := do
  MonadExcept.ofExcept (loadProject (← get).files path)

def showWarnings (warnings : List String) : Work Unit :=
  Work.onConsole fun c => warnings.foldl Console.warning c

def generate (s : Setting) (settings : Config.Settings) (path out : String) : Work Nat := do
  let project ← readProject path
  let builder := Builder.ofSettings settings s.environment
  let done ← Work.onFiles (builder.generate project out)
  showWarnings done.warnings
  Work.onConsole (·.success ("Generated " ++ Terminal.count done.files.length "file" "files" ++
    " for " ++ project.name ++ " in " ++ out))
  return 0

def keystoreText : Build.KeystoreOutcome → String
  | .simulated _ reason => "simulated (" ++ reason ++ ")"
  | k => k.kind

def showOutcome (elapsed : Telemetry.Duration) (o : Builder.Outcome) (c : Console) : Console :=
  (c.success ("Built " ++ o.downloadName)).keyValue "APK" o.package.path
    |>.keyValue "Size" (Terminal.size o.package.bytes)
    |>.keyValue "SHA-256" o.package.digest
    |>.keyValue "Project" o.projectDir
    |>.keyValue "Keystore" (keystoreText o.keystore)
    |>.keyValue "Time" (Terminal.duration elapsed)

/-- Builds a package. A quiet console shows its path and nothing else. -/
def build (s : Setting) (settings : Config.Settings) (path : String) (password : Option String) :
    Work Nat := do
  let project ← readProject path
  let builder := Builder.ofSettings settings s.environment
  let outcome ← Work.onFiles
    (builder.build s.launcher s.environment s.stamp { project := project, password := password })
  showWarnings outcome.warnings
  Work.onConsole fun c =>
    if c.quiet then c.printLine outcome.package.path else showOutcome s.elapsed outcome c
  return 0

def unknownScreen (p : App.Project) (id : String) : Error :=
  { code := .invalidInput
    message := "Unknown screen \"" ++ id ++ "\""
    suggestion := some ("Available screens: " ++ Text.joinWith ", " p.screens.keys) }

def document (limit : Nat) (p : App.Project) : Option String → Except Error String
  | none => .ok (Render.manifest p)
  | some id =>
    match p.screens.find? id with
    | some screen => .ok (Render.layout limit p.name screen)
    | none => .error (unknownScreen p id)

def render (settings : Config.Settings) (path : String) (screen : Option String) : Work Nat := do
  let project ← readProject path
  let limit := settings.render.maxDepth
  let findings := Check.project limit project
  showWarnings findings.warningTexts
  match findings.toError? with
  | some e => Work.ofError (.error e)
  | none => pure ()
  let text ← Work.ofError (document limit project screen)
  Work.onConsole (·.print text)
  return 0

def showCheck (c : Console) (r : Health.CheckResult) : Console :=
  let line := match r.message with
    | some message => r.name ++ ": " ++ message
    | none => r.name
  match r.status with
  | .healthy => c.success line
  | .degraded => c.warning line
  | .unhealthy => c.error line

def storageDirs (s : Setting) (storage : Config.StorageSettings) : List String :=
  [storage.workPath s.environment, storage.outputPath s.environment,
    storage.uploadPath s.environment]

def doctor (s : Setting) (loaded : Config.Loaded) (json : Bool) : Work Nat := do
  let session ← get
  let checks := Health.builderChecks s.launcher s.environment s.stamp.unique
    (storageDirs s loaded.settings.storage)
  let (results, files) := (Health.runChecks checks).run session.files
  set { session with files := files }
  let report := Health.Report.ofChecks results 0 s.timestamp
  Work.onConsole fun c =>
    if json then c.printLine (report.toJson.pretty 0)
    else
      let c := c.header "Environment Check"
      let c := match loaded.path with
        | some path => c.keyValue "Config" path
        | none => c
      results.foldl showCheck c
  return if report.status.isOperational then 0 else 1

def makeDir (failure : String → Failure) (dir : String) : Work Unit := do
  let s ← get
  let (result, files) := s.files.createDirs dir
  set { s with files := files }
  match result with
  | .ok () => pure ()
  | .error f => throw (failure f.message)

/-- Prepares the service. There is no network to listen on, so it ends there. -/
def serve (s : Setting) (settings : Config.Settings) (host : Option String) (port : Option Nat) :
    Work Nat := do
  for dir in storageDirs s settings.storage do
    makeDir (fun reason => ⟨"Failed to create " ++ dir ++ ": " ++ reason, 1⟩) dir
  let address := host.getD settings.server.host ++ ":" ++ Nat.repr (port.getD settings.server.port)
  throw ⟨"Failed to bind " ++ address ++ ": " ++ (Host.SystemError.mk 38).message, 1⟩

def openLog (o : Telemetry.LogOptions) : Work Unit := do
  match o.directory with
  | none => pure ()
  | some dir =>
    makeDir (fun reason => ⟨"Failed to create log directory " ++ dir ++ ": " ++ reason,
      Report.Code.configError.exitStatus⟩) dir

def logOptions (i : Invocation) (l : Config.LoggingSettings) : Telemetry.LogOptions :=
  ({ level := l.level, directory := l.directory, ansi := !i.noColour } :
    Telemetry.LogOptions).withVerbosity i.verbose i.quiet

def Command.run (s : Setting) (loaded : Config.Loaded) : Command → Work Nat
  | .serve host port => CommandLine.serve s loaded.settings host port
  | .generate path out => CommandLine.generate s loaded.settings path out
  | .build path password => CommandLine.build s loaded.settings path password
  | .render path screen => CommandLine.render loaded.settings path screen
  | .doctor json => CommandLine.doctor s loaded json

def Invocation.run (s : Setting) (i : Invocation) : Work Nat := do
  let loaded ← MonadExcept.ofExcept
    ((Config.load (← get).files s.environment i.config).mapError fun e =>
      (⟨e.display, e.code.exitStatus⟩ : Failure))
  openLog (logOptions i loaded.settings.logging)
  i.command.run s loaded

def usage : String :=
  "Turn JSON app descriptions into Android projects\n\n" ++
  "Usage: zeroapp [OPTIONS] <COMMAND>\n\n" ++
  "Commands:\n" ++
  "  serve     Run the HTTP API and serve the web editor\n" ++
  "  generate  Render and write an Android project\n" ++
  "  build     Generate, sign and package a mock APK\n" ++
  "  render    Print one screen's layout, or the manifest when no screen is given\n" ++
  "  doctor    Check the environment\n" ++
  "  help      Print this message\n"

def versionText : String := "zeroapp " ++ Health.serviceVersion

def stop (c : Console) : Stop → Nat × Console
  | .misuse => (2, { c with errors := c.errors ++ usage })
  | .help => (0, c.print usage)
  | .version => (0, c.printLine versionText)

/-- Runs the command that arguments ask for; gives the exit status. -/
def run (s : Setting) (files : Files) (args : List String) : Nat × Session :=
  match Invocation.ofArguments s.environment args with
  | .error why =>
    let (status, console) := stop {} why
    (status, ⟨files, console⟩)
  | .ok i =>
    match (i.run s).run.run ⟨files, { quiet := i.quiet }⟩ with
    | (.ok status, session) => (status, session)
    | (.error f, session) => (f.status, { session with console := session.console.error f.message })

end AppScaffold.CommandLine

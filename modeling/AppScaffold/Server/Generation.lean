import AppScaffold.App.Reading
import AppScaffold.Server.Uploads

/-!
# Building on request

A build that is asked for by JSON: a project, a password, and the name of an uploaded keystore.
Started builds are counted before they run, and once more when they end.
-/

set_option autoImplicit false

namespace AppScaffold.Server

open Build (Builder)
open Json (Node Read Shape)
open Telemetry (Registry)
open Web (MediaType Request Response)

structure Order where
  project : Option Json := none
  password : Option String := none
  keystore : Option String := none
deriving Repr, Inhabited

namespace Order

def shape : Shape :=
  ⟨"GenerateRequest", [("project", .filled), ("keystorePassword", .filled),
    ("keystorePath", .filled)]⟩

def read : Node → Read Order :=
  Node.readRecord (fun key v o => do
    match key with
    | "project" => return { o with project := ← v.readOption Node.value }
    | "keystorePassword" => return { o with password := ← v.readOption Node.readText }
    | _ => return { o with keystore := ← v.readOption Node.readText }) shape {}

end Order

def bodyProblem (f : Json.Fault) : Problem :=
  if f.problem.isSyntax then
    .badRequest ("Failed to parse the request body as JSON: " ++ f.tracedMessage)
  else
    ⟨422, "Failed to deserialize the JSON body into the target type: " ++ f.tracedMessage, none⟩

/-- Reads a JSON body that is not larger than the limit. -/
def readBody {α : Type} (limit : Nat) (read : Node → Read α) (r : Request) : Except Problem α :=
  if !((r.plainHeader? "content-type").bind MediaType.ofText?).any MediaType.isJson then
    .error ⟨415, "Expected request with `Content-Type: application/json`", none⟩
  else if limit < r.body.size then
    .error (.tooLarge "Failed to buffer the request body: length limit exceeded")
  else
    ((Json.Document.ofText (Text.decodeLossy r.body)).read read).mapError bodyProblem

/-- The project of an order, which has to be an object. -/
def Order.project? (o : Order) : Except Problem App.Project :=
  match o.project with
  | some (.object ms) =>
    (App.Project.ofJson (.object ms)).mapError fun f =>
      .badRequest ("Invalid project data: " ++ f.message)
  | _ => .error (.badRequest "Invalid project data. Project name and package are required.")

def nonempty : Option String → Option String
  | some "" => none
  | s => s

def countEnd (m : Moment) (result : Except Report.Error Builder.Outcome) (r : Registry) :
    Registry :=
  match result with
  | .error _ => r.increment Telemetry.buildsFailed
  | .ok outcome =>
    let r := r.increment Telemetry.buildsSucceeded
    let r := if outcome.keystore.isSimulated then r.increment Telemetry.keystoresSimulated else r
    (r.recordDuration Telemetry.renderMilliseconds m.rendering).recordDuration
      Telemetry.buildMilliseconds m.building

def Outcome.toJson (o : Builder.Outcome) : Json :=
  .ofMembers [("success", .bool true), ("message", .text "APK generated successfully"),
    ("apkPath", .text ("/download/" ++ o.fileName)), ("apkFilename", .text o.downloadName),
    ("keystore", .text o.keystore.kind), ("warnings", .texts o.warnings)]

def Order.request (s : Service) (o : Order) : Work Builder.Request := do
  let project ← MonadExcept.ofExcept o.project?
  let keystore ← match nonempty o.keystore with
    | some token => some <$> findUpload s token
    | none => pure none
  return ⟨project, nonempty o.password, keystore⟩

def countedBuild (s : Service) (m : Moment) (request : Builder.Request) :
    Work (Except Report.Error Builder.Outcome) := do
  Work.count (·.increment Telemetry.buildsStarted)
  let result ← Work.tryFiles
    (s.builder.build s.launcher s.environment ⟨m.milliseconds, m.unique⟩ request)
  Work.count (countEnd m result)
  return result

def generate (s : Service) (m : Moment) (r : Request) : StateM State Response :=
  Work.answer do
    let order ← MonadExcept.ofExcept ((readBody s.bodyLimit Order.read r).mapError fun p =>
      { p with message := "Invalid request body: " ++ p.message })
    match ← countedBuild s m (← order.request s) with
    | .ok outcome => return jsonResponse 200 (Outcome.toJson outcome)
    | .error e => throw (.ofBuildError e)

end AppScaffold.Server

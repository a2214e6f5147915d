import AppScaffold.Build.Builder
import AppScaffold.Json.Print
import AppScaffold.Telemetry.Registry
import AppScaffold.Web.Message

/-!
# The service

What the service is set up with, what it changes while it runs, and how its work fails. Work that
fails leaves behind what was done before.
-/

set_option autoImplicit false

namespace AppScaffold.Server

open Host (Environment FileTask Files Launcher)
open Build (Builder)
open Web (Response)

def megabyte : Nat := 0x100000

/-- What the framing of a form may add to the file in it. -/
def formAllowance : Nat := 64 * 1024

/-- Sizes are words of this machine. -/
def word (n : Nat) : Nat := n % 0x10000000000000000

structure Service where
  builder : Builder
  staticDir : String
  uploadDir : String
  uploadLimit : Nat
  bodyLimit : Nat
  environment : Environment
  launcher : Launcher
  session : String

namespace Service

def ofSettings (s : Config.Settings) (builder : Builder) (env : Environment) (launcher : Launcher)
    (session : String) : Service :=
  { builder := builder
    staticDir := s.server.staticDir
    uploadDir := s.storage.uploadPath env
    uploadLimit := word (s.server.uploadLimit * megabyte)
    bodyLimit := word (s.server.bodyLimit * megabyte)
    environment := env
    launcher := launcher
    session := session }

def formLimit (s : Service) : Nat := word (s.uploadLimit + formAllowance)

def storageDirs (s : Service) : List String :=
  [s.builder.workDir, s.builder.outputDir, s.uploadDir]

end Service

/-- What requests change. -/
structure State where
  files : Files
  metrics : Telemetry.Registry := {}

/-- What a request takes from clocks and from chance. -/
structure Moment where
  /-- Milliseconds since the epoch. -/
  milliseconds : Nat
  /-- A part of names that no other request has. -/
  unique : String
  timestamp : String := ""
  /-- Seconds since the service started. -/
  uptime : Nat := 0
  rendering : Telemetry.Duration := ⟨0, 0⟩
  building : Telemetry.Duration := ⟨0, 0⟩

/-- A refusal or a failure, as the client sees it. -/
structure Problem where
  status : Nat
  message : String
  report : Option Report.Summary := none

namespace Problem

def badRequest (message : String) : Problem := ⟨400, message, none⟩

def notFound (message : String) : Problem := ⟨404, message, none⟩

def tooLarge (message : String) : Problem := ⟨413, message, none⟩

def internal (message : String) : Problem := ⟨500, message, none⟩

/-- The problem that a failed build is: projects that are turned down are the client's fault. -/
def ofBuildError (e : Report.Error) : Problem :=
  let p :=
    if e.code.isClientError then badRequest ("Invalid project data: " ++ e.message)
    else internal ("Failed to generate APK: " ++ e.message)
  { p with report := some e.summary }

def toJson (p : Problem) : Json :=
  .ofMembers ([("success", .bool false), ("message", .text p.message)] ++
    match p.report with
    | some r => [("error", r.toJson)]
    | none => [])

end Problem

def jsonResponse (status : Nat) (body : Json) : Response :=
  .ofBody status "application/json" body.compact.toUTF8

def Problem.toResponse (p : Problem) : Response := jsonResponse p.status p.toJson

abbrev Work (α : Type) := ExceptT Problem (StateM State) α

namespace Work

/-- Does file work; its error becomes a problem. -/
def onFiles {α : Type} (wrap : Report.Error → Problem) (task : FileTask α) : Work α := do
  let s ← get
  let (result, files) := task.run.run s.files
  set { s with files := files }
  match result with
  | .ok a => return a
  | .error e => throw (wrap e)

/-- Does file work and gives back its result or its error. -/
def tryFiles {α : Type} (task : FileTask α) : Work (Except Report.Error α) := do
  let s ← get
  let (result, files) := task.run.run s.files
  set { s with files := files }
  return result

def count (f : Telemetry.Registry → Telemetry.Registry) : Work Unit :=
  modify fun s => { s with metrics := f s.metrics }

def answer (work : Work Response) : StateM State Response := do
  match ← work.run with
  | .ok r => return r
  | .error p => return p.toResponse

end Work

end AppScaffold.Server

import AppScaffold.Check.FileName
import AppScaffold.Server.Service

/-!
# Downloads

Packages that were built, and an archive of the static files.
-/

set_option autoImplicit false

namespace AppScaffold.Server

open Host (FileTask Path.join)
open Web (Request Response)

/-- The header that names a download; the name holds no quotes. -/
def attachment (name : String) : String := "attachment; filename=\"" ++ name ++ "\""

def packageType : String := "application/vnd.android.package-archive"

def wantedName (name : Option String) : String :=
  match name with
  | some n => if Text.isBlank n then "app.apk" else Check.sanitizeFileName n
  | none => "app.apk"

/-- The one value of a field of the query. -/
def queryValue? (r : Request) (field : String) : Except Response (Option String) :=
  match r.queryFields.filter (·.1 == field) with
  | [] => .ok none
  | [(_, value)] => .ok (some value)
  | _ => .error (.ofText 400
      ("Failed to deserialize query string: duplicate field `" ++ field ++ "`"))

def packageNotFound : Problem := .notFound "APK file not found"

def sendPackage (s : Service) (fileName : String) (name : Option String) : Work Response := do
  if !(Check.fileName fileName).isValid then throw packageNotFound
  match (← get).files.read (Path.join s.builder.outputDir fileName) with
  | .error _ => throw packageNotFound
  | .ok contents =>
    return (Response.ofBody 200 packageType contents).withHeader "content-disposition"
      (attachment (wantedName name))

def download (s : Service) (segment : String) (r : Request) : StateM State Response :=
  match Web.decoded? segment with
  | none => return .ofText 400 "Invalid URL: Invalid UTF-8 in `filename`"
  | some fileName =>
    match queryValue? r "name" with
    | .error refusal => return refusal
    | .ok name => (sendPackage s fileName name).answer

/-! ## The static files as an archive -/

def archiveName (unique : String) : String := ".zeroapp-source-" ++ unique ++ ".zip"

/-- Packs the static files into a file that is read and removed again. An archive that could not
be completed stays. -/
def packStatics (staticDir target : String) : FileTask ByteArray := do
  match Host.Path.parent? target with
  | some above => FileTask.createDirs above Host.Failure.toError
  | none => pure ()
  let _ ← Build.packageSource staticDir target
  let contents ← FileTask.look (·.read target)
  modify fun fs => (fs.removeFile target).toOption.getD fs
  MonadExcept.ofExcept (contents.mapError Host.Failure.toError)

def downloadSource (s : Service) (m : Moment) : StateM State Response :=
  Work.answer do
    let contents ← Work.onFiles (fun _ => .internal "Error generating source code download")
      (packStatics s.staticDir (Path.join s.builder.workDir (archiveName m.unique)))
    return (Response.ofBody 200 "application/zip" contents).withHeader "content-disposition"
      (attachment "zeroapp-builder-source.zip")

end AppScaffold.Server

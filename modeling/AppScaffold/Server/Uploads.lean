import AppScaffold.Check.FileName
import AppScaffold.Server.Service
import AppScaffold.Web.Form

/-!
# Uploads

A file that is uploaded is stored under a name made of the time and of its own name, and the client
is told this name. Giving it back leads to the file again.
-/

set_option autoImplicit false

namespace AppScaffold.Server

open Host (FileTask Path.join)
open Web (Form FormFault MediaType Request Response)

/-- The form that a request holds; what is larger than the limit is not read. -/
def formOf? (s : Service) (r : Request) : Option Form := do
  let mediaType ← MediaType.ofText? (← r.plainHeader? "content-type")
  let boundary ← mediaType.formBoundary?
  if s.formLimit < r.body.size then return { fault := some .tooLarge }
  else return .ofBody boundary r.body.toList

def noBoundary : Response := .ofText 400 "Invalid `boundary` for `multipart/form-data` request"

def storedName (milliseconds : Nat) (clientName : String) : String :=
  Nat.repr milliseconds ++ "-" ++ Check.sanitizeFileName clientName

def writeUpload (dir name : String) (contents : ByteArray) : FileTask Unit := do
  FileTask.createDirs dir Host.Failure.toError
  FileTask.write (Path.join dir name) contents Host.Failure.toError

/-- Stores the file in a field of a form, and gives the name it is stored under. -/
def storeUpload (s : Service) (m : Moment) (field : String) (form : Form) : Work String := do
  match form.find field with
  | .error fault => throw ⟨fault.status, fault.message, none⟩
  | .ok none => throw (.badRequest ("No " ++ field ++ " file uploaded"))
  | .ok (some part) =>
    if s.uploadLimit < part.contents.length then throw (.tooLarge "File too large")
    let stored := storedName m.milliseconds (part.fileName.getD field)
    Work.onFiles (fun e => .internal ("Failed to store upload: " ++ e.message))
      (writeUpload s.uploadDir stored ⟨part.contents.toArray⟩)
    return stored

def findUpload (s : Service) (token : String) : Work String := do
  if !(Check.fileName token).isValid then throw (.badRequest "Invalid keystore path")
  let path := Path.join s.uploadDir token
  if !(← get).files.isFile path then throw (.badRequest "Uploaded keystore not found")
  return path

/-- Takes in a file; `title` and `member` are what the answer calls it. -/
def upload (s : Service) (m : Moment) (field title member : String) (r : Request) :
    StateM State Response :=
  match formOf? s r with
  | none => return noBoundary
  | some form => Work.answer do
    let stored ← storeUpload s m field form
    return jsonResponse 200 (.ofMembers [("success", .bool true),
      ("message", .text (title ++ " uploaded successfully")), (member, .text stored)])

end AppScaffold.Server

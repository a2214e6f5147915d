import AppScaffold.Host.Files
import AppScaffold.Web.ByteRange
import AppScaffold.Web.Date
import AppScaffold.Web.FileType
import AppScaffold.Web.Message

/-!
# Static files

The files below a directory, as they are served. A path that would lead out of the directory finds
nothing; a directory stands for the index page in it.
-/

set_option autoImplicit false

namespace AppScaffold.Web

open Host (Files Failure SystemError Path.join)

/-- The file that a path means below a directory, unless the path leads elsewhere. -/
def locate? (root path : String) : Option String := do
  let inner ← decoded? (.ofList (path.toList.dropWhile (· == '/')))
  let names ← (Host.Path.components inner).foldlM (fun names c =>
    match c with
    | .normal name => some (names ++ [name])
    | .current => some names
    | _ => none) []
  return Host.Path.joinAll root names

/-- A failure that means that there is no such file for the client. -/
def isAbsence : Failure → Bool
  | .system e => e == .notFound || e == .accessDenied || e == .notDirectory
  | _ => false

/-- What a request says about the time of the last change, in seconds, and the refusal or the news
that follows from it. Dates that cannot be read do not count. -/
def conditionAnswer? (r : Request) (changed : Nat) : Option Response :=
  let since? (name : String) : Option Nat :=
    ((r.header? name).bind Date.ofText?).map Date.seconds
  if (since? "if-unmodified-since").any (· < changed) then some { status := 412 }
  else if (since? "if-modified-since").any (changed ≤ ·) then some { status := 304 }
  else none

def fileResponse (path : String) (contents : ByteArray) (range : Option String) : Response :=
  let size := contents.size
  let full : Response := (Response.ofBody 200 (fileType path) contents).withHeader
    "accept-ranges" "bytes"
  let refused (text : String) : Response :=
    ({ full with status := 416, body := text.toUTF8 }).withHeader "content-range"
      ("bytes */" ++ Nat.repr size)
  match range with
  | none => full
  | some header =>
    match ByteRange.satisfied? header size with
    | none => refused ""
    | some [r] =>
      ({ full with status := 206, body := r.slice contents }).withHeader "content-range"
        ("bytes " ++ Nat.repr r.first ++ "-" ++ Nat.repr r.last ++ "/" ++ Nat.repr size)
    | some _ => refused "Cannot serve multipart range requests"

/-- The contents of a file, or what is answered without them. The head of an answer needs none, so
that a directory will do, but it does need a path without a NUL. -/
def contentsFor (fs : Files) (r : Request) (path : String) : Except Response ByteArray :=
  if r.method == .head && fs.isDir path then .ok .empty
  else
    match fs.read path with
    | .ok contents => .ok contents
    | .error .nulInPath => .error (if r.method == .head then { status := 500 } else .notFound)
    | .error f => .error (if isAbsence f then .notFound else { status := 500 })

def serveFile (fs : Files) (root : String) (changed : Nat) (r : Request) : Response :=
  if r.method != .get && r.method != .head then .methodNotAllowed "GET,HEAD"
  else
    match locate? root r.path with
    | none => .notFound
    | some path =>
      if fs.isDir path && !r.resource.endsInSlash then
        match r.resource.withSlash? with
        | some target => { status := 307, headers := [("location", target.text)] }
        | none => { status := 500 }
      else
        let path := if fs.isDir path then Path.join path "index.html" else path
        match contentsFor fs r path with
        | .error refusal => refusal
        | .ok contents =>
          (conditionAnswer? r changed).getD
            (fileResponse path contents (r.plainHeader? "range"))

end AppScaffold.Web

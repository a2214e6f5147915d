import AppScaffold.Text.Split
import AppScaffold.Web.Percent
import AppScaffold.Web.Target

/-!
# Requests and responses

What a client asks and what it is told. Header names are compared without regard to case; those of
responses are in lower case.
-/

set_option autoImplicit false

namespace AppScaffold.Web

inductive Method where
  | get
  | head
  | post
  | options
  | other (name : String)
deriving DecidableEq, Repr, Inhabited

def Method.ofName : String → Method
  | "GET" => .get
  | "HEAD" => .head
  | "POST" => .post
  | "OPTIONS" => .options
  | name => .other name

abbrev Headers := List (String × String)

structure Request where
  method : Method := .get
  target : String
  headers : Headers := []
  body : ByteArray := .empty
deriving Inhabited

namespace Request

def header? (r : Request) (name : String) : Option String :=
  (r.headers.find? fun h => h.1.toLower == name).map (·.2)

/-- The value of a header that is plain: visible ASCII, blanks and tabs. Others are passed over. -/
def plainHeader? (r : Request) (name : String) : Option String :=
  (r.header? name).filter fun v => v.toList.all fun c => c == '\t' || (' ' ≤ c && c ≤ '~')

def resource (r : Request) : Target := .ofText r.target

def path (r : Request) : String := r.resource.path

def queryFields (r : Request) : List (String × String) :=
  let pieces := (Text.splitOn '&' (r.resource.query.getD "")).filter (!·.isEmpty)
  pieces.map fun piece =>
    match Text.cut? '=' piece.toList with
    | some (name, value) => (decodedField (.ofList name), decodedField (.ofList value))
    | none => (decodedField piece, "")

end Request

structure Response where
  status : Nat
  headers : Headers := []
  body : ByteArray := .empty
deriving Inhabited

namespace Response

def withHeader (r : Response) (name value : String) : Response :=
  { r with headers := r.headers ++ [(name, value)] }

def header? (r : Response) (name : String) : Option String := r.headers.lookup name

def ofBody (status : Nat) (mediaType : String) (body : ByteArray) : Response :=
  { status := status, headers := [("content-type", mediaType)], body := body }

def ofText (status : Nat) (text : String) : Response :=
  .ofBody status "text/plain; charset=utf-8" text.toUTF8

def methodNotAllowed (served : String) : Response :=
  { status := 405, headers := [("allow", served)] }

def notFound : Response := { status := 404 }

def withoutBody (r : Response) : Response := { r with body := .empty }

end Response

end AppScaffold.Web

import AppScaffold.Text.Split

/-!
# Request targets

What a request asks for. A target is a path with a query, a full address that also names a scheme
and a site, or a site alone. A fragment is for the client only and is dropped.
-/

set_option autoImplicit false

namespace AppScaffold.Web

structure Target where
  scheme : Option String := none
  /-- The site, with its port. -/
  authority : Option String := none
  path : String
  query : Option String := none
deriving DecidableEq, Repr, Inhabited

namespace Target

/-- The two schemes of the web are known in any case. -/
def schemeName (s : String) : String :=
  if ["http", "https"].contains s.toLower then s.toLower else s

/-- A path and what follows its first question mark. -/
def ofResource (cs : List Char) : Target :=
  { path := .ofList (cs.takeWhile (· != '?'))
    query := (Text.cut? '?' cs).map fun parts => .ofList parts.2 }

def ofText (s : String) : Target :=
  let cs := s.toList.takeWhile (· != '#')
  if cs.head? == some '/' || cs == ['*'] then ofResource cs
  else
    match Text.cutAt? "://".toList cs with
    | some (scheme, rest) =>
      let inSite (c : Char) : Bool := c != '/' && c != '?'
      let resource := ofResource (rest.dropWhile inSite)
      { resource with
        scheme := some (schemeName (.ofList scheme))
        authority := some (.ofList (rest.takeWhile inSite))
        path := if resource.path.isEmpty then "/" else resource.path }
    | none => { authority := some (.ofList cs), path := "" }

def text (t : Target) : String :=
  let site := match t.scheme, t.authority with
    | some scheme, some authority => scheme ++ "://" ++ authority
    | _, authority => authority.getD ""
  site ++ t.path ++ match t.query with
    | some query => "?" ++ query
    | none => ""

def endsInSlash (t : Target) : Bool := t.path.toList.getLast? == some '/'

/-- The same target with a slash after its path. A site without a scheme has no paths. -/
def withSlash? (t : Target) : Option Target :=
  if t.authority.isSome && t.scheme.isNone then none else some { t with path := t.path ++ "/" }

end Target

end AppScaffold.Web

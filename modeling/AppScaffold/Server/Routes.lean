import AppScaffold.Health.Check
import AppScaffold.Server.Downloads
import AppScaffold.Server.Generation
import AppScaffold.Web.StaticFiles

/-!
# Routes

Which path and method lead to which work. What is no route of its own is looked for among the
static files. Pages of any origin may use the service.
-/

set_option autoImplicit false

namespace AppScaffold.Server

open Web (Method Request Response)

inductive Route where
  | generate
  | uploadKeystore
  | uploadIcon
  | health
  | metrics
  | download (segment : String)
  | source
  | static
deriving DecidableEq, Repr, Inhabited

namespace Route

/-- The part of a path after `start`, if it is one segment. -/
def segment? (start path : String) : Option String := do
  let rest ← Text.dropLiteral? start.toList path.toList
  if rest.isEmpty || rest.contains '/' then none else some (.ofList rest)

def ofPath (path : String) : Route :=
  match path with
  | "/api/generate-apk" => .generate
  | "/api/upload-keystore" => .uploadKeystore
  | "/api/upload-icon" => .uploadIcon
  | "/api/health" => .health
  | "/api/metrics" => .metrics
  | "/download-source" => .source
  | path =>
    match segment? "/download/" path with
    | some segment => .download segment
    | none => .static

/-- The methods of a route; a static file says itself which it takes. -/
def methods : Route → List Method
  | .generate | .uploadKeystore | .uploadIcon => [.post]
  | _ => [.get, .head]

def methodNames : Route → String
  | .generate | .uploadKeystore | .uploadIcon => "POST"
  | _ => "GET,HEAD"

end Route

def healthResponse (s : Service) (m : Moment) : StateM State Response := do
  let state ← get
  let checks := Health.builderChecks s.launcher s.environment m.unique s.storageDirs
  let (results, files) := (Health.runChecks checks).run state.files
  set { state with files := files }
  let report := Health.Report.ofChecks results 0 m.timestamp
  return jsonResponse (if report.status.isOperational then 200 else 503) report.toJson

def metricsResponse (s : Service) (m : Moment) : StateM State Response := do
  return jsonResponse 200 ((← get).metrics.toJson s.session m.uptime)

def serve (s : Service) (m : Moment) (r : Request) : Route → StateM State Response
  | .generate => generate s m r
  | .uploadKeystore => upload s m "keystore" "Keystore" "keystorePath" r
  | .uploadIcon => upload s m "icon" "Icon" "iconPath" r
  | .health => healthResponse s m
  | .metrics => metricsResponse s m
  | .download segment => download s segment r
  | .source => downloadSource s m
  | .static => do return Web.serveFile (← get).files s.staticDir (m.milliseconds / 1000) r

/-- What tells a browser that it may hand the answer to the page that asked. -/
def openToAll (r : Response) : Response :=
  ((r.withHeader "vary" "origin, access-control-request-method, access-control-request-headers")
    |>.withHeader "access-control-allow-origin" "*").withHeader "access-control-expose-headers" "*"

/-- The answer to a browser that asks what it may send; a route of its own also says what it
takes. -/
def preflight (route : Route) : Response :=
  let allowed := if route == .static then [] else [("allow", route.methodNames)]
  { status := 200
    headers := [("vary", "origin, access-control-request-method, access-control-request-headers"),
      ("access-control-allow-origin", "*"), ("access-control-allow-methods", "*"),
      ("access-control-allow-headers", "*")] ++ allowed }

def respond (s : Service) (m : Moment) (r : Request) : StateM State Response := do
  let route := Route.ofPath r.path
  if r.method == .options then return preflight route
  if !route.methods.contains r.method then
    return openToAll (.methodNotAllowed route.methodNames)
  let response ← serve s m r route
  return openToAll (if r.method == .head then response.withoutBody else response)

end AppScaffold.Server

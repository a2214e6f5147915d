import AppScaffold.App.Project
import AppScaffold.Check.Findings
import AppScaffold.Check.Semver
import AppScaffold.Render.Manifest

/-!
# Checking projects

Errors reject a project; warnings speak of output that is probably not what was meant.
-/

set_option autoImplicit false

namespace AppScaffold.Check

def checkVersion (p : App.Project) (f : Findings) : Findings :=
  f.warnIf "version" (!Semver.parses p.version) "Version is not of the form x.y.z"

def checkScreenId (f : Findings) (id : String) : Findings :=
  f.pattern ("screens." ++ id) id .identifier "a letter followed by letters, digits or underscores"

def checkScreenName (f : Findings) (id : String) (s : App.Screen) : Findings :=
  let field := "screens." ++ id ++ ".name"
  let clash :=
    if s.activityName == Render.mainActivityName then
      some ("Screen name \"" ++ s.name ++ "\" maps to " ++ Render.mainActivityName ++
        ", which belongs to the main screen")
    else none
  (f.warnIf field (s.activityName == "Activity")
    "Screen name has no letters or digits; its activity will be named \"Activity\"").custom
    field clash

/-- The ids of the screens by activity class, both in increasing order. -/
def classes (screens : List (String × App.Screen)) : Keyed.Map (List String) :=
  screens.foldl
    (fun known s =>
      let c := s.2.activityName
      known.insert c ((known.find? c).getD [] ++ [s.1]))
    .empty

def checkClass (f : Findings) (c : String × List String) : Findings :=
  f.warnIf "screens" (1 < c.2.length)
    ("Screens " ++ Text.joinWith ", " c.2 ++ " all map to activity " ++ c.1)

def checkDepth (maxDepth : Nat) (f : Findings) (id : String) (s : App.Screen) : Findings :=
  f.warnIf ("screens." ++ id ++ ".components") (maxDepth < s.depth)
    ("Components nest " ++ Nat.repr s.depth ++ " levels deep; anything past level " ++
      Nat.repr maxDepth ++ " is omitted")

def project (maxDepth : Nat) (p : App.Project) : Findings :=
  let noHome :=
    if p.mainScreen?.isNone then
      some ("A screen with id \"" ++ App.mainScreenId ++ "\" is required")
    else none
  let f := (({} : Findings).required "name" p.name).required "package" p.package
  let f := f.pattern "package" p.package .reverseDomain
    "a reverse-domain identifier such as com.example.app"
  let f := checkVersion p (f.custom "screens" noHome)
  let f := p.screens.entries.foldl (fun f s => checkScreenId f s.1) f
  let f := p.secondaryScreens.foldl (fun f s => checkScreenName f s.1 s.2) f
  let f := (classes p.secondaryScreens).entries.foldl checkClass f
  p.screens.entries.foldl (fun f s => checkDepth maxDepth f s.1 s.2) f

/-- The warnings of an acceptable project, or the error that rejects it. -/
def accept (maxDepth : Nat) (p : App.Project) : Except Report.Error (List String) :=
  let f := project maxDepth p
  match f.toError? with
  | some e => .error (e.withSuggestion "Fix the listed fields and resubmit")
  | none => .ok f.warningTexts

end AppScaffold.Check

import AppScaffold.App.Component
import AppScaffold.Keyed.Basic
import AppScaffold.Text.Space
import AppScaffold.Text.Split

/-!
# Projects

An app is a name, a package, a version and screens by id. Screens stand in the order of their
ids, so that whatever is made of them has one order.
-/

set_option autoImplicit false

namespace AppScaffold.App

structure Screen where
  name : String := ""
  components : List Component := []
deriving Repr, Inhabited

namespace Screen

/-- The class of the screen: the ASCII letters and digits of its name, then `Activity`. -/
def activityName (s : Screen) : String :=
  String.ofList (s.name.toList.filter Text.isAsciiAlnum) ++ "Activity"

def depth (s : Screen) : Nat := Component.depthAll s.components

end Screen

/-- Screens by id, in increasing order of the ids. -/
abbrev Screens := Keyed.Map Screen

def layoutName (id : String) : String :=
  if id == mainScreenId then "activity_main" else "activity_" ++ id

def defaultVersion : String := "1.0.0"

structure Project where
  name : String := ""
  package : String := ""
  declaredVersion : Option String := none
  screens : Screens := .empty
deriving Repr, Inhabited

namespace Project

def version (p : Project) : String := p.declaredVersion.getD defaultVersion

def withVersion (p : Project) (version : String) : Project :=
  { p with declaredVersion := some version }

def withScreen (p : Project) (id : String) (screen : Screen) : Project :=
  { p with screens := p.screens.insert id screen }

def mainScreen? (p : Project) : Option Screen := p.screens.find? mainScreenId

/-- All screens but the one the app starts with, in the order of their ids. -/
def secondaryScreens (p : Project) : List (String × Screen) :=
  p.screens.entries.filter fun s => s.1 != mainScreenId

def packageSegments (p : Project) : List String :=
  (Text.splitOn '.' p.package).filter (· != "")

/-- The name offered for a download: each run of white space in the app's name is one mark. -/
def downloadName (p : Project) : String :=
  String.ofList (Text.collapse '_' p.name.toList) ++ "-" ++ p.version ++ ".apk"

end Project

end AppScaffold.App

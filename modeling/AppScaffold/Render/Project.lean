import AppScaffold.Host.Path
import AppScaffold.Render.Layout
import AppScaffold.Render.Resources
import AppScaffold.Render.Sources
import AppScaffold.Report.Error

/-!
# Rendered projects

All documents of a project, and the files they are written to. Rendering needs the main screen and
nothing else.
-/

set_option autoImplicit false

namespace AppScaffold.Render

open Host (Path.join Path.joinAll)

structure GeneratedFile where
  path : String
  contents : String
deriving DecidableEq, Repr, Inhabited

/-- The documents that differ from project to project. -/
structure RenderedProject where
  package : String
  manifest : String
  layouts : Keyed.Map String
  strings : String
  mainActivity : Activity
  activities : List (String × Activity)
  rootBuild : String
  appBuild : String
deriving Repr, Inhabited

def mainDir : String := "app/src/main"

def resDir : String := "app/src/main/res"

namespace RenderedProject

def sourceDir (r : RenderedProject) : String :=
  Path.joinAll (Path.join mainDir "java") ((Text.splitOn '.' r.package).filter (· != ""))

def sourceFile (r : RenderedProject) (a : Activity) : GeneratedFile :=
  ⟨Path.join r.sourceDir (a.className ++ ".java"), a.source⟩

def layoutFile (name document : String) : GeneratedFile :=
  ⟨Path.join (Path.join resDir "layout") (name ++ ".xml"), document⟩

/-- The files of the project in the order in which they are written. -/
def files (r : RenderedProject) : List GeneratedFile :=
  [⟨"build.gradle", r.rootBuild⟩,
    ⟨"settings.gradle", settingsFile⟩,
    ⟨"gradle.properties", propertiesFile⟩,
    ⟨"app/build.gradle", r.appBuild⟩,
    ⟨Path.join mainDir "AndroidManifest.xml", r.manifest⟩,
    ⟨Path.join resDir "values/strings.xml", r.strings⟩,
    ⟨Path.join resDir "values/colors.xml", colors⟩,
    ⟨Path.join resDir "values/styles.xml", styles⟩,
    ⟨Path.join resDir "drawable/placeholder.xml", placeholder⟩,
    r.sourceFile r.mainActivity] ++
    r.layouts.map (fun l => layoutFile l.1 l.2) ++
    r.activities.map (fun a => r.sourceFile a.2)

end RenderedProject

def noMainScreen : Report.Error :=
  { code := .invalidInput
    message := "Project has no mainScreen"
    suggestion := some "Add a screen with the id \"mainScreen\"" }

/-- Renders every document; of two screens with one layout name the later one stays. -/
def project (requested : Nat) (p : App.Project) : Except Report.Error RenderedProject :=
  match p.mainScreen? with
  | none => .error noMainScreen
  | some home =>
    let document (s : App.Screen) : String := layout requested p.name s
    .ok {
      package := p.package
      manifest := manifest p
      layouts := p.secondaryScreens.foldl
        (fun known s => known.insert (App.layoutName s.1) (document s.2))
        (Keyed.Map.empty.insert (App.layoutName App.mainScreenId) (document home))
      strings := strings p
      mainActivity := .main p
      activities := p.secondaryScreens.map fun s => (s.1, .ofScreen p s.1 s.2)
      rootBuild := rootBuild p
      appBuild := appBuild p }

end AppScaffold.Render

import AppScaffold.CommandLine.Run
import AppScaffold.Proofs.Build.Generated

/-!
# Printing and writing layouts

What printing a screen shows, and what generating a project writes for it. The two agree for every
screen of an accepted project unless a screen is called `main`: this one takes the place of the
main screen's layout.
-/

set_option autoImplicit false

namespace AppScaffold.CommandLine

open App (Project Screen layoutName)
open Build (Builder)
open Host (Path.join outcome outcome_bind_of_ok)
open Terminal (Console)

variable {p : Project} {warnings : List String} {s : Session} {path : String}

theorem outcome_readProject (h : loadProject s.files path = .ok p) :
    outcome (readProject path) s = (.ok p, s) := by
  change outcome (MonadExcept.ofExcept (loadProject s.files path) : Work Project) s = _
  rw [h]
  rfl

theorem outcome_onConsole (f : Console → Console) (s : Session) :
    outcome (Work.onConsole f) s = (.ok (), { s with console := f s.console }) := rfl

theorem toError?_of_accept {limit : Nat} (h : Check.accept limit p = .ok warnings) :
    (Check.project limit p).toError? = none ∧ (Check.project limit p).warningTexts = warnings := by
  rw [Check.accept] at h
  split at h
  · cases h
  · rename_i hnone
    exact ⟨hnone, Except.ok.inj h⟩

theorem outcome_render {settings : Config.Settings} {screen : Option String} {text : String}
    (hload : loadProject s.files path = .ok p)
    (hcheck : Check.accept settings.render.maxDepth p = .ok warnings)
    (hdocument : document settings.render.maxDepth p screen = .ok text) :
    outcome (render settings path screen) s =
      (.ok 0, { s with console := (warnings.foldl Console.warning s.console).print text }) := by
  obtain ⟨hnone, hwarnings⟩ := toError?_of_accept hcheck
  rw [render, outcome_bind_of_ok (outcome_readProject hload)]
  simp only [hnone, hwarnings, hdocument]
  rw [showWarnings, outcome_bind_of_ok (outcome_onConsole _ _)]
  rfl

theorem document_of_find? (limit : Nat) {id : String} {screen : Screen}
    (h : p.screens.find? id = some screen) :
    document limit p (some id) = .ok (Render.layout limit p.name screen) := by
  rw [document, h]

/-- Each screen of an accepted project is printed as its layout. The project that is written holds
one layout for each screen, with the text that is printed, exactly when no screen is called
`main`. -/
theorem layouts_written_as_printed_iff (b : Builder) (p : Project) (warnings : List String)
    (h : b.check p = .ok warnings) :
    ∃ r, Render.project b.maxDepth p = .ok r ∧
      (∀ dir, b.generate p dir = (do return ⟨← Build.writeFiles dir r.files, warnings⟩)) ∧
      (∀ (settings : Config.Settings) (session : Session) (path id : String) (screen : Screen),
        settings.render.maxDepth = b.maxDepth → loadProject session.files path = .ok p →
        p.screens.find? id = some screen →
        outcome (render settings path (some id)) session =
          (.ok 0, { session with
            console := (warnings.foldl Console.warning session.console).print
              (Render.layout b.maxDepth p.name screen) })) ∧
      ((r.layouts.entries.Perm (p.screens.map fun s =>
          (layoutName s.1, Render.layout b.maxDepth p.name s.2)) ∧
        ∀ id screen, p.screens.find? id = some screen →
          r.layouts.find? (layoutName id) = some (Render.layout b.maxDepth p.name screen) ∧
          r.files.filter (fun f =>
              f.path == "app/src/main/res/layout/" ++ layoutName id ++ ".xml") =
            [⟨"app/src/main/res/layout/" ++ layoutName id ++ ".xml",
              Render.layout b.maxDepth p.name screen⟩]) ↔
        p.screens.find? "main" = none) := by
  obtain ⟨hp, -⟩ := Check.accept_eq_ok_iff.mp h
  obtain ⟨home, hhome⟩ := Option.isSome_iff_exists.mp hp.home
  obtain ⟨r, hr, hrenders⟩ := Render.exists_renders b.maxDepth hhome
  have hperm := Render.layouts_perm_iff hrenders hhome
  refine ⟨r, hr, Build.generate_of_check h hr, ?_, fun hall => hperm.mp hall.1, ?_⟩
  · intro settings session path id screen hlimit hload hfind
    have hdocument := document_of_find? settings.render.maxDepth hfind
    rw [← hlimit]
    exact outcome_render hload (hlimit ▸ h) hdocument
  · intro hmain
    refine ⟨hperm.mpr hmain, fun id screen hfind => ?_⟩
    have hmem : (layoutName id, Render.layout b.maxDepth p.name screen) ∈ r.layouts.entries :=
      (hperm.mpr hmain).mem_iff.mpr
        (List.mem_map.mpr ⟨(id, screen), p.screens.find?_eq_some_iff.mp hfind, rfl⟩)
    have hlayout := r.layouts.find?_eq_some_iff.mpr hmem
    exact ⟨hlayout, Render.filter_files_of_find? hrenders hhome hlayout⟩

theorem notesProject_layouts_written :
    ∃ r, Render.project 32 Check.notesProject = .ok r ∧
      r.layouts.entries.Perm (Check.notesProject.screens.map fun s =>
        (layoutName s.1, Render.layout 32 "Notes" s.2)) := by
  let b : Builder := { (default : Builder) with maxDepth := 32 }
  obtain ⟨r, hr, _, _, hiff⟩ := layouts_written_as_printed_iff b Check.notesProject _
    (Check.accept_eq_ok_iff.mpr ⟨Check.acceptable_notesProject, rfl⟩)
  exact ⟨r, hr, (hiff.mpr (by decide)).1⟩

def overviewProject : Project :=
  (({ name := "Notes", package := "io.notes.app" } : Project).withScreen App.mainScreenId
    { name := "Home", components := [.text { content := some "Home text" }] }).withScreen "main"
    { name := "Overview", components := [.text { content := some "Overview text" }] }

theorem acceptable_overviewProject : Check.Acceptable overviewProject where
  nameGiven := by decide
  packageGiven := by decide
  package := by decide
  home := by decide
  ids := by decide
  classes := by decide

/-- Not every screen of an accepted project keeps its layout. -/
theorem not_all_layouts_kept :
    ¬ ∀ (b : Builder) (p : Project) (warnings : List String), b.check p = .ok warnings →
      ∃ r, Render.project b.maxDepth p = .ok r ∧
        ∀ id screen, p.screens.find? id = some screen →
          r.layouts.find? (layoutName id) = some (Render.layout b.maxDepth p.name screen) := by
  intro h
  let b : Builder := { (default : Builder) with maxDepth := 32 }
  obtain ⟨r, _, hkept⟩ := h b overviewProject _
    (Check.accept_eq_ok_iff.mpr ⟨acceptable_overviewProject, rfl⟩)
  have hhome := hkept App.mainScreenId
    { name := "Home", components := [.text { content := some "Home text" }] } rfl
  have hmain := hkept "main"
    { name := "Overview", components := [.text { content := some "Overview text" }] } rfl
  have hsame := Option.some.inj (hhome.symm.trans hmain)
  revert hsame
  decide +kernel

end AppScaffold.CommandLine

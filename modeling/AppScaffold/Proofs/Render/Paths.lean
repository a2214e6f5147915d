import AppScaffold.Proofs.Check.Acceptance
import AppScaffold.Proofs.Pattern.Word
import AppScaffold.Proofs.Render.Layouts

/-!
# Paths of generated files

The files of an accepted project have plain paths: the package, the ids of the screens and the
names of the activities are the only texts of a project that reach a path, and none of them holds
a slash or is made of dots.
-/

set_option autoImplicit false

namespace AppScaffold.Render

open Host.Path (IsName Plain)

/-! ## The files of a project -/

/-- Where the files are that every project has at the same places. -/
def fixedPaths : List String :=
  ["build.gradle", "settings.gradle", "gradle.properties", "app/build.gradle",
    Host.Path.join mainDir "AndroidManifest.xml", Host.Path.join resDir "values/strings.xml",
    Host.Path.join resDir "values/colors.xml", Host.Path.join resDir "values/styles.xml",
    Host.Path.join resDir "drawable/placeholder.xml"]

def RenderedProject.allActivities (r : RenderedProject) : List Activity :=
  r.mainActivity :: r.activities.map (·.2)

theorem Renders.allActivities {requested : Nat} {p : App.Project} {home : App.Screen}
    {r : RenderedProject} (h : Renders requested p home r) :
    r.allActivities = .main p :: p.secondaryScreens.map fun s => .ofScreen p s.1 s.2 := by
  rw [RenderedProject.allActivities, h.mainActivity, h.activities, List.map_map]
  rfl

/-- A file is at a fixed place, or it is a layout or the source of an activity. -/
theorem RenderedProject.cases_of_mem_files {r : RenderedProject} {f : GeneratedFile}
    (hf : f ∈ r.files) : f.path ∈ fixedPaths ∨
      (∃ l ∈ r.layouts.entries, f = layoutFile l.1 l.2) ∨
      ∃ a ∈ r.allActivities, f = r.sourceFile a := by
  rw [files, List.mem_append, List.mem_append] at hf
  rcases hf with (hhead | hlayout) | hactivity
  · revert f
    simp only [List.forall_mem_cons]
    refine ⟨?_, ?_, ?_, ?_, ?_, ?_, ?_, ?_, ?_,
      Or.inr (Or.inr ⟨r.mainActivity, List.mem_cons_self, rfl⟩), by simp⟩
    all_goals exact Or.inl (by decide)
  · obtain ⟨l, hl, rfl⟩ := List.mem_map.mp hlayout
    exact Or.inr (Or.inl ⟨l, hl, rfl⟩)
  · obtain ⟨a, ha, rfl⟩ := List.mem_map.mp hactivity
    exact Or.inr (Or.inr ⟨a.2, List.mem_cons_of_mem _ (List.mem_map_of_mem ha), rfl⟩)

/-- What a path takes from a project has no slash and is not made of dots. -/
structure RenderedProject.PlainNames (r : RenderedProject) : Prop where
  package : ∀ part ∈ (Text.splitOn '.' r.package).filter (· != ""), IsName part
  mainActivity : IsName (r.mainActivity.className ++ ".java")
  layouts : ∀ l ∈ r.layouts.entries, IsName (l.1 ++ ".xml")
  activities : ∀ a ∈ r.activities, IsName (a.2.className ++ ".java")

theorem RenderedProject.PlainNames.plain_sourceDir {r : RenderedProject} (h : r.PlainNames) :
    Plain r.sourceDir :=
  Host.Path.Plain.joinAll (by decide) fun part hpart =>
    Host.Path.plain_of_isName (h.package part hpart)

theorem RenderedProject.PlainNames.isName_source {r : RenderedProject} (h : r.PlainNames)
    {a : Activity} (ha : a ∈ r.allActivities) : IsName (a.className ++ ".java") := by
  rcases List.mem_cons.mp ha with rfl | ha
  · exact h.mainActivity
  · obtain ⟨x, hx, rfl⟩ := List.mem_map.mp ha
    exact h.activities x hx

theorem RenderedProject.plain_files {r : RenderedProject} (h : r.PlainNames) :
    ∀ f ∈ r.files, Plain f.path := by
  have hlayoutDir : Plain (Host.Path.join resDir "layout") := by decide
  intro f hf
  rcases cases_of_mem_files hf with hfixed | ⟨l, hl, rfl⟩ | ⟨a, ha, rfl⟩
  · have hall : ∀ path ∈ fixedPaths, Plain path := by decide
    exact hall _ hfixed
  · exact hlayoutDir.join (Host.Path.plain_of_isName (h.layouts l hl))
  · exact h.plain_sourceDir.join (Host.Path.plain_of_isName (h.isName_source ha))

theorem isName_of_isWord {s : String} (h : Pattern.isWord s.toList) : IsName s := by
  have hchars := Pattern.isWordChar_of_isWord h
  have hne : s.toList ≠ [] := by
    intro hnil
    rw [hnil] at h
    exact Bool.false_ne_true h
  obtain ⟨c, cs, hcs⟩ := List.exists_cons_of_ne_nil hne
  have hc : c ∈ s.toList := hcs ▸ List.mem_cons_self
  refine Host.Path.isName_of_mem hc (Pattern.ne_of_isWordChar (hchars c hc) rfl) ?_
  exact fun hslash => Pattern.ne_of_isWordChar (hchars _ hslash) (x := '/') rfl rfl

theorem slash_not_mem_id {id : String} (h : id.isEmpty ∨ Pattern.identifier.find id) :
    '/' ∉ id.toList := by
  rcases h with hempty | hword
  · simp [String.isEmpty_iff.mp hempty]
  · exact (isName_of_isWord ((Pattern.identifier_find_iff id).mp hword)).no_slash

theorem isName_layoutFile {id : String} (h : '/' ∉ id.toList) :
    IsName (App.layoutName id ++ ".xml") := by
  unfold App.layoutName
  split
  · decide
  · refine Host.Path.isName_of_mem (c := 'a') ?_ (by decide) ?_ <;> simp [h]

theorem isName_sourceFile (s : App.Screen) : IsName (s.activityName ++ ".java") := by
  refine Host.Path.isName_of_mem (c := 'A') ?_ (by decide) ?_
  · simp [App.Screen.activityName]
  · simp [App.Screen.activityName, Text.isAsciiAlnum]

theorem Renders.plainNames {requested : Nat} {p : App.Project} {home : App.Screen}
    {r : RenderedProject} (h : Renders requested p home r) (hhome : p.mainScreen? = some home)
    (hp : Check.Acceptable p) : r.PlainNames where
  package part hpart := by
    rw [h.package] at hpart
    have hwords := ((Pattern.reverseDomain_find_iff p.package).mp hp.package).2
    exact isName_of_isWord (hwords part (List.mem_filter.mp hpart).1)
  mainActivity := by
    rw [h.mainActivity]
    change IsName (mainActivityName ++ ".java")
    decide
  layouts l hl := by
    obtain ⟨s, hs, rfl⟩ := mem_layouts h hhome hl
    exact isName_layoutFile (slash_not_mem_id (hp.ids s hs))
  activities a ha := by
    rw [h.activities] at ha
    obtain ⟨s, _, rfl⟩ := List.mem_map.mp ha
    exact isName_sourceFile s.2

theorem exists_project_plain {p : App.Project} (requested : Nat) (h : Check.Acceptable p) :
    ∃ r, project requested p = .ok r ∧ ∀ f ∈ r.files, Plain f.path := by
  obtain ⟨home, hhome⟩ := Option.isSome_iff_exists.mp h.home
  obtain ⟨r, hr, hrenders⟩ := exists_renders requested hhome
  exact ⟨r, hr, RenderedProject.plain_files (hrenders.plainNames hhome h)⟩

section Accepted

variable {p : App.Project} {r : RenderedProject} {requested : Nat}

theorem renders_of_project (hp : Check.Acceptable p) (hr : project requested p = .ok r) :
    ∃ home, p.mainScreen? = some home ∧ Renders requested p home r := by
  obtain ⟨home, hhome⟩ := Option.isSome_iff_exists.mp hp.home
  obtain ⟨r', hr', hrenders⟩ := exists_renders requested hhome
  obtain rfl := Except.ok.inj (hr.symm.trans hr')
  exact ⟨home, hhome, hrenders⟩

theorem plain_of_project (hp : Check.Acceptable p) (hr : project requested p = .ok r) :
    ∀ f ∈ r.files, Plain f.path := by
  obtain ⟨home, hhome, hrenders⟩ := renders_of_project hp hr
  exact RenderedProject.plain_files (hrenders.plainNames hhome hp)

end Accepted

end AppScaffold.Render

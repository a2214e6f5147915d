import Mathlib.Data.List.Nodup
import Mathlib.Data.List.Perm.Subperm
import AppScaffold.Proofs.Host.Path
import AppScaffold.Proofs.Keyed.Lookup
import AppScaffold.Render.Project

/-!
# Layouts by name

The names of layouts differ for all screens but two: a screen with the id `main` shares its layout
with the screen the app starts with. Without such a screen the rendered project holds one layout
for each screen.
-/

set_option autoImplicit false

namespace AppScaffold.Render

open App (Project Screen layoutName mainScreenId)

def layoutEntry (requested : Nat) (p : Project) (s : String × Screen) : String × String :=
  (layoutName s.1, layout requested p.name s.2)

/-- What rendering a project with a main screen gives, as far as names and layouts go. -/
structure Renders (requested : Nat) (p : Project) (home : Screen) (r : RenderedProject) : Prop where
  package : r.package = p.package
  layouts : r.layouts = (((mainScreenId, home) :: p.secondaryScreens).map
    (layoutEntry requested p)).foldl (fun known l => known.insert l.1 l.2) .empty
  mainActivity : r.mainActivity = .main p
  activities : r.activities = p.secondaryScreens.map fun s => (s.1, .ofScreen p s.1 s.2)

theorem exists_renders (requested : Nat) {p : Project} {home : Screen}
    (h : p.mainScreen? = some home) :
    ∃ r, project requested p = .ok r ∧ Renders requested p home r := by
  rw [project, h]
  refine ⟨_, rfl, rfl, ?_, rfl, rfl⟩
  rw [List.foldl_map]
  rfl

variable {requested : Nat} {p : Project} {home : Screen} {r : RenderedProject}

theorem screens_perm (h : p.mainScreen? = some home) :
    ((mainScreenId, home) :: p.secondaryScreens).Perm p.screens.entries := by
  have hhome : (mainScreenId, home) ∈ p.screens.entries := p.screens.find?_eq_some_iff.mp h
  have hnodup : p.screens.entries.Nodup := p.screens.nodup_keys.of_map
  have hfirst : (mainScreenId, home) ∉ p.secondaryScreens := fun hmem => by
    simpa using (List.mem_filter.mp hmem).2
  apply (List.perm_ext_iff_of_nodup (List.nodup_cons.mpr ⟨hfirst, hnodup.filter _⟩) hnodup).mpr
  intro s
  rw [List.mem_cons, Project.secondaryScreens, List.mem_filter, bne_iff_ne]
  constructor
  · rintro (rfl | ⟨hs, _⟩)
    · exact hhome
    · exact hs
  · intro hs
    by_cases hkey : s.1 = mainScreenId
    · have hfind : p.screens.find? mainScreenId = some s.2 :=
        p.screens.find?_eq_some_iff.mpr (hkey ▸ hs)
      exact Or.inl (Prod.ext hkey (Option.some.inj (hfind.symm.trans h)))
    · exact Or.inr ⟨hs, hkey⟩

theorem mem_layouts (h : Renders requested p home r) (hhome : p.mainScreen? = some home)
    {l : String × String} (hl : l ∈ r.layouts.entries) :
    ∃ s ∈ p.screens.entries, l = layoutEntry requested p s := by
  rw [h.layouts] at hl
  rcases Keyed.Map.mem_entries_foldl_insert hl with hl | hl
  · obtain ⟨s, hs, rfl⟩ := List.mem_map.mp hl
    exact ⟨s, (screens_perm hhome).mem_iff.mp hs, rfl⟩
  · exact absurd hl List.not_mem_nil

/-! ## When names differ -/

theorem layoutName_of_ne {id : String} (h : id ≠ mainScreenId) :
    layoutName id = "activity_" ++ id := by
  rw [layoutName, if_neg (by simpa using h)]

/-- Two screens share a layout only when one is the main screen and the other is called `main`. -/
theorem layoutName_eq_iff {a b : String} (hne : a ≠ b) :
    layoutName a = layoutName b ↔
      a = mainScreenId ∧ b = "main" ∨ a = "main" ∧ b = mainScreenId := by
  have hmain : layoutName mainScreenId = "activity_" ++ "main" := rfl
  by_cases ha : a = mainScreenId
  · have hb : b ≠ mainScreenId := fun hb => hne (ha.trans hb.symm)
    rw [ha, hmain, layoutName_of_ne hb, String.append_right_inj]
    simp [hb, eq_comm]
  · by_cases hb : b = mainScreenId
    · rw [hb, hmain, layoutName_of_ne ha, String.append_right_inj]
      simp [ha]
    · rw [layoutName_of_ne ha, layoutName_of_ne hb, String.append_right_inj]
      simp [ha, hb, hne]

theorem nodup_layoutNames_iff (h : p.mainScreen? = some home) :
    (p.screens.keys.map layoutName).Nodup ↔ p.screens.find? "main" = none := by
  have hhome : mainScreenId ∈ p.screens.keys :=
    List.mem_map.mpr ⟨_, p.screens.find?_eq_some_iff.mp h, rfl⟩
  have hdiffer : "main" ≠ mainScreenId := by decide
  rw [Keyed.Map.find?_eq_none_iff]
  constructor
  · intro hnodup hmain
    have hshared := (layoutName_eq_iff hdiffer).mpr (Or.inr ⟨rfl, rfl⟩)
    exact hdiffer (List.inj_on_of_nodup_map hnodup hmain hhome hshared)
  · intro hmain
    refine List.Nodup.map_on (fun a ha b hb hshared => ?_) p.screens.nodup_keys
    by_contra hne
    rcases (layoutName_eq_iff hne).mp hshared with ⟨_, rfl⟩ | ⟨rfl, _⟩
    · exact hmain hb
    · exact hmain ha

/-- Without a screen called `main`, each screen has a layout of its own. -/
theorem layouts_perm_iff (h : Renders requested p home r) (hhome : p.mainScreen? = some home) :
    r.layouts.entries.Perm (p.screens.map (layoutEntry requested p)) ↔
      p.screens.find? "main" = none := by
  have hperm := (screens_perm hhome).map (layoutEntry requested p)
  have hnames : ((p.screens.map (layoutEntry requested p)).map (·.1)) =
      p.screens.keys.map layoutName := by
    simp [Keyed.Map.map, Keyed.Map.keys, layoutEntry]
  rw [← nodup_layoutNames_iff hhome, ← hnames]
  constructor
  · intro hlayouts
    exact (hlayouts.map Prod.fst).nodup_iff.mp r.layouts.nodup_keys
  · intro hnodup
    rw [h.layouts]
    have hfold := Keyed.Map.entries_foldl_insert_perm _ .empty
      ((hperm.map Prod.fst).nodup_iff.mpr hnodup) (fun _ _ => List.not_mem_nil)
    exact (hfold.trans (.of_eq (List.append_nil _))).trans hperm

/-! ## Files of layouts -/

def layoutPath (id : String) : String :=
  "app/src/main/res/layout/" ++ layoutName id ++ ".xml"

theorem relative_layoutName (id : String) :
    Host.Path.isAbsolute (layoutName id ++ ".xml") = false := by
  unfold layoutName Host.Path.isAbsolute
  split <;> simp

theorem layoutFile_path (id document : String) :
    (RenderedProject.layoutFile (layoutName id) document).path = layoutPath id := by
  have hdir : Host.Path.join resDir "layout" = "app/src/main/res/layout" := by decide
  have hslash : "app/src/main/res/layout" ++ "/" = "app/src/main/res/layout/" := by decide
  change Host.Path.join (Host.Path.join resDir "layout") (layoutName id ++ ".xml") = _
  rw [hdir, Host.Path.join, relative_layoutName, if_neg Bool.false_ne_true,
    if_neg (by decide), hslash, ← String.append_assoc]
  rfl

theorem layoutPath_inj {a b : String} :
    layoutPath a = layoutPath b ↔ layoutName a = layoutName b := by
  unfold layoutPath
  rw [String.append_left_inj, String.append_right_inj]

theorem getLast?_layoutPath (id : String) : (layoutPath id).toList.getLast? = some 'l' := by
  unfold layoutPath
  rw [String.toList_append, List.getLast?_append]
  simp

theorem sourceFile_path_ne (r : RenderedProject) (a : Activity) (id : String) :
    (r.sourceFile a).path ≠ layoutPath id := by
  obtain ⟨s, hs⟩ := Host.Path.exists_join_eq_append r.sourceDir (a.className ++ ".java")
  change Host.Path.join r.sourceDir (a.className ++ ".java") ≠ _
  rw [hs]
  intro heq
  have hlast := getLast?_layoutPath id
  simp [← heq] at hlast

theorem ne_layoutPath {path : String} (id : String)
    (h : path.toList.take 23 ≠ "app/src/main/res/layout".toList) : path ≠ layoutPath id := by
  rintro rfl
  apply h
  unfold layoutPath
  simp

theorem filter_files_layoutPath (r : RenderedProject) (id : String) :
    r.files.filter (fun f => f.path == layoutPath id) =
      (r.layouts.map fun l => RenderedProject.layoutFile l.1 l.2).filter
        fun f => f.path == layoutPath id := by
  have hother {fs : List GeneratedFile} (h : ∀ f ∈ fs, f.path ≠ layoutPath id) :
      fs.filter (fun f => f.path == layoutPath id) = [] :=
    List.filter_eq_nil_iff.mpr fun f hf => by simpa using h f hf
  have hactivities : ∀ f ∈ r.activities.map (fun a => r.sourceFile a.2),
      f.path ≠ layoutPath id := by
    intro f hf
    obtain ⟨a, _, rfl⟩ := List.mem_map.mp hf
    exact sourceFile_path_ne r a.2 id
  rw [RenderedProject.files, List.filter_append, List.filter_append, hother hactivities,
    List.append_nil]
  refine (congrArg (· ++ _) (hother ?_)).trans (List.nil_append _)
  simp only [List.forall_mem_cons]
  refine ⟨?_, ?_, ?_, ?_, ?_, ?_, ?_, ?_, ?_, sourceFile_path_ne r r.mainActivity id, by simp⟩
  all_goals exact ne_layoutPath id (by decide)

theorem filter_files_of_find? (h : Renders requested p home r) (hhome : p.mainScreen? = some home)
    {id document : String} (hfind : r.layouts.find? (layoutName id) = some document) :
    r.files.filter (fun f => f.path == layoutPath id) = [⟨layoutPath id, document⟩] := by
  have hmem := r.layouts.find?_eq_some_iff.mp hfind
  have hpath : ∀ l ∈ r.layouts.entries,
      ((fun f => f.path == layoutPath id) ∘ fun l : String × String =>
        RenderedProject.layoutFile l.1 l.2) l = (l.1 == layoutName id) := by
    intro l hl
    obtain ⟨s, _, rfl⟩ := mem_layouts h hhome hl
    rw [Bool.eq_iff_iff, Function.comp_apply, beq_iff_eq, beq_iff_eq, layoutEntry,
      layoutFile_path, layoutPath_inj]
  rw [filter_files_layoutPath, Keyed.Map.map, List.filter_map, List.filter_congr hpath,
    Keyed.filter_key_of_mem r.layouts.ordered hmem, List.map_singleton, ← layoutFile_path id document]
  rfl

end AppScaffold.Render

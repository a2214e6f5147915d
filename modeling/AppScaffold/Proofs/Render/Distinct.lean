import Mathlib.Data.Finset.Card
import Mathlib.Data.Finset.Image
import AppScaffold.Proofs.Render.Paths

/-!
# Distinct paths

Which files of an accepted project share a path. The fixed files, the layouts and the main activity
each have a path of their own; the activities of two screens share one exactly when they share a
class.
-/

set_option autoImplicit false

namespace AppScaffold.Render

open Host.Path (IsName Plain)

variable {requested : Nat} {p : App.Project} {home : App.Screen} {r : RenderedProject}

/-- The paths that no screen beside the main one shares: of the fixed files, of the main activity
and of the layouts. -/
def RenderedProject.ownPaths (r : RenderedProject) : List String :=
  fixedPaths ++ (r.sourceFile r.mainActivity).path ::
    r.layouts.map fun l => (layoutFile l.1 l.2).path

theorem RenderedProject.paths_eq (r : RenderedProject) :
    r.files.map (·.path) =
      r.ownPaths ++ r.activities.map fun a => (r.sourceFile a.2).path := by
  simp [files, ownPaths, fixedPaths, Keyed.Map.map, Function.comp_def]

/-- The last character of a path tells sources from fixed files and layouts. -/
theorem getLast?_sourceFile_path (r : RenderedProject) (a : Activity) :
    (r.sourceFile a).path.toList.getLast? = some 'a' := by
  obtain ⟨s, hs⟩ := Host.Path.exists_join_eq_append r.sourceDir (a.className ++ ".java")
  change (Host.Path.join r.sourceDir (a.className ++ ".java")).toList.getLast? = _
  rw [hs]
  simp [List.getLast?_append]

theorem getLast?_of_mem_fixedPaths {path : String} (h : path ∈ fixedPaths) :
    path.toList.getLast? ≠ some 'a' := by
  have hall : ∀ path ∈ fixedPaths, path.toList.getLast? ≠ some 'a' := by decide
  exact hall path h

theorem sourceFile_path_ne_of_mem_fixedPaths (r : RenderedProject) (a : Activity) {path : String}
    (h : path ∈ fixedPaths) : (r.sourceFile a).path ≠ path := by
  intro heq
  exact getLast?_of_mem_fixedPaths h (heq ▸ getLast?_sourceFile_path r a)

theorem layoutPath_ne_of_mem_fixedPaths (id : String) {path : String} (h : path ∈ fixedPaths) :
    layoutPath id ≠ path := by
  have hfixed : ∀ path ∈ fixedPaths,
      path.toList.take 23 ≠ "app/src/main/res/layout".toList := by decide
  exact (ne_layoutPath id (hfixed path h)).symm

def sourcePath (dir class_ : String) : String := Host.Path.join dir (class_ ++ ".java")

theorem sourceFile_path (r : RenderedProject) (a : Activity) :
    (r.sourceFile a).path = sourcePath r.sourceDir a.className := rfl

/-- One directory holds all sources, so their paths differ as their classes do. -/
theorem sourcePath_inj {dir a b : String} (hdir : Plain dir) (ha : IsName (a ++ ".java"))
    (hb : IsName (b ++ ".java")) : sourcePath dir a = sourcePath dir b ↔ a = b := by
  rw [sourcePath, sourcePath, Host.Path.join_of_plain hdir (Host.Path.plain_of_isName ha),
    Host.Path.join_of_plain hdir (Host.Path.plain_of_isName hb), String.append_right_inj,
    String.append_left_inj]

/-! ## Accepted projects -/

theorem exists_layoutPath (h : Renders requested p home r) (hhome : p.mainScreen? = some home)
    {path : String}
    (hpath : path ∈ r.layouts.map fun l => (RenderedProject.layoutFile l.1 l.2).path) :
    ∃ id, path = layoutPath id := by
  obtain ⟨l, hl, rfl⟩ := List.mem_map.mp hpath
  obtain ⟨s, _, rfl⟩ := mem_layouts h hhome hl
  exact ⟨s.1, layoutFile_path _ _⟩

theorem nodup_layout_paths (h : Renders requested p home r) (hhome : p.mainScreen? = some home) :
    (r.layouts.map fun l => (RenderedProject.layoutFile l.1 l.2).path).Nodup := by
  refine List.Nodup.map_on (fun a ha b hb heq => ?_) r.layouts.nodup_keys.of_map
  obtain ⟨s, _, rfl⟩ := mem_layouts h hhome ha
  obtain ⟨t, _, rfl⟩ := mem_layouts h hhome hb
  have hnames : layoutPath s.1 = layoutPath t.1 :=
    (layoutFile_path _ _).symm.trans (heq.trans (layoutFile_path _ _))
  exact List.inj_on_of_nodup_map r.layouts.nodup_keys ha hb (layoutPath_inj.mp hnames)

theorem activity_paths_eq (h : Renders requested p home r) :
    r.activities.map (fun a => (r.sourceFile a.2).path) =
      (p.secondaryScreens.map (·.2.activityName)).map (sourcePath r.sourceDir) := by
  simp only [h.activities, List.map_map, Function.comp_def, sourceFile_path, Activity.ofScreen]

theorem isName_of_mem_classes {c : String}
    (h : c ∈ p.secondaryScreens.map (·.2.activityName)) : IsName (c ++ ".java") := by
  obtain ⟨s, _, rfl⟩ := List.mem_map.mp h
  exact isName_sourceFile s.2

theorem nodup_activity_paths_iff (h : Renders requested p home r) (hdir : Plain r.sourceDir) :
    (r.activities.map fun a => (r.sourceFile a.2).path).Nodup ↔
      (p.secondaryScreens.map (·.2.activityName)).Nodup := by
  unfold List.Nodup
  rw [activity_paths_eq h, List.pairwise_map]
  refine List.Pairwise.iff_of_mem fun ha hb => not_congr ?_
  exact sourcePath_inj hdir (isName_of_mem_classes ha) (isName_of_mem_classes hb)

theorem main_path_not_mem (h : Renders requested p home r) (hhome : p.mainScreen? = some home)
    (hp : Check.Acceptable p) :
    (r.sourceFile r.mainActivity).path ∉ r.activities.map fun a => (r.sourceFile a.2).path := by
  have hnames := h.plainNames hhome hp
  rw [activity_paths_eq h]
  intro hpath
  obtain ⟨c, hc, hpath⟩ := List.mem_map.mp hpath
  have hsame := (sourcePath_inj hnames.plain_sourceDir (isName_of_mem_classes hc)
    hnames.mainActivity).mp hpath
  obtain ⟨s, hs, rfl⟩ := List.mem_map.mp hc
  exact hp.classes s hs (hsame.trans (congrArg Activity.className h.mainActivity))

theorem not_mem_paths (h : Renders requested p home r) (hhome : p.mainScreen? = some home)
    {path : String} (hfixed : path ∉ fixedPaths) (hsource : path.toList.getLast? ≠ some 'a')
    (hlayout : path.toList.take 23 ≠ "app/src/main/res/layout".toList) :
    path ∉ r.files.map (·.path) := by
  rw [r.paths_eq, RenderedProject.ownPaths, List.mem_append, List.mem_append, List.mem_cons]
  rintro ((hmem | rfl | hmem) | hmem)
  · exact hfixed hmem
  · exact hsource (getLast?_sourceFile_path r _)
  · obtain ⟨id, rfl⟩ := exists_layoutPath h hhome hmem
    exact ne_layoutPath id hlayout rfl
  · obtain ⟨a, _, rfl⟩ := List.mem_map.mp hmem
    exact hsource (getLast?_sourceFile_path r _)

theorem nodup_ownPaths (h : Renders requested p home r) (hhome : p.mainScreen? = some home) :
    r.ownPaths.Nodup := by
  have hfixed : fixedPaths.Nodup := by decide
  rw [RenderedProject.ownPaths, List.nodup_append, List.nodup_cons]
  refine ⟨hfixed, ⟨fun hpath => ?_, nodup_layout_paths h hhome⟩, fun a ha b hb => ?_⟩
  · obtain ⟨id, hid⟩ := exists_layoutPath h hhome hpath
    exact sourceFile_path_ne r r.mainActivity id hid
  · rcases List.mem_cons.mp hb with rfl | hb
    · exact (sourceFile_path_ne_of_mem_fixedPaths r _ ha).symm
    · obtain ⟨id, rfl⟩ := exists_layoutPath h hhome hb
      exact (layoutPath_ne_of_mem_fixedPaths id ha).symm

theorem disjoint_activity_paths (h : Renders requested p home r)
    (hhome : p.mainScreen? = some home) (hp : Check.Acceptable p) :
    r.ownPaths.Disjoint (r.activities.map fun a => (r.sourceFile a.2).path) := by
  intro path hown hactivity
  rcases List.mem_append.mp hown with hfixed | hown
  · obtain ⟨a, _, rfl⟩ := List.mem_map.mp hactivity
    exact sourceFile_path_ne_of_mem_fixedPaths r _ hfixed rfl
  · rcases List.mem_cons.mp hown with rfl | hlayout
    · exact main_path_not_mem h hhome hp hactivity
    · obtain ⟨id, rfl⟩ := exists_layoutPath h hhome hlayout
      obtain ⟨a, _, ha⟩ := List.mem_map.mp hactivity
      exact sourceFile_path_ne r a.2 id ha

theorem nodup_paths_iff (h : Renders requested p home r) (hhome : p.mainScreen? = some home)
    (hp : Check.Acceptable p) :
    (r.files.map (·.path)).Nodup ↔ (p.secondaryScreens.map (·.2.activityName)).Nodup := by
  rw [r.paths_eq, List.nodup_append', nodup_activity_paths_iff h
    (h.plainNames hhome hp).plain_sourceDir]
  exact ⟨fun hnodup => hnodup.2.1, fun hnodup =>
    ⟨nodup_ownPaths h hhome, hnodup, disjoint_activity_paths h hhome hp⟩⟩

end AppScaffold.Render

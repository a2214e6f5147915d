import AppScaffold.Build.Builder
import AppScaffold.Proofs.Host.FileTask
import AppScaffold.Proofs.Render.Paths

/-!
# Generated projects

Where the files of a project go. A project that the check accepts is written below the directory
it is given to, and nowhere else, whatever its name, its package and its screens are called.
-/

set_option autoImplicit false

namespace AppScaffold.Build

open Host (FileTask Path.join Path.parent? outcome outcome_bind_eq_ok_iff)
open Host.FileTask (WritesOnly)
open Host.Path (Plain StrictlyInside)
open Render (GeneratedFile RenderedProject)

variable {P : String → Prop} {dir : String}

def writeContents (path : String) (f : GeneratedFile) : FileTask String := do
  FileTask.write path f.contents.toUTF8 (FileTask.during ("writing " ++ path))
  return path

theorem writeFile_eq (dir : String) (f : GeneratedFile) :
    writeFile dir f =
      match Path.parent? (Path.join dir f.path) with
      | some above => FileTask.createDirs above (FileTask.during ("creating " ++ above)) >>=
          fun _ => writeContents (Path.join dir f.path) f
      | none => writeContents (Path.join dir f.path) f := by
  unfold writeFile writeContents
  cases habove : Path.parent? (Path.join dir f.path) <;> simp only [habove]

theorem writesOnly_writeFile {f : GeneratedFile} (h : P (Path.join dir f.path)) :
    WritesOnly P (writeFile dir f) := by
  have hwrite : WritesOnly P (writeContents (Path.join dir f.path) f) :=
    (WritesOnly.write _ _ h).bind fun _ => .pure _
  rw [writeFile_eq]
  split
  · rename_i above habove
    exact (WritesOnly.createDirs _ h habove).bind fun _ => hwrite
  · exact hwrite

theorem eq_of_writeContents {f : GeneratedFile} {path path' : String} {before after : Host.Files}
    (h : outcome (writeContents path f) before = (.ok path', after)) : path' = path := by
  obtain ⟨_, _, _, h⟩ := outcome_bind_eq_ok_iff.mp h
  cases h
  rfl

theorem eq_of_writeFile {f : GeneratedFile} {path : String} {before after : Host.Files}
    (h : outcome (writeFile dir f) before = (.ok path, after)) : path = Path.join dir f.path := by
  rw [writeFile_eq] at h
  split at h
  · obtain ⟨_, _, _, h⟩ := outcome_bind_eq_ok_iff.mp h
    exact eq_of_writeContents h
  · exact eq_of_writeContents h

theorem writesOnly_writeFiles {fs : List GeneratedFile} (h : ∀ f ∈ fs, P (Path.join dir f.path)) :
    WritesOnly P (writeFiles dir fs) := by
  induction fs with
  | nil => exact .pure []
  | cons f fs ih =>
    obtain ⟨hf, hfs⟩ := List.forall_mem_cons.mp h
    exact (writesOnly_writeFile hf).bind fun path => (ih hfs).bind fun paths => .pure _

theorem eq_of_writeFiles {fs : List GeneratedFile} {paths : List String} {before after : Host.Files}
    (h : outcome (writeFiles dir fs) before = (.ok paths, after)) :
    paths = fs.map fun f => Path.join dir f.path := by
  induction fs generalizing paths before with
  | nil =>
    cases h
    rfl
  | cons f fs ih =>
    obtain ⟨path, between, hpath, h⟩ := outcome_bind_eq_ok_iff.mp h
    obtain ⟨rest, _, hrest, h⟩ := outcome_bind_eq_ok_iff.mp h
    cases h
    rw [eq_of_writeFile hpath, ih hrest, List.map_cons]

/-! ## Accepted projects -/

variable {b : Builder} {p : App.Project} {warnings : List String} {r : RenderedProject}

theorem generate_of_check (h : b.check p = .ok warnings)
    (hr : Render.project b.maxDepth p = .ok r) (dir : String) :
    b.generate p dir = (do return ⟨← writeProject dir r, warnings⟩) := by
  simp only [Builder.generate, Builder.generate.liftExcept, h, hr, Host.ofExcept_ok, pure_bind]

theorem build_of_check (h : b.check p = .ok warnings)
    (hr : Render.project b.maxDepth p = .ok r) (launcher : Host.Launcher)
    (env : Host.Environment) (stamp : Builder.Stamp) (password keystore : Option String) :
    b.build launcher env stamp ⟨p, password, keystore⟩ = (do
      let dir := Path.join b.workDir (Builder.projectDirName stamp.id)
      FileTask.createDirs dir (FileTask.during ("creating " ++ dir))
      FileTask.createDirs b.outputDir (FileTask.during ("creating " ++ b.outputDir))
      let files ← writeProject dir r
      b.signAndPack launcher env stamp ⟨p, password, keystore⟩ dir warnings files) := by
  simp only [Builder.build, h, hr, Host.ofExcept_ok, pure_bind]

/-- All that is written for an accepted project has a plain path below the directory given, and
is written strictly inside this directory. -/
theorem accepted_project_stays_inside (b : Builder) (p : App.Project) (warnings : List String)
    (h : b.check p = .ok warnings) :
    ∃ r, Render.project b.maxDepth p = .ok r ∧
      (∀ f ∈ r.files, Host.Path.isAbsolute f.path = false ∧ Plain f.path ∧
        Host.Path.components f.path = (Host.Path.pieces f.path).map .normal) ∧
      (∀ dir, WritesOnly (StrictlyInside dir) (writeProject dir r)) ∧
      (∀ dir before paths after, outcome (writeProject dir r) before = (.ok paths, after) →
        ∀ path ∈ paths, StrictlyInside dir path) ∧
      (∀ dir, b.generate p dir = (do return ⟨← writeProject dir r, warnings⟩)) ∧
      ∀ launcher env stamp password keystore,
        b.build launcher env stamp ⟨p, password, keystore⟩ = (do
          let dir := Path.join b.workDir (Builder.projectDirName stamp.id)
          FileTask.createDirs dir (FileTask.during ("creating " ++ dir))
          FileTask.createDirs b.outputDir (FileTask.during ("creating " ++ b.outputDir))
          let files ← writeProject dir r
          b.signAndPack launcher env stamp ⟨p, password, keystore⟩ dir warnings files) := by
  obtain ⟨hp, -⟩ := Check.accept_eq_ok_iff.mp h
  obtain ⟨r, hr, hplain⟩ := Render.exists_project_plain b.maxDepth hp
  have hinside (dir : String) : ∀ f ∈ r.files, StrictlyInside dir (Path.join dir f.path) :=
    fun f hf => Host.Path.strictlyInside_join dir (hplain f hf)
  refine ⟨r, hr, ?_, fun dir => writesOnly_writeFiles (hinside dir), ?_, generate_of_check h hr,
    build_of_check h hr⟩
  · intro f hf
    exact ⟨(hplain f hf).not_absolute, hplain f hf, Host.Path.components_of_plain (hplain f hf)⟩
  · intro dir before paths after hrun path hpath
    rw [eq_of_writeFiles hrun] at hpath
    obtain ⟨f, hf, rfl⟩ := List.mem_map.mp hpath
    exact hinside dir f hf

theorem notesProject_stays_inside :
    ∃ r, Render.project 32 Check.notesProject = .ok r ∧ (∀ f ∈ r.files, Plain f.path) ∧
      WritesOnly (StrictlyInside "/tmp/out/..") (writeProject "/tmp/out/.." r) := by
  let b : Builder := { (default : Builder) with maxDepth := 32 }
  obtain ⟨r, hr, hpaths, hwrites, _⟩ := accepted_project_stays_inside b Check.notesProject _
    (Check.accept_eq_ok_iff.mpr ⟨Check.acceptable_notesProject, rfl⟩)
  exact ⟨r, hr, fun f hf => (hpaths f hf).2.1, hwrites "/tmp/out/.."⟩

end AppScaffold.Build

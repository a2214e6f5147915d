import Mathlib.Data.List.Induction
import AppScaffold.Proofs.Build.Generated
import AppScaffold.Proofs.Host.Directory

/-!
# Documents on disk

What a directory holds when documents were written below it: of those that go to one path, the last
one. The keystore is one more file there, whoever made it.
-/

set_option autoImplicit false

namespace AppScaffold.Build

open Host (Contents Files Holds Launcher Environment Path.join outcome outcome_bind
  outcome_bind_eq_ok_iff)
open Host.FileTask (outcome_write_eq_ok_iff outcome_createDirs_eq_ok_iff outcome_change_eq_ok_iff)
open Host.Path (Plain pieces)
open Render (GeneratedFile)

variable {dir : String} {d : Host.Location} {docs : Contents} {before after : Files}

def addDocuments (docs : Contents) (files : List GeneratedFile) : Contents :=
  files.foldl (fun docs f => Function.update docs (pieces f.path) (some f.contents.toUTF8)) docs

def lastDocument? (files : List GeneratedFile) (path : String) : Option String :=
  (files.reverse.find? fun f => f.path == path).map (·.contents)

theorem pieces_inj {a b : String} : pieces a = pieces b ↔ a = b := by
  refine ⟨fun h => ?_, congrArg pieces⟩
  rw [← Host.Path.joinSlash_pieces a, ← Host.Path.joinSlash_pieces b, h]

theorem addDocuments_concat (docs : Contents) (files : List GeneratedFile) (f : GeneratedFile) :
    addDocuments docs (files ++ [f]) =
      Function.update (addDocuments docs files) (pieces f.path) (some f.contents.toUTF8) := by
  rw [addDocuments, addDocuments, List.foldl_append]
  rfl

theorem addDocuments_pieces (docs : Contents) (files : List GeneratedFile) (path : String) :
    addDocuments docs files (pieces path) =
      match lastDocument? files path with
      | some contents => some contents.toUTF8
      | none => docs (pieces path) := by
  induction files using List.reverseRecOn with
  | nil => rfl
  | append_singleton files f ih =>
    rw [addDocuments_concat, Function.update_apply, ih, lastDocument?, lastDocument?,
      List.reverse_concat, List.find?_cons]
    by_cases hpath : f.path = path
    · rw [if_pos (congrArg pieces hpath.symm), beq_iff_eq.mpr hpath]
      rfl
    · rw [if_neg fun heq => hpath (pieces_inj.mp heq).symm, beq_eq_false_iff_ne.mpr hpath]

theorem holds_writeContents {f : GeneratedFile} {path : String} (h : Holds before dir d docs)
    (hplain : Plain f.path)
    (hrun : outcome (writeContents (Path.join dir f.path) f) before = (.ok path, after)) :
    Holds after dir d (Function.update docs (pieces f.path) (some f.contents.toUTF8)) := by
  obtain ⟨_, between, hwrite, hrun⟩ := outcome_bind_eq_ok_iff.mp hrun
  cases hrun
  exact h.write hplain (outcome_write_eq_ok_iff.mp hwrite)

theorem holds_writeFile {f : GeneratedFile} {path : String} (h : Holds before dir d docs)
    (hplain : Plain f.path) (hrun : outcome (writeFile dir f) before = (.ok path, after)) :
    Holds after dir d (Function.update docs (pieces f.path) (some f.contents.toUTF8)) := by
  rw [writeFile_eq] at hrun
  split at hrun
  · rename_i above _
    obtain ⟨_, between, hdirs, hrun⟩ := outcome_bind_eq_ok_iff.mp hrun
    have hmade := h.createDirs above
    rw [outcome_createDirs_eq_ok_iff.mp hdirs] at hmade
    exact holds_writeContents hmade hplain hrun
  · exact holds_writeContents h hplain hrun

theorem holds_writeFiles {files : List GeneratedFile} {paths : List String}
    (h : Holds before dir d docs) (hplain : ∀ f ∈ files, Plain f.path)
    (hrun : outcome (writeFiles dir files) before = (.ok paths, after)) :
    Holds after dir d (addDocuments docs files) := by
  induction files generalizing before docs paths with
  | nil =>
    cases hrun
    exact h
  | cons f files ih =>
    obtain ⟨hf, hfiles⟩ := List.forall_mem_cons.mp hplain
    obtain ⟨path, between, hfile, hrun⟩ := outcome_bind_eq_ok_iff.mp hrun
    obtain ⟨rest, _, hrest, hrun⟩ := outcome_bind_eq_ok_iff.mp hrun
    cases hrun
    exact ih (holds_writeFile h hf hfile) hfiles hrest

/-! ## The keystore -/

theorem write_of_simulate {path reason : String} {k : KeystoreOutcome}
    (h : outcome (KeyTool.simulate path reason) before = (.ok k, after)) :
    before.write path mockKeystore.toUTF8 = .ok after ∧ k = .simulated path reason := by
  obtain ⟨_, between, hwrite, h⟩ := outcome_bind_eq_ok_iff.mp h
  cases h
  exact ⟨outcome_write_eq_ok_iff.mp hwrite, rfl⟩

variable {path : String}

theorem outcome_generate (t : KeyTool) (launcher : Launcher) (env : Environment) (path : String)
    (password : Option String) (before : Files) :
    outcome (t.generate launcher env path password) before =
      match before.which? env t.program with
      | none => outcome (KeyTool.simulate path (t.program ++ " not found")) before
      | some program =>
        match launcher.run before env program
            (t.arguments path (KeyTool.passwordOr t.settings.password password)) with
        | (.error f, made) =>
          outcome (KeyTool.simulate path (Host.startError program f).message) made
        | (.ok finished, made) =>
          if finished.success && made.isFile path then (.ok (.generated path), made)
          else outcome (KeyTool.simulate path (KeyTool.complaint finished)) made := by
  rw [KeyTool.generate, outcome_bind, Host.FileTask.outcome_look]
  cases before.which? env t.program with
  | none => rfl
  | some program =>
    simp only [outcome_bind, Host.outcome_get]
    rcases launcher.run before env program
      (t.arguments path (KeyTool.passwordOr t.settings.password password)) with ⟨result, made⟩
    simp only [Host.outcome_set]
    cases result with
    | error f => rfl
    | ok finished =>
      dsimp only
      split <;> rfl

theorem outcome_provide (source path : String) (before : Files) :
    outcome (KeyTool.provide source path) before =
      if before.isFile source then
        match before.copy source path with
        | .ok after => (.ok (.provided path), after)
        | .error f => (.error (KeyTool.keystoreError "copy" f), before)
      else (.error (.fileNotFound source), before) := by
  rw [KeyTool.provide, outcome_bind, Host.FileTask.outcome_look]
  cases before.isFile source with
  | false => rfl
  | true =>
    simp only [Bool.not_true, Bool.false_eq_true, if_false, if_true]
    rw [outcome_bind, Host.FileTask.outcome_change]
    cases before.copy source path <;> rfl

end AppScaffold.Build

import AppScaffold.Proofs.Build.Documents
import AppScaffold.Proofs.Host.Success

/-!
# Builds that succeed

When a build goes through. Where its documents can be laid out and the places of its keystore and
its package can be written, a build with a keystore of the client's ends well.
-/

set_option autoImplicit false

namespace AppScaffold.Build

open App (Project)
open Host (Contents Failure FileTask Files Grown Holds Launcher Environment Location Path.components
  Path.join Path.parent? outcome outcome_bind outcome_bind_of_ok outcome_bind_eq_ok_iff)
open Host.FileTask (outcome_look outcome_write_eq_ok_iff outcome_createDirs_eq_ok_iff)
open Host.Path (IsName Plain pieces)
open Render (GeneratedFile RenderedProject)

variable {dir target : String} {d : Location} {docs : Contents}
  {before after : Files}

/-! ## Writing -/

theorem grown_writeContents {f : GeneratedFile} {path : String} (h : Holds before dir d docs)
    (hplain : Plain f.path)
    (hrun : outcome (writeContents (Path.join dir f.path) f) before = (.ok path, after)) :
    Grown d before after := by
  obtain ⟨_, between, hwrite, hrun⟩ := outcome_bind_eq_ok_iff.mp hrun
  cases hrun
  obtain ⟨x, hplaced⟩ := h.exists_placed_of_write hplain (outcome_write_eq_ok_iff.mp hwrite)
  exact .of_placed hplaced (List.prefix_append d _)

theorem grown_writeFile {f : GeneratedFile} {path : String} (h : Holds before dir d docs)
    (hplain : Plain f.path) (hrun : outcome (writeFile dir f) before = (.ok path, after)) :
    Grown d before after := by
  rw [writeFile_eq] at hrun
  split at hrun
  · rename_i above _
    obtain ⟨_, between, hdirs, hrun⟩ := outcome_bind_eq_ok_iff.mp hrun
    have hdirs := outcome_createDirs_eq_ok_iff.mp hdirs
    have hmade := Files.dirsMade_createDirs before above
    rw [hdirs] at hmade
    exact (Grown.of_dirsMade hmade).trans (grown_writeContents (h.dirsMade hmade) hplain hrun)
  · exact grown_writeContents h hplain hrun

theorem grown_writeFiles {files : List GeneratedFile} {paths : List String}
    (h : Holds before dir d docs) (hplain : ∀ f ∈ files, Plain f.path)
    (hrun : outcome (writeFiles dir files) before = (.ok paths, after)) :
    Grown d before after := by
  induction files generalizing before docs paths with
  | nil =>
    cases hrun
    exact .refl d _
  | cons f files ih =>
    obtain ⟨hf, hfiles⟩ := List.forall_mem_cons.mp hplain
    obtain ⟨path, between, hfile, hrun⟩ := outcome_bind_eq_ok_iff.mp hrun
    obtain ⟨rest, _, hrest, hrun⟩ := outcome_bind_eq_ok_iff.mp hrun
    cases hrun
    exact (grown_writeFile h hf hfile).trans (ih (holds_writeFile h hf hfile) hfiles hrest)

/-! ## Packing -/

theorem exists_packageProject {made : Files} (h : Holds before dir d docs)
    (hnames : ∀ l, docs l ≠ none → ∀ name ∈ l, IsName name)
    (hnote : docs (pieces "README.txt") = none)
    (habove : ∀ above, Path.parent? target = some above →
      before.createDirs above = (.ok (), before))
    (hwrite : before.write target .empty = .ok made)
    (hapart : ∀ found, before.find true target = .ok found → ¬ d <+: found.location) :
    ∃ summary after, outcome (packageProject dir target) before = (.ok summary, after) ∧
      Holds after dir d docs ∧ before.root.Keeps after.root ∧
      after.workingDir = before.workingDir ∧ ¬ after.Within dir target := by
  have hmade := h.write_apart hwrite hapart
  obtain ⟨n, hn, hmem⟩ := exists_hasDir h
  obtain ⟨found, _, hfound, hfirst, hfind⟩ := Files.find_of_write hwrite
  let files := n.walk (byName fun _ _ => true)
  have hmem (f : Location × ByteArray) (hf : f ∈ files) : docs f.1 = some f.2 :=
    (hmem f.1 f.2).mp hf
  have hfileNames : ∀ f ∈ files, ∀ name ∈ f.1, IsName name := fun f hf =>
    hnames f.1 (hmem f hf ▸ Option.some_ne_none f.2)
  have hopen := outcome_openTarget habove hwrite
  have hout : ¬ made.Within dir target := fun hin =>
    hapart found hfound ((hmade.within_iff hfind).mp hin)
  have hselects := selects_walk hn hfileNames hopen hout
  have hother : ∀ e ∈ [("README.txt", packageNote)], ∀ f ∈ files, entryName f.1 ≠ e.1 := by
    refine List.forall_mem_singleton.mpr fun f hf heq => ?_
    have heq : entryName f.1 = "README.txt" := heq
    rw [← heq, pieces_entryName (hselects.ne_nil hn.item hf) (hfileNames f hf),
      hmem f hf] at hnote
    cases hnote
  have hextra : ([("README.txt", packageNote)].map (·.1)).Nodup := List.nodup_singleton _
  obtain ⟨summary, after, hrun, hafter, _⟩ := exists_packed hn hselects hfileNames hextra hother
    hopen (seesItself_of_not_within hout)
  obtain ⟨found', _, hfound', hsecond, hfind'⟩ := Files.find_of_write hafter
  obtain rfl := Except.ok.inj (hfind.symm.trans hfound')
  have hheld := hmade.placed_apart hsecond (hapart found hfound)
  refine ⟨summary, after, hrun, hheld, hfirst.keeps.trans hsecond.keeps,
    hsecond.workingDir.trans hfirst.workingDir, fun hwithin => ?_⟩
  exact hapart found hfound ((hheld.within_iff hfind').mp hwithin)

/-- A file outside of a directory can still be written after one place in the directory has
changed, and it is still outside. -/
theorem exists_write_outside {fs fs' made : Files} {m : Location}
    (hwrite : fs.write target .empty = .ok made)
    (hapart : ∀ found, fs.find true target = .ok found → ¬ d <+: found.location)
    (hkeeps : fs.root.Keeps fs'.root) (hworking : fs'.workingDir = fs.workingDir)
    (helsewhere : ∀ l, l ≠ d ++ m → fs'.root.itemAt? l = fs.root.itemAt? l) :
    (∃ made', fs'.write target .empty = .ok made') ∧
      ∀ found, fs'.find true target = .ok found → ¬ d <+: found.location := by
  obtain ⟨place, _, hplace, _, _⟩ := Files.placed_of_write hwrite
  have hfree : fs.root.itemAt? place.location = none →
      fs'.root.itemAt? place.location = none := by
    intro hnone
    have hne : place.location ≠ d ++ m := fun heq =>
      hapart place hplace (heq ▸ List.prefix_append d m)
    rw [helsewhere _ hne, hnone]
  have hplace' := Files.find_keeps hplace hkeeps hworking fun hnone => by
    rw [hfree (Host.Node.at?_eq_none_iff.mp (Files.node_of_find hplace ▸ hnone))]
    trivial
  constructor
  · exact Files.exists_write_of_keeps hwrite hkeeps hworking
      (fun place' hplace' => Except.ok.inj (hplace.symm.trans hplace') ▸ hfree) .empty
  · intro found hfound
    obtain rfl := Except.ok.inj (hplace'.symm.trans hfound)
    exact hapart place hplace

/-! ## Builds with a keystore of the client's -/

namespace Builder

/-- The documents of a build can be laid out in a new directory, and its keystore and its package
can be written, the package elsewhere. -/
structure Ready (b : Builder) (stamp : Stamp) (r : RenderedProject) (before : Files) : Prop where
  fresh : b.Fresh stamp before
  name : IsName (packageName stamp.id)
  laidOut : ∃ paths between key package,
    outcome (b.layOut stamp r) before = (.ok paths, between) ∧
      between.write (Path.join (b.projectDir stamp) "app.keystore") .empty = .ok key ∧
      between.write (b.packagePath stamp) .empty = .ok package ∧
      ¬ between.Within (b.projectDir stamp) (b.packagePath stamp)

end Builder

open Builder

variable {b : Builder} {launcher : Launcher} {env : Environment} {stamp : Stamp} {p : Project}
  {r : RenderedProject} {password : Option String} {warnings paths : List String}

/-- What is there before the documents are laid out is there afterwards, and not where they are. -/
theorem holds_layOut_of_read (hfresh : b.Fresh stamp before)
    (hplain : ∀ f ∈ r.files, Plain f.path)
    (hrun : outcome (b.layOut stamp r) before = (.ok paths, after)) :
    ∃ d, Holds after (b.projectDir stamp) d (addDocuments (fun _ => none) r.files) ∧
      (b.outputDir = "" ∨ after.isDir b.outputDir = true) ∧
      ∀ source contents, before.read source = .ok contents → after.read source = .ok contents ∧
        ∀ found, after.find true source = .ok found → ¬ d <+: found.location := by
  obtain ⟨_, made, hmade, hrun⟩ := outcome_bind_eq_ok_iff.mp hrun
  obtain ⟨_, ready, hready, hrun⟩ := outcome_bind_eq_ok_iff.mp hrun
  rw [outcome_createDirs_eq_ok_iff] at hmade hready
  have hfirst := Files.dirsMade_createDirs before (b.projectDir stamp)
  have hsecond := Files.dirsMade_createDirs made b.outputDir
  rw [Fresh, hmade] at hfresh
  rw [hmade] at hfirst
  rw [hready] at hsecond
  obtain ⟨d, hempty⟩ := Holds.of_emptyDir hfresh
  have hholds := hempty.dirsMade hsecond
  have hgrown := grown_writeFiles hholds hplain hrun
  refine ⟨d, holds_writeFiles hholds hplain hrun, ?_, fun source contents hread => ?_⟩
  · exact (Files.isDir_of_createDirs hready).imp_right fun hdir =>
      Files.isDir_of_keeps hdir hgrown.keeps hgrown.workingDir
  · have hread' := (hfirst.trans hsecond).read hread
    obtain ⟨found, _, hfound, hnode⟩ := Files.exists_find_of_read hread'
    have hapart : ¬ d <+: found.location := by
      intro hbelow
      obtain ⟨m, hm⟩ := hholds.exists_of_read hfound hread' hbelow
      cases hm
    refine ⟨hgrown.read hfound hapart hread', fun found' hfound' => ?_⟩
    have hsame := hgrown.find hfound (hnode ▸ Option.some_ne_none _)
    obtain rfl := Except.ok.inj (hfound'.symm.trans hsame)
    exact hapart

theorem exists_provide {source path : String} {contents old : ByteArray} {made : Files}
    (hsource : before.read source = .ok contents) (htarget : before.write path old = .ok made) :
    ∃ after found, outcome (KeyTool.provide source path) before = (.ok (.provided path), after) ∧
      before.copy source path = .ok after ∧ after.find true path = .ok found ∧
      found.node ≠ none := by
  obtain ⟨after, found, hcopy, hfound, hnode⟩ := Files.exists_copy hsource htarget
  refine ⟨after, found, ?_, hcopy, hfound, hnode⟩
  rw [outcome_provide, Files.isFile_of_read hsource, if_pos rfl, hcopy]

theorem readme_not_mem_paths (hp : Check.Acceptable p)
    (hr : Render.project b.maxDepth p = .ok r) : "README.txt" ∉ r.files.map (·.path) := by
  obtain ⟨home, hhome, hrenders⟩ := Render.renders_of_project hp hr
  exact Render.not_mem_paths hrenders hhome (by decide) (by decide) (by decide)

theorem buildContents_readme (hp : Check.Acceptable p) (hr : Render.project b.maxDepth p = .ok r)
    (keystore : ByteArray) : buildContents r keystore (pieces "README.txt") = none := by
  have hne : pieces "README.txt" ≠ ["app.keystore"] := by decide
  have hlast : lastDocument? r.files "README.txt" = none := by
    rw [← Option.not_isSome_iff_eq_none, isSome_lastDocument?_iff]
    exact readme_not_mem_paths hp hr
  rw [buildContents, Function.update_of_ne hne, addDocuments_pieces, hlast]

/-- A build with a keystore of the client's succeeds, its directory holds this keystore, and the
package is elsewhere. -/
theorem exists_build_of_ready (launcher : Launcher) (env : Environment) (password : Option String)
    {source : String} {contents : ByteArray}
    (hcheck : b.check p = .ok warnings) (hr : Render.project b.maxDepth p = .ok r)
    (hready : b.Ready stamp r before) (hsource : before.read source = .ok contents) :
    ∃ o after, outcome (b.build launcher env stamp ⟨p, password, some source⟩) before =
        (.ok o, after) ∧
      o.keystore = .provided (Path.join (b.projectDir stamp) "app.keystore") ∧
      after.read (Path.join (b.projectDir stamp) "app.keystore") = .ok contents ∧
      ¬ after.Within (b.projectDir stamp) (b.packagePath stamp) := by
  obtain ⟨hp, -⟩ := Check.accept_eq_ok_iff.mp hcheck
  have hplain := Render.plain_of_project hp hr
  obtain ⟨paths, between, key, package, hlaid, hkey, hpackage, hwithin⟩ := hready.laidOut
  obtain ⟨d, hholds, houtput, hkept⟩ := holds_layOut_of_read hready.fresh hplain hlaid
  obtain ⟨hread, hsourceApart⟩ := hkept source contents hsource
  obtain ⟨signed, found, hprovide, hcopy, hfound, hnode⟩ := exists_provide hread hkey
  obtain ⟨hkeeps, hworking, helsewhere, copied, hsigned, hcopied⟩ :=
    hholds.copy plain_keystore hcopy
  -- The source is outside of the directory, so that its own bytes are copied.
  obtain rfl : contents = copied := by
    obtain ⟨from_, _, hfrom, _⟩ := Files.exists_find_of_read hread
    have hne : from_.location ≠ d ++ pieces "app.keystore" := fun heq =>
      hsourceApart from_ hfrom (heq ▸ List.prefix_append d _)
    exact Except.ok.inj (hread.symm.trans (hcopied from_ hfrom hne))
  -- Neither the documents nor the keystore are where the package goes.
  have hapart : ∀ found, between.find true (b.packagePath stamp) = .ok found →
      ¬ d <+: found.location := fun found hfound hbelow =>
    hwithin ((hholds.within_iff hfound).mpr hbelow)
  obtain ⟨⟨package', hpackage'⟩, hapart'⟩ :=
    exists_write_outside hpackage hapart hkeeps hworking helsewhere
  obtain ⟨_, _, hplace, _, _⟩ := Files.placed_of_write hpackage
  have habove : ∀ above, Path.parent? (b.packagePath stamp) = some above →
      signed.createDirs above = (.ok (), signed) := fun above =>
    Files.createDirs_above (houtput.imp_right fun hdir => Files.isDir_of_keeps hdir hkeeps hworking)
      hready.name (Files.usable_of_find hplace)
  rw [pieces_keystore] at hsigned
  obtain ⟨summary, after, hpack, hafter, hkeeps', hworking', hwithin'⟩ :=
    exists_packageProject hsigned (isName_of_buildContents hplain)
      (buildContents_readme hp hr contents) habove hpackage' hapart'
  refine ⟨⟨stamp.id, b.projectDir stamp, summary, packageName stamp.id, p.downloadName,
    .provided (Path.join (b.projectDir stamp) "app.keystore"), paths.length, warnings⟩, after, ?_,
    rfl, ?_, hwithin'⟩
  · rw [build_eq_layOut hcheck hr, outcome_bind_of_ok hlaid, signAndPack_eq, addKeystore,
      outcome_bind_of_ok hprovide]
    rw [outcome_bind_of_ok hpack]
    rfl
  · have hfound' := Files.find_keeps hfound hkeeps' hworking' fun hnone => absurd hnone hnode
    rw [hafter.read_eq_ok_iff plain_keystore hfound', pieces_keystore]
    exact Function.update_self ..

end AppScaffold.Build

import AppScaffold.Proofs.Build.Clear
import AppScaffold.Proofs.Build.Package
import AppScaffold.Proofs.Host.Landing

/-!
# Trees of projects

What becomes of a tree of files when a project is written into it: at the places of the documents
stand the last documents of their paths, and everything else is as it was but for new directories.
Main statement: `generated_tree`.
-/

set_option autoImplicit false

namespace AppScaffold.Build

open Host (Files Fits Location Node Placed Path.absolute Path.join Path.parent? outcome
  outcome_bind_of_ok outcome_bind_eq_ok_iff)
open Host.FileTask (outcome_write_eq_ok_iff outcome_createDirs_eq_ok_iff)
open Host.Files (DirsMade LeadsTo BasedAt Unchanged)
open Host.Path (IsName Plain pieces)
open Render (GeneratedFile RenderedProject)

variable {before after : Files} {dir path : String} {f : GeneratedFile}
  {files : List GeneratedFile} {paths : List String} {d l : Location}

/-! ## One document -/

theorem write_of_writeContents (h : outcome (writeContents path f) before = (.ok path, after)) :
    before.write path f.contents.toUTF8 = .ok after := by
  obtain ⟨_, _, hwrite, h⟩ := outcome_bind_eq_ok_iff.mp h
  cases h
  exact outcome_write_eq_ok_iff.mp hwrite

theorem steps_of_writeFile (h : outcome (writeFile dir f) before = (.ok path, after)) :
    ∃ between, DirsMade before between ∧
      (∀ above, Path.parent? (Path.join dir f.path) = some above →
        above = "" ∨ between.isDir above = true) ∧
      between.write (Path.join dir f.path) f.contents.toUTF8 = .ok after := by
  obtain rfl := eq_of_writeFile h
  rw [writeFile_eq] at h
  split at h
  · rename_i above habove
    obtain ⟨_, between, hdirs, h⟩ := outcome_bind_eq_ok_iff.mp h
    rw [outcome_createDirs_eq_ok_iff] at hdirs
    have hmade := Files.dirsMade_createDirs before above
    rw [hdirs] at hmade
    refine ⟨between, hmade, ?_, write_of_writeContents h⟩
    intro above' habove'
    obtain rfl := Option.some.inj (habove.symm.trans habove')
    exact Files.isDir_of_createDirs hdirs
  · rename_i hnone
    refine ⟨before, .refl before, ?_, write_of_writeContents h⟩
    intro above habove
    rw [hnone] at habove
    cases habove

theorem isDir_of_writeFile (hname : IsName f.path)
    (h : outcome (writeFile dir f) before = (.ok path, after)) :
    dir = "" ∨ after.isDir dir = true := by
  obtain hempty | hdir := eq_or_ne dir ""
  · exact Or.inl hempty
  obtain ⟨between, _, habove, hwrite⟩ := steps_of_writeFile h
  obtain ⟨found, _, hfound, hplaced, _⟩ := Files.find_of_write hwrite
  -- the directory above the document has been made; its text may not be that of `dir`
  obtain ⟨above, hisAbove, hcomponents⟩ := Host.Path.exists_parent_join dir hname
  have hplain := Host.Path.plain_of_isName hname
  have husable := Host.Path.usable_of_join hdir hplain.not_absolute (Files.usable_of_find hfound)
  rcases habove above hisAbove.parent with rfl | hthere
  · exact absurd hcomponents.symm (Host.Path.components_ne_nil hdir)
  · have hbetween := Files.isDir_of_components hthere hcomponents.symm husable
    exact Or.inr (Files.isDir_of_keeps hbetween hplaced.keeps hplaced.workingDir)

/-- A document was written where its path leads, and nothing else has changed. -/
structure Landed (dir : String) (f : GeneratedFile) (before after : Files) (l : Location) :
    Prop where
  keeps : before.root.Keeps after.root
  workingDir : after.workingDir = before.workingDir
  leads : after.LeadsTo (Path.join dir f.path) l
  file : after.root.fileAt? l = some f.contents.toUTF8
  others : ∀ m, m ≠ l → Unchanged before after m
  isDir : IsName f.path → dir = "" ∨ after.isDir dir = true

theorem exists_landed (h : outcome (writeFile dir f) before = (.ok path, after)) :
    ∃ l, Landed dir f before after l := by
  obtain ⟨between, hdirs, _, hwrite⟩ := steps_of_writeFile h
  obtain ⟨found, executable, _, hplaced, hfound⟩ := Files.find_of_write hwrite
  have hitem := hplaced.itemAt? found.location
  rw [if_pos rfl] at hitem
  refine ⟨found.location, hdirs.keeps.trans hplaced.keeps,
    hplaced.workingDir.trans hdirs.workingDir, ⟨_, hfound, rfl⟩,
    Node.fileAt?_eq_some_iff.mpr ⟨executable, hitem⟩, ?_, fun hname => isDir_of_writeFile hname h⟩
  intro m hm
  exact (hdirs.unchanged m).trans (Files.unchanged_of_placed hplaced hm)

theorem Landed.item_ne_none (h : Landed dir f before after l) : after.root.itemAt? l ≠ none := by
  intro hnone
  have hfile := h.file
  rw [Node.fileAt?, hnone] at hfile
  cases hfile

/-! ## All documents -/

/-- What a tree is after documents were written behind a directory, links followed: where paths
lead stands the last document that goes there, and all else is as it was. -/
structure Realised (dir : String) (files : List GeneratedFile) (before after : Files) : Prop where
  keeps : before.root.Keeps after.root
  workingDir : after.workingDir = before.workingDir
  leads : ∀ f ∈ files, ∃ l, after.LeadsTo (Path.join dir f.path) l
  last : ∀ l, (∃ f ∈ files, after.LeadsTo (Path.join dir f.path) l) →
    ∃ front f rear, files = front ++ f :: rear ∧ after.LeadsTo (Path.join dir f.path) l ∧
      (∀ g ∈ rear, ¬ after.LeadsTo (Path.join dir g.path) l) ∧
      after.root.fileAt? l = some f.contents.toUTF8
  others : ∀ l, (∀ f ∈ files, ¬ after.LeadsTo (Path.join dir f.path) l) → Unchanged before after l
  isDir : ∀ f ∈ files, IsName f.path → dir = "" ∨ after.isDir dir = true

theorem realised_nil (dir : String) (fs : Files) : Realised dir [] fs fs where
  keeps := .refl _
  workingDir := rfl
  leads _ hf := absurd hf List.not_mem_nil
  last _ h := by
    obtain ⟨_, hf, _⟩ := h
    cases hf
  others _ _ := Or.inl rfl
  isDir _ hf := absurd hf List.not_mem_nil

theorem Realised.leads_of_landed {between : Files} (h : Realised dir files between after)
    (hfirst : Landed dir f before between l) : after.LeadsTo (Path.join dir f.path) l :=
  hfirst.leads.of_keeps hfirst.item_ne_none h.keeps h.workingDir

/-- A document stays where it landed unless a later one lands there, too. -/
theorem Realised.cons {between : Files} (hfirst : Landed dir f before between l)
    (h : Realised dir files between after) : Realised dir (f :: files) before after where
  keeps := hfirst.keeps.trans h.keeps
  workingDir := h.workingDir.trans hfirst.workingDir
  leads := List.forall_mem_cons.mpr ⟨⟨l, h.leads_of_landed hfirst⟩, h.leads⟩
  last m hm := by
    by_cases hlater : ∃ g ∈ files, after.LeadsTo (Path.join dir g.path) m
    · obtain ⟨front, g, rear, rfl, hlast⟩ := h.last m hlater
      exact ⟨f :: front, g, rear, rfl, hlast⟩
    have hlater : ∀ g ∈ files, ¬ after.LeadsTo (Path.join dir g.path) m := by
      intro g hg hlead
      exact hlater ⟨g, hg, hlead⟩
    -- No later document goes there, so it is the first one that does.
    obtain ⟨g, hg, hlead⟩ := hm
    obtain rfl : g = f := (List.mem_cons.mp hg).resolve_right fun hg => hlater g hg hlead
    obtain rfl := hlead.unique (h.leads_of_landed hfirst)
    refine ⟨[], g, files, rfl, hlead, hlater, ?_⟩
    rcases h.others m hlater with hkept | ⟨hnone, _⟩
    · rw [Node.fileAt?, hkept]
      exact hfirst.file
    · exact absurd hnone hfirst.item_ne_none
  others m hm := by
    obtain ⟨hf, hfiles⟩ := List.forall_mem_cons.mp hm
    refine (hfirst.others m ?_).trans (h.others m hfiles)
    rintro rfl
    exact hf (h.leads_of_landed hfirst)
  isDir := by
    refine List.forall_mem_cons.mpr ⟨?_, h.isDir⟩
    intro hname
    rcases hfirst.isDir hname with hempty | hdir
    · exact Or.inl hempty
    · exact Or.inr (Files.isDir_of_keeps hdir h.keeps h.workingDir)

theorem realised_of_writeFiles (h : outcome (writeFiles dir files) before = (.ok paths, after)) :
    Realised dir files before after := by
  induction files generalizing before paths with
  | nil =>
    cases h
    exact realised_nil dir _
  | cons f files ih =>
    obtain ⟨path, between, hfile, h⟩ := outcome_bind_eq_ok_iff.mp h
    obtain ⟨rest, _, hrest, h⟩ := outcome_bind_eq_ok_iff.mp h
    cases h
    obtain ⟨l, hfirst⟩ := exists_landed hfile
    exact (ih hrest).cons hfirst

/-! ## Trees without links in the way -/

def placesOf (files : List GeneratedFile) : List Location := files.map fun f => pieces f.path

def Unlinked (root : Node) (d : Location) (places : List Location) : Prop :=
  ∀ p ∈ places, ∀ m target, m <+: p → root.itemAt? (d ++ m) ≠ some (.link target)

theorem lastDocument?_of_append {front rear : List GeneratedFile}
    (hrear : ∀ g ∈ rear, g.path ≠ f.path) :
    lastDocument? (front ++ f :: rear) f.path = some f.contents := by
  have hnone : rear.reverse.find? (fun g => g.path == f.path) = none :=
    List.find?_eq_none.mpr fun g hg heq =>
      hrear g (List.mem_reverse.mp hg) (eq_of_beq heq)
  rw [lastDocument?, List.reverse_append, List.reverse_cons, List.append_assoc, List.find?_append,
    hnone, Option.none_or, List.singleton_append, List.find?_cons, beq_self_eq_true]
  rfl

namespace Realised

variable {places : List Location}

theorem unlinked (h : Realised dir files before after) (hlinks : Unlinked before.root d places) :
    Unlinked after.root d places := by
  intro p hp m target hm
  by_cases hwritten : ∃ f ∈ files, after.LeadsTo (Path.join dir f.path) (d ++ m)
  · obtain ⟨_, f, _, _, _, _, hfile⟩ := h.last _ hwritten
    obtain ⟨executable, hitem⟩ := Node.fileAt?_eq_some_iff.mp hfile
    rw [hitem]
    exact fun hlink => by cases hlink
  · exact (h.others _ fun f hf hlead => hwritten ⟨f, hf, hlead⟩).not_link (hlinks p hp m target hm)

theorem leadsTo_iff (h : Realised dir files before after) (hbase : after.BasedAt dir d)
    (hlinks : Unlinked before.root d (placesOf files)) (hf : f ∈ files) (hplain : Plain f.path) :
    after.LeadsTo (Path.join dir f.path) l ↔ l = d ++ pieces f.path := by
  have hplace {l : Location} (hlead : after.LeadsTo (Path.join dir f.path) l) :
      l = d ++ pieces f.path :=
    hlead.eq_append hbase hplain (h.unlinked hlinks _ (List.mem_map_of_mem hf))
  refine ⟨hplace, fun heq => ?_⟩
  obtain ⟨l', hlead⟩ := h.leads f hf
  rwa [heq, ← hplace hlead]

theorem read (h : Realised dir files before after) (hbase : after.BasedAt dir d)
    (hlinks : Unlinked before.root d (placesOf files)) (hplain : ∀ f ∈ files, Plain f.path)
    (hf : f ∈ files) : ∃ contents, lastDocument? files f.path = some contents ∧
      after.read (Path.join dir f.path) = .ok contents.toUTF8 := by
  have hleads {g : GeneratedFile} (hg : g ∈ files) :=
    @leadsTo_iff _ _ _ g _ _ (d ++ pieces f.path) h hbase hlinks hg (hplain g hg)
  have hlead := (hleads hf).mpr rfl
  obtain ⟨front, g, rear, heq, hg, hrear, hfile⟩ := h.last _ ⟨f, hf, hlead⟩
  have hmem : g ∈ files := heq ▸ List.mem_append_right front List.mem_cons_self
  have hpath : g.path = f.path :=
    (pieces_inj.mp (List.append_cancel_left ((hleads hmem).mp hg))).symm
  refine ⟨g.contents, ?_, ?_⟩
  · rw [heq, ← hpath]
    refine lastDocument?_of_append fun k hk hsame => hrear k hk ?_
    rwa [hsame, hpath]
  · obtain ⟨found, hfound, hlocation⟩ := hlead
    rwa [Files.read_eq_ok_iff hfound, hlocation]

end Realised

/-! ## Generated projects -/

theorem Unblocked.unlinked {root : Node} {places : List Location} (h : Unblocked root d places) :
    Unlinked root d places := by
  intro p hp m target hm hlink
  obtain rfl | hne := eq_or_ne m []
  · rw [List.append_nil] at hlink
    rcases h.clear d (List.prefix_refl d) with hat | hat
    all_goals
      rw [hat] at hlink
      cases hlink
  · rcases h.way p hp m _ hne hm hlink with ⟨hdir, _⟩ | ⟨_, _, _, hfile⟩
    · cases hdir
    · cases hfile

theorem exists_generate_of_unblocked {b : Builder} {p : App.Project} {warnings : List String}
    {r : RenderedProject} (hcheck : b.check p = .ok warnings)
    (hr : Render.project b.maxDepth p = .ok r)
    (h : Unblocked before.root d (placesOf r.files))
    (hfits : ∀ f ∈ r.files, Fits (d ++ pieces f.path)) :
    ∃ o after, outcome (b.generate p (Path.absolute d)) before = (.ok o, after) := by
  obtain ⟨hp, -⟩ := Check.accept_eq_ok_iff.mp hcheck
  have hplain := Render.plain_of_project hp hr
  have hsep : Separate (placesOf r.files) :=
    separate_of_filed (List.forall_mem_map.mpr (filed_of_acceptable hp hr))
  obtain ⟨paths, after, hwrite⟩ := exists_writeFiles_of_unblocked h hsep hplain
    (fun f hf => List.mem_map_of_mem hf) hfits
  refine ⟨⟨paths, warnings⟩, after, ?_⟩
  rw [generate_of_check hcheck hr, writeProject, outcome_bind_of_ok hwrite]
  rfl

/-- What generating a project leaves of a tree: it was accepted, all links are followed, and where
no link stands in the way of a document, each path has its last document and all else is as it was
but for new directories. -/
theorem generated_tree (b : Builder) (p : App.Project) (dir : String) (before after : Files)
    (o : Builder.Generated) (hrun : outcome (b.generate p dir) before = (.ok o, after)) :
    ∃ r d, b.check p = .ok o.warnings ∧ Render.project b.maxDepth p = .ok r ∧
      o.files = r.files.map (fun f => Path.join dir f.path) ∧
      o.files.length = r.files.length ∧
      after.BasedAt dir d ∧ Realised dir r.files before after ∧
      (Unlinked before.root d (placesOf r.files) →
        (∀ f ∈ r.files, ∃ contents, lastDocument? r.files f.path = some contents ∧
          after.read (Path.join dir f.path) = .ok contents.toUTF8) ∧
        ∀ l, (∀ f ∈ r.files, l ≠ d ++ pieces f.path) →
          after.root.itemAt? l = before.root.itemAt? l ∨
            before.root.itemAt? l = none ∧ after.root.itemAt? l = some .dir) := by
  obtain ⟨warnings, hcheck⟩ : ∃ warnings, b.check p = .ok warnings := by
    cases hcheck : b.check p with
    | ok warnings => exact ⟨warnings, rfl⟩
    | error e =>
      rw [outcome_generate_of_refused hcheck] at hrun
      cases hrun
  obtain ⟨hp, -⟩ := Check.accept_eq_ok_iff.mp hcheck
  obtain ⟨r, hr, hplain⟩ := Render.exists_project_plain b.maxDepth hp
  rw [generate_of_check hcheck hr] at hrun
  obtain ⟨paths, between, hwrite, hrun⟩ := outcome_bind_eq_ok_iff.mp hrun
  cases hrun
  have hpaths := eq_of_writeFiles hwrite
  have hrealised := realised_of_writeFiles hwrite
  have hroot : (⟨"build.gradle", r.rootBuild⟩ : GeneratedFile) ∈ r.files := List.mem_cons_self
  have hname : IsName "build.gradle" := by decide
  obtain ⟨d, hbase⟩ := Files.exists_basedAt (hrealised.isDir _ hroot hname)
  refine ⟨r, d, hcheck, hr, hpaths, by rw [hpaths, List.length_map], hbase, hrealised,
    fun hlinks => ⟨fun f => hrealised.read hbase hlinks hplain, fun l hl => ?_⟩⟩
  exact hrealised.others l fun f hf hlead =>
    hl f hf ((hrealised.leadsTo_iff hbase hlinks hf (hplain f hf)).mp hlead)

/-- Files are in no document's way if their names have a point. -/
theorem unblocked_of_files {root : Node} {places : List Location} {children : List (String × Node)}
    (hclear : root.Clear d) (hdir : root.at? d = some (.dir children))
    (hfiles : ∀ e ∈ children, '.' ∈ e.1.toList ∧ ∃ c x, e.2 = .file c x)
    (hfiled : ∀ place ∈ places, Render.Filed place) : Unblocked root d places where
  clear := hclear
  way p hp m x hm hstart hx := by
    obtain ⟨name, rest, rfl⟩ := List.exists_cons_of_ne_nil hm
    rw [Node.itemAt?_append hdir, Node.itemAt?_cons] at hx
    obtain ⟨child, hchild, hitem⟩ := Option.bind_eq_some_iff.mp hx
    obtain ⟨xs, ys, rfl, -⟩ := List.lookup_eq_some_iff.mp hchild
    obtain ⟨hpoint, c, e, rfl⟩ := hfiles (name, child) (by simp)
    rw [(Node.isLeaf_file c e).itemAt?_eq] at hitem
    split at hitem
    · rename_i hnil
      subst hnil
      have hname : Render.Filed [name] := @Render.filed_concat [] name hpoint nofun
      exact Or.inr ⟨hname.eq_of_isPrefix (hfiled p hp) hstart, c, e, (Option.some.inj hitem).symm⟩
    · cases hitem

def usedFiles : Files :=
  { root := .dir [("o", .dir [
      ("build.gradle", .file "old".toUTF8 false), ("notes.txt", .file "mine".toUTF8 false)])] }

theorem clear_usedFiles : usedFiles.root.Clear ["o"] := by
  intro p hp
  obtain rfl | rfl : p = [] ∨ p = ["o"] := by simpa [List.prefix_cons_iff] using hp
  · exact Or.inr rfl
  · exact Or.inr rfl

theorem usedFiles_keep_notes : ∃ r o after, Render.project 32 Check.aboutProject = .ok r ∧
    outcome (rootBuilder.generate Check.aboutProject "/o") usedFiles = (.ok o, after) ∧
    (∀ f ∈ r.files, ∃ contents, lastDocument? r.files f.path = some contents ∧
      after.read (Path.join "/o" f.path) = .ok contents.toUTF8) ∧
    after.root.fileAt? ["o", "notes.txt"] = some "mine".toUTF8 := by
  have hp := Check.acceptable_aboutProject
  obtain ⟨r, hr, _⟩ := Render.exists_project_plain 32 hp
  have hcheck : rootBuilder.check Check.aboutProject = .ok _ :=
    Check.accept_eq_ok_iff.mpr ⟨hp, rfl⟩
  have hunblocked : Unblocked usedFiles.root ["o"] (placesOf r.files) :=
    unblocked_of_files clear_usedFiles rfl (by simp)
      (List.forall_mem_map.mpr (filed_of_acceptable hp hr))
  have hdir : Fits ["o"] := by decide
  have hfits := fits_of_short hp hr hdir (by decide) (short_of_hasShortPaths (by decide) hr)
  have hnotes : ∀ f ∈ r.files, (f.path != "notes.txt") = true := forall_files_of_all (by decide) hr
  obtain ⟨o, after, hrun⟩ := exists_generate_of_unblocked hcheck hr hunblocked hfits
  obtain ⟨r', d, -, hr', -, -, hbase, hrealised, hkept⟩ :=
    generated_tree rootBuilder Check.aboutProject "/o" usedFiles after o hrun
  obtain rfl := Except.ok.inj (hr.symm.trans hr')
  obtain ⟨_, hthere, hsame⟩ := hrealised.keeps ["o"] .dir rfl
  obtain rfl := hsame.eq_dir
  obtain rfl : d = ["o"] := by
    rcases hbase with ⟨hempty, _⟩ | ⟨found, hfound, rfl, _⟩
    · exact absurd hempty (by decide)
    · have hroot := Node.itemAt?_above_dir hthere (List.nil_prefix)
      have hfind := @Files.find_absolute after [] "o" true hdir hroot (hthere ▸ trivial)
      exact congrArg Host.Found.location (Except.ok.inj (hfound.symm.trans hfind))
  obtain ⟨hread, hothers⟩ := hkept hunblocked.unlinked
  refine ⟨r, o, after, hr, hrun, hread, ?_⟩
  have hapart : ∀ f ∈ r.files, ["o", "notes.txt"] ≠ ["o"] ++ pieces f.path := by
    intro f hf heq
    have hpieces : pieces "notes.txt" = pieces f.path :=
      @List.append_cancel_left _ ["o"] (pieces "notes.txt") (pieces f.path) heq
    exact absurd (pieces_inj.mp hpieces).symm (by simpa using hnotes f hf)
  rcases hothers _ hapart with hsame | ⟨hnone, _⟩
  · rw [Node.fileAt?, hsame]
    rfl
  · cases hnone

end AppScaffold.Build

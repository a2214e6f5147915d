import AppScaffold.Proofs.Build.SourceDownload
import AppScaffold.Proofs.Host.OneFile
import AppScaffold.Proofs.Server.Keystores
import AppScaffold.Server.Downloads

/-!
# Archives that stay

A request for the source packs the web root into an archive in the work directory, reads it and
removes it. Main statement: `archive_stays_iff_packing_fails`, for every way to pack that writes
nothing but the archive: it stays exactly when the packing fails after the archive was made.
-/

set_option autoImplicit false

namespace AppScaffold

open Host (FileTask Files Item Location Node Path.join outcome outcome_bind outcome_bind_of_ok)

/-! ## Packing -/

namespace Build

variable {dir target : String} {before opened after : Files}

theorem writesAt_openTarget (target : String) : FileTask.WritesAt target (openTarget target) := by
  unfold openTarget
  split
  · exact (FileTask.WritesAt.createDirs _ _).bind fun _ => .write _ _
  · exact .write _ _

theorem writesAt_writeArchive (target : String) (entries : List Archive.Entry) :
    FileTask.WritesAt target (writeArchive target entries) := by
  unfold writeArchive
  refine (FileTask.WritesAt.write _ _).bind fun _ => ?_
  split
  · exact .throw _
  · exact .pure _

theorem writesAt_packOpened (keep : Location → Item → Bool) (extra : List (String × String))
    (dir target : String) : FileTask.WritesAt target (packOpened keep extra dir target) :=
  (FileTask.WritesAt.look _).bind fun _ => writesAt_writeArchive target _

/-- A packing writes nothing but the archive, whatever becomes of it. -/
theorem writesAt_packageSource (dir target : String) :
    FileTask.WritesAt target (packageSource dir target) := by
  unfold packageSource packageDirectory
  rw [packageWhere_eq]
  refine (FileTask.WritesAt.look _).bind fun found => ?_
  split
  · exact (writesAt_openTarget target).bind fun _ => writesAt_packOpened _ _ dir target
  · exact .throw _

/-- Once it has been opened an archive is there, however its packing ends. -/
theorem isFile_of_packageSource {result : Except Report.Error Summary}
    (hdir : before.isDir dir = true) (hopen : outcome (openTarget target) before = (.ok (), opened))
    (hrun : outcome (packageSource dir target) before = (result, after)) :
    after.isFile target = true := by
  obtain ⟨_, _, hwrite⟩ := exists_of_openTarget hopen
  have hopened := Files.isFile_of_read (Files.read_of_write hwrite)
  unfold packageSource packageDirectory at hrun
  rw [packageWhere_eq, outcome_bind_of_ok (Host.FileTask.outcome_look _ _), hdir, if_pos rfl,
    outcome_bind_of_ok hopen] at hrun
  have hwrites :=
    writesAt_packOpened (byName isSource) [("README.md", sourceNote)] dir target opened
  rw [hrun] at hwrites
  exact hwrites.isFile hopened

end Build

namespace Server

open Web (Response)

variable {s : Service} {m : Moment} {pack : FileTask Build.Summary} {target : String}

/-! ## A request for the source -/

def archivePath (s : Service) (m : Moment) : String :=
  Path.join s.builder.workDir (archiveName m.unique)

def makeAbove (target : String) : FileTask Unit :=
  match Host.Path.parent? target with
  | some above => FileTask.createDirs above Host.Failure.toError
  | none => pure ()

def packBelow (pack : FileTask Build.Summary) (target : String) : FileTask Build.Summary := do
  makeAbove target
  pack

def takeArchive (pack : FileTask Build.Summary) (target : String) : FileTask ByteArray := do
  let _ ← packBelow pack target
  let contents ← FileTask.look (·.read target)
  modify fun fs => (fs.removeFile target).toOption.getD fs
  MonadExcept.ofExcept (contents.mapError Host.Failure.toError)

/-- The answer to a request for the source that packs in a certain way. -/
def downloadWith (pack : FileTask Build.Summary) (s : Service) (m : Moment) :
    StateM State Response :=
  Work.answer do
    let contents ← Work.onFiles (fun _ => .internal "Error generating source code download")
      (takeArchive pack (archivePath s m))
    return (Response.ofBody 200 "application/zip" contents).withHeader "content-disposition"
      (attachment "zeroapp-builder-source.zip")

/-- The work directory has an archive of some request that was not there before. -/
def LeavesArchive (s : Service) (before after : Files) : Prop :=
  ∃ d unique, after.BasedAt s.builder.workDir d ∧
    Files.NewFile before after (d ++ [archiveName unique])

theorem packStatics_eq (dir target : String) :
    packStatics dir target = takeArchive (Build.packageSource dir target) target := by
  unfold packStatics takeArchive packBelow makeAbove
  cases Host.Path.parent? target with
  | none => rfl
  | some above => exact (bind_assoc _ _ _).symm

theorem downloadSource_eq (s : Service) (m : Moment) :
    downloadSource s m =
      downloadWith (Build.packageSource s.staticDir (archivePath s m)) s m := by
  unfold downloadSource downloadWith
  rw [packStatics_eq]
  rfl

theorem toList_archiveName (unique : String) : (archiveName unique).toList =
    ".zeroapp-source-".toList ++ unique.toList ++ ".zip".toList := by
  unfold archiveName
  rw [String.toList_append, String.toList_append]

theorem isName_archiveName {unique : String} (h : '/' ∉ unique.toList) :
    Host.Path.IsName (archiveName unique) := by
  refine Host.Path.isName_of_mem (c := 'z') ?_ (by decide) ?_
  · simp [toList_archiveName]
  · simp [toList_archiveName, h]

theorem outcome_takeArchive (pack : FileTask Build.Summary) (target : String) (before : Files) :
    outcome (takeArchive pack target) before =
      match outcome (packBelow pack target) before with
      | (.error e, packed) => (.error e, packed)
      | (.ok _, packed) => ((packed.read target).mapError Host.Failure.toError,
          (packed.removeFile target).toOption.getD packed) := by
  rw [takeArchive, outcome_bind]
  rcases outcome (packBelow pack target) before with ⟨e | summary, packed⟩
  · rfl
  · dsimp only
    rw [outcome_bind_of_ok (Host.FileTask.outcome_look _ _)]
    cases packed.read target <;> rfl

theorem files_run_downloadWith (pack : FileTask Build.Summary) (s : Service) (m : Moment)
    (before : State) : ((downloadWith pack s m).run before).2.files =
      (outcome (takeArchive pack (archivePath s m)) before.files).2 := by
  rw [downloadWith, Work.run_answer, outcome_bind, Work.outcome_onFiles]
  rcases outcome (takeArchive pack (archivePath s m)) before.files with ⟨e | contents, after⟩ <;>
    rfl

theorem writesAt_packBelow (h : FileTask.WritesAt target pack) :
    FileTask.WritesAt target (packBelow pack target) := by
  have habove : FileTask.WritesAt target (makeAbove target) := by
    unfold makeAbove
    split
    · exact .createDirs _ _
    · exact .pure _
  exact habove.bind fun _ => h

theorem outcome_makeAbove {before : Files}
    (habove : ∀ above, Host.Path.parent? target = some above →
      before.createDirs above = (.ok (), before)) :
    outcome (makeAbove target) before = (.ok (), before) := by
  unfold makeAbove
  split
  · rename_i above hparent
    exact Host.FileTask.outcome_createDirs_eq_ok_iff.mpr (habove above hparent)
  · rfl

/-! ## What stays -/

/-- Nothing but the archive can be new after a request, and it is new when the packing has failed
and it is there. -/
theorem newFiles_downloadWith {before : State} (hslash : '/' ∉ m.unique.toList)
    (hfree : before.files.Free (archiveName m.unique))
    (hpack : FileTask.WritesAt (archivePath s m) pack) :
    let after := ((downloadWith pack s m).run before).2.files
    (∀ l, Files.NewFile before.files after l →
      ∃ d, after.BasedAt s.builder.workDir d ∧ l = d ++ [archiveName m.unique]) ∧
    ((∃ l, Files.NewFile before.files after l) ↔
      ∃ e packed, outcome (packBelow pack (archivePath s m)) before.files = (.error e, packed) ∧
        packed.isFile (archivePath s m) = true) := by
  have hname := isName_archiveName hslash
  have hwritten := writesAt_packBelow hpack before.files
  rw [files_run_downloadWith, outcome_takeArchive]
  rcases hrun : outcome (packBelow pack (archivePath s m)) before.files with ⟨e | summary, packed⟩
  · rw [hrun] at hwritten
    dsimp only at hwritten ⊢
    have hfile := hwritten.exists_newFile_iff hname hfree
    refine ⟨fun l hnew => ?_, hfile.trans ⟨fun hfile => ⟨e, packed, rfl, hfile⟩, ?_⟩⟩
    · exact (hwritten.exists_place hname hfree (hwritten.leadsTo_of_newFile hnew) hnew.2).1
    · rintro ⟨_, _, heq, hfile⟩
      exact (Prod.mk.inj heq).2 ▸ hfile
  · rw [hrun] at hwritten
    dsimp only at hwritten ⊢
    have hnone := hwritten.not_newFile_removed hname hfree
    refine ⟨fun l hnew => absurd hnew (hnone l), ?_⟩
    exact ⟨fun ⟨l, hnew⟩ => absurd hnew (hnone l), fun ⟨_, _, heq, _⟩ => by cases heq⟩

theorem leavesArchive_downloadWith_iff {before : State} (hslash : '/' ∉ m.unique.toList)
    (hfree : before.files.Free (archiveName m.unique))
    (hpack : FileTask.WritesAt (archivePath s m) pack) :
    LeavesArchive s before.files ((downloadWith pack s m).run before).2.files ↔
      ∃ e packed, outcome (packBelow pack (archivePath s m)) before.files = (.error e, packed) ∧
        packed.isFile (archivePath s m) = true := by
  obtain ⟨hplace, hnew⟩ := newFiles_downloadWith hslash hfree hpack
  rw [← hnew]
  constructor
  · rintro ⟨d, unique, _, hfile⟩
    exact ⟨_, hfile⟩
  · rintro ⟨l, hfile⟩
    obtain ⟨d, hbase, rfl⟩ := hplace l hfile
    exact ⟨d, m.unique, hbase, hfile⟩

/-- A request for the source, from any state whose tree does not have the name of its archive. It
packs by a task that writes nothing but the archive. Whatever such a task does, and wherever it
fails, nothing is new after the request but this archive in the work directory; and the archive is
there exactly when the packing has failed after making it. A packing that ends well leaves none. -/
theorem archive_stays_iff_packing_fails (s : Service) (m : Moment) (before : State)
    (hslash : '/' ∉ m.unique.toList) (hfree : before.files.Free (archiveName m.unique)) :
    downloadSource s m =
        downloadWith (Build.packageSource s.staticDir (archivePath s m)) s m ∧
      FileTask.WritesAt (archivePath s m)
        (Build.packageSource s.staticDir (archivePath s m)) ∧
      ∀ pack, FileTask.WritesAt (archivePath s m) pack →
        let after := ((downloadWith pack s m).run before).2.files
        (∀ l, Files.NewFile before.files after l →
          ∃ d, after.BasedAt s.builder.workDir d ∧ l = d ++ [archiveName m.unique]) ∧
        (LeavesArchive s before.files after ↔
          ∃ e packed, outcome (packBelow pack (archivePath s m)) before.files =
              (.error e, packed) ∧ packed.isFile (archivePath s m) = true) := by
  refine ⟨downloadSource_eq s m, Build.writesAt_packageSource _ _, fun pack hpack => ?_⟩
  exact ⟨(newFiles_downloadWith hslash hfree hpack).1,
    leavesArchive_downloadWith_iff hslash hfree hpack⟩

/-! ## Web roots that keep their archives -/

theorem not_isOwn_readme (s : Service) (hslash : '/' ∉ m.unique.toList) (dir : String) :
    ¬ Build.IsOwn dir (archivePath s m) ["README.md"] := by
  intro hown
  have hpath := Host.Path.components_join_name s.builder.workDir (isName_archiveName hslash)
  have hnote := (Build.isOwn_iff (List.forall_mem_singleton.mpr (by decide))).mp hown
  rw [archivePath, hpath] at hnote
  have hlast := congrArg List.getLast? hnote
  simp [← String.toList_inj, toList_archiveName] at hlast

/-- The archive of a web root that can be read stays exactly when this has a file that is named like
the note in the archive. -/
theorem leavesArchive_downloadSource_iff {before : State} {made opened : Files} {tree : Node}
    (hslash : '/' ∉ m.unique.toList) (hfree : before.files.Free (archiveName m.unique))
    (hmade : outcome (makeAbove (archivePath s m)) before.files = (.ok (), made))
    (htree : tree.Sound) (hshows : made.Shows s.staticDir tree)
    (hopen : outcome (Build.openTarget (archivePath s m)) made = (.ok (), opened))
    (hself : Build.SeesItself opened (Build.byName Build.isSource) s.staticDir (archivePath s m)) :
    LeavesArchive s before.files ((downloadSource s m).run before).2.files ↔
      tree.fileAt? ["README.md"] ≠ none := by
  have hselects : Build.Selects (Build.byName Build.isSource) s.staticDir (archivePath s m) tree
    _ := Build.selects_filter htree.distinct
  have hmem := (Build.selects_isSource_iff.mp hselects).2
  rw [downloadSource_eq, leavesArchive_downloadWith_iff hslash hfree
    (Build.writesAt_packageSource _ _), packBelow, outcome_bind_of_ok hmade]
  constructor
  · rintro ⟨e, packed, hfails, _⟩ hnone
    obtain ⟨summary, packed', hpacked, _⟩ := Build.exists_packed_of_no_readme hshows htree hselects
      hopen hself fun f hf hplace => by
        have hfile := ((hmem f.1 f.2).mp hf).1
        rw [hplace, hnone] at hfile
        cases hfile
    cases hfails.symm.trans hpacked
  · intro hsome
    obtain ⟨contents, hfile⟩ := Option.ne_none_iff_exists'.mp hsome
    have hreadme := (hmem ["README.md"] contents).mpr
      ⟨hfile, ⟨by decide, by decide, by decide⟩, not_isOwn_readme s hslash _⟩
    obtain ⟨packed, hfails⟩ := Build.outcome_packageSource_of_readme hshows htree hselects hopen
      hself ⟨_, hreadme, rfl⟩
    obtain ⟨d, n, hn, _⟩ := hshows
    exact ⟨_, packed, hfails, Build.isFile_of_packageSource hn.isDir hopen hfails⟩

/-! ## One archive that is removed and one that stays -/

def sourceService : Service :=
  { rootService with staticDir := "/p", builder := { Build.rootBuilder with workDir := "/" } }

def singleRoot (file : String) : Node := .dir [(file, .file "clash".toUTF8 false)]

theorem sound_singleRoot {file : String} (h : Host.Path.IsName file) : (singleRoot file).Sound :=
  Node.sound_of_isSound (by simp [singleRoot, Node.isSound, Node.areSound, h])

theorem free_singleRoot {file name : String} (hroot : name ≠ "p") (hfile : name ≠ file) :
    (Build.filesWith (singleRoot file)).Free name := by
  intro d
  rcases d with _ | ⟨a, _ | ⟨b, d⟩⟩
  · simp [Build.filesWith, Node.itemAt?_cons, Keyed.lookup_cons_eq, hroot]
  · simp only [Build.filesWith, singleRoot, List.cons_append, List.nil_append, Node.itemAt?_cons,
      Keyed.lookup_cons_eq]
    split
    · simp [Node.itemAt?_cons, Keyed.lookup_cons_eq, hfile]
    · rfl
  · simp only [Build.filesWith, singleRoot, List.cons_append, Node.itemAt?_cons,
      Keyed.lookup_cons_eq]
    split
    · simp only [Option.bind_some, Node.itemAt?_cons, Keyed.lookup_cons_eq]
      split
      · rw [Option.bind_some, (Host.Node.isLeaf_file _ _).itemAt?_eq,
          if_neg (List.concat_ne_nil name d)]
      · rfl
    · rfl

def sourceState (file : String) : State := { files := Build.filesWith (singleRoot file) }

theorem archivePath_sourceService :
    archivePath sourceService rootMoment =
      Host.Path.absolute ([] ++ [archiveName rootMoment.unique]) := by decide

section

variable {file : String}

theorem shows_sourceState (h : Host.Path.IsName file) :
    (sourceState file).files.Shows "/p" (singleRoot file) :=
  ⟨_, _, Build.hasDir_filesWith rfl (sound_singleRoot h), fun _ => rfl⟩

theorem exists_opened_sourceState (h : Host.Path.IsName file) :
    ∃ opened, outcome (Build.openTarget (archivePath sourceService rootMoment))
        (sourceState file).files = (.ok (), opened) ∧
      Build.SeesItself opened (Build.byName Build.isSource) "/p"
        (archivePath sourceService rootMoment) ∧
      Build.Selects (Build.byName Build.isSource) "/p" (archivePath sourceService rootMoment)
        (singleRoot file) ((singleRoot file).walk (Build.byName Build.isSource)) := by
  rw [archivePath_sourceService]
  obtain ⟨opened, hopen, hwithin⟩ :=
    Build.exists_opened_beside rfl (sound_singleRoot h) (archiveName rootMoment.unique)
      (by decide) (by decide)
  exact ⟨opened, hopen, Build.seesItself_of_not_within hwithin,
    Build.selects_walk_of_shows (shows_sourceState h) (sound_singleRoot h) hopen hwithin⟩

theorem outcome_makeAbove_sourceState :
    outcome (makeAbove (archivePath sourceService rootMoment)) (sourceState file).files =
      (.ok (), (sourceState file).files) := by
  refine outcome_makeAbove fun above habove => ?_
  rw [archivePath_sourceService, Host.Path.parent?_absolute (by decide)] at habove
  obtain rfl := Option.some.inj habove
  exact Files.createDirs_of_isDir (Files.isDir_absolute (by decide) rfl)

end

/-- The archive of a web root with an ordinary file is made and removed. -/
theorem indexRoot_leaves_nothing :
    (∃ summary packed, outcome (packBelow (Build.packageSource sourceService.staticDir
          (archivePath sourceService rootMoment)) (archivePath sourceService rootMoment))
        (sourceState "index.html").files = (.ok summary, packed) ∧
      packed.isFile (archivePath sourceService rootMoment) = true) ∧
    ¬ LeavesArchive sourceService (sourceState "index.html").files
      ((downloadSource sourceService rootMoment).run (sourceState "index.html")).2.files := by
  have hname : Host.Path.IsName "index.html" := by decide
  obtain ⟨opened, hopen, hself, hselects⟩ := exists_opened_sourceState hname
  have hnone : ∀ f ∈ (singleRoot "index.html").walk (Build.byName Build.isSource),
      f.1 ≠ ["README.md"] := by
    intro f hf heq
    obtain ⟨x, hitem⟩ := hselects.exists_item hf
    rw [heq] at hitem
    cases hitem
  obtain ⟨summary, packed, hrun, hpacked⟩ := Build.exists_packed_of_no_readme
    (shows_sourceState hname) (sound_singleRoot hname) hselects hopen hself hnone
  obtain ⟨hsame, hwrites, hleaves⟩ := archive_stays_iff_packing_fails sourceService rootMoment
    (sourceState "index.html") (by decide) (free_singleRoot (by decide) (by decide))
  rw [hsame, (hleaves _ hwrites).2, packBelow, outcome_bind_of_ok outcome_makeAbove_sourceState]
  refine ⟨⟨summary, packed, hrun, Files.isFile_of_read hpacked.read⟩, ?_⟩
  rintro ⟨e, _, hfails, _⟩
  cases hrun.symm.trans hfails

/-- A web root with a file of the note's name: the packing fails when the archive has been made, and
the archive stays. -/
theorem not_every_archive_removed : ¬ ∀ (s : Service) (m : Moment) (before : State),
    '/' ∉ m.unique.toList → before.files.Free (archiveName m.unique) →
      ¬ LeavesArchive s before.files ((downloadSource s m).run before).2.files := by
  intro h
  have hname : Host.Path.IsName "README.md" := by decide
  have hslash : '/' ∉ rootMoment.unique.toList := by decide
  have hfree : (sourceState "README.md").files.Free (archiveName rootMoment.unique) :=
    free_singleRoot (by decide) (by decide)
  obtain ⟨opened, hopen, hself, _⟩ := exists_opened_sourceState hname
  refine h sourceService rootMoment (sourceState "README.md") hslash hfree ?_
  rw [leavesArchive_downloadSource_iff hslash hfree outcome_makeAbove_sourceState
    (sound_singleRoot hname) (shows_sourceState hname) hopen hself]
  exact Option.some_ne_none _

end Server

end AppScaffold

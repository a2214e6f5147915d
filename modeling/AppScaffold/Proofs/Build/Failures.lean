import AppScaffold.Proofs.Build.Generated
import AppScaffold.Proofs.Host.FileTask

/-!
# Failures of builds

A project that the check turns down ends a build before it touches any file. For a project that the
check accepts, rendering cannot fail, so what is left are failures of the files, of the keystore and
of the package.
-/

set_option autoImplicit false

namespace AppScaffold.Build

open Host (FileTask Launcher Environment Failure FailsWith IsIO Item Location Path.join Path.parent?
  outcome)
open Host.FileTask (failsWith_look failsWith_change failsWith_createDirs failsWith_write)
open Report (Error)

/-! ## Writing -/

theorem failsWith_writeContents (path : String) (f : Render.GeneratedFile) :
    FailsWith IsIO (writeContents path f) :=
  (failsWith_write path _ (Host.isIO_during _)).bind fun _ => .pure IsIO path

theorem failsWith_writeFile (dir : String) (f : Render.GeneratedFile) :
    FailsWith IsIO (writeFile dir f) := by
  rw [writeFile_eq]
  split
  · exact (failsWith_createDirs _ (Host.isIO_during _)).bind fun _ => failsWith_writeContents _ f
  · exact failsWith_writeContents _ f

theorem failsWith_writeFiles (dir : String) (fs : List Render.GeneratedFile) :
    FailsWith IsIO (writeFiles dir fs) := by
  induction fs with
  | nil => exact .pure IsIO []
  | cons f fs ih =>
    exact (failsWith_writeFile dir f).bind fun path => ih.bind fun paths => .pure IsIO _

/-- An error of a build behind the check. -/
def IsBuildFailure (e : Error) : Prop :=
  IsIO e ∨ e.code = .keystoreError ∨ e.code = .packagingError

theorem isBuildFailure_toError (f : Failure) : IsBuildFailure f.toError :=
  Or.inl (Host.isIO_toError f)

theorem isBuildFailure_during (what : String) (f : Failure) :
    IsBuildFailure (FileTask.during what f) :=
  Or.inl (Host.isIO_during what f)

/-! ## The keystore -/

theorem failsWith_simulate (path reason : String) :
    FailsWith IsBuildFailure (KeyTool.simulate path reason) :=
  (failsWith_write path _ fun _ => Or.inr (Or.inl rfl)).bind fun _ => .pure _ _

theorem failsWith_generateKeystore (t : KeyTool) (launcher : Launcher) (env : Environment)
    (path : String) (password : Option String) :
    FailsWith IsBuildFailure (t.generate launcher env path password) := by
  refine (failsWith_look _).bind fun program => ?_
  cases program with
  | none => exact failsWith_simulate path _
  | some program =>
    refine (FailsWith.get _).bind fun before => ?_
    obtain ⟨result, fs⟩ := launcher.run before env program
      (t.arguments path (KeyTool.passwordOr t.settings.password password))
    refine (FailsWith.set _ fs).bind fun _ => ?_
    cases result with
    | error f => exact failsWith_simulate path _
    | ok finished =>
      dsimp only
      split
      · exact .pure _ _
      · exact failsWith_simulate path _

theorem failsWith_provide (source path : String) :
    FailsWith IsBuildFailure (KeyTool.provide source path) := by
  refine (failsWith_look _).bind fun found => ?_
  cases found with
  | false => exact .throw (Or.inl (Host.isIO_fileNotFound source))
  | true =>
    exact (failsWith_change _ fun _ => Or.inr (Or.inl rfl)).bind fun _ => .pure _ _

/-! ## The package -/

def writeArchive (target : String) (entries : List Archive.Entry) : FileTask Summary := do
  let (archive, clash) := Archive.addAll [] entries
  let bytes := archive.encode
  FileTask.write target bytes Failure.toError
  match clash with
  | some name => throw (packagingError target (duplicateName name))
  | none => return ⟨target, archive.length, bytes.size, Archive.sha256 bytes⟩

def packOpened (keep : Location → Item → Bool) (extra : List (String × String))
    (root target : String) : FileTask Summary := do
  let files ← FileTask.look fun fs => ((fs.node? root).map (packagedFiles keep root target)).getD []
  writeArchive target (files ++ extra.map fun e => ⟨e.1, e.2.toUTF8, 0o644⟩)

theorem packageWhere_eq (keep : Location → Item → Bool) (extra : List (String × String))
    (root target : String) :
    packageWhere keep extra root target =
      FileTask.look (·.isDir root) >>= fun found =>
        if found then openTarget target >>= fun _ => packOpened keep extra root target
        else throw (.fileNotFound root) := by
  unfold packageWhere packOpened writeArchive
  congr 1
  funext found
  cases found <;> rfl

theorem failsWith_openTarget (target : String) : FailsWith IsBuildFailure (openTarget target) := by
  unfold openTarget
  split
  · refine (failsWith_createDirs _ isBuildFailure_toError).bind fun _ => ?_
    exact failsWith_write target _ isBuildFailure_toError
  · exact (FailsWith.pure _ _).bind fun _ => failsWith_write target _ isBuildFailure_toError

theorem failsWith_writeArchive (target : String) (entries : List Archive.Entry) :
    FailsWith IsBuildFailure (writeArchive target entries) := by
  unfold writeArchive
  obtain ⟨archive, clash⟩ := Archive.addAll [] entries
  refine (failsWith_write target _ isBuildFailure_toError).bind fun _ => ?_
  cases clash with
  | none => exact .pure _ _
  | some name => exact .throw (Or.inr (Or.inr rfl))

theorem failsWith_packageWhere (keep : Location → Item → Bool) (extra : List (String × String))
    (root target : String) : FailsWith IsBuildFailure (packageWhere keep extra root target) := by
  rw [packageWhere_eq]
  refine (failsWith_look _).bind fun found => ?_
  split
  · exact (failsWith_openTarget target).bind fun _ => (failsWith_look _).bind fun _ =>
      failsWith_writeArchive target _
  · exact .throw (Or.inl (Host.isIO_fileNotFound root))

theorem failsWith_signAndPack (b : Builder) (launcher : Launcher) (env : Environment)
    (stamp : Builder.Stamp) (r : Builder.Request) (dir : String) (warnings files : List String) :
    FailsWith IsBuildFailure (b.signAndPack launcher env stamp r dir warnings files) := by
  have hpack := failsWith_packageWhere (byName fun _ _ => true) [("README.txt", packageNote)] dir
    (Path.join b.outputDir (Builder.packageName stamp.id))
  unfold Builder.signAndPack
  dsimp only
  split
  · exact (failsWith_provide _ _).bind fun keystore => hpack.bind fun package => .pure _ _
  · exact (failsWith_generateKeystore _ _ _ _ _).bind fun keystore =>
      hpack.bind fun package => .pure _ _

/-! ## Builds -/

theorem validationError_of_check {b : Builder} {p : App.Project} {e : Error}
    (h : b.check p = .error e) : e.code = .validationError := by
  unfold Builder.check Check.accept Check.Findings.toError? at h
  dsimp only at h
  split at h
  · rename_i e' heq
    split at heq
    · cases heq
    · cases heq
      cases h
      rfl
  · cases h

theorem outcome_generate_of_refused {b : Builder} {p : App.Project} {e : Error}
    (h : b.check p = .error e) (dir : String) (before : Host.Files) :
    outcome (b.generate p dir) before = (.error e, before) := by
  rw [Builder.generate, Builder.generate.liftExcept, h]
  exact Host.outcome_ofExcept_error_bind e _ before

theorem outcome_build_of_refused {b : Builder} {p : App.Project} {e : Error}
    (h : b.check p = .error e) (launcher : Launcher) (env : Environment) (stamp : Builder.Stamp)
    (password keystore : Option String) (before : Host.Files) :
    outcome (b.build launcher env stamp ⟨p, password, keystore⟩) before = (.error e, before) := by
  rw [Builder.build, h]
  exact Host.outcome_ofExcept_error_bind e _ before

/-- The check alone decides whether a project is built. If it turns the project down, its error is
the outcome and no file is touched; if not, the project renders, and only work on files, on the
keystore and on the package can fail. -/
theorem check_decides_failures (b : Builder) (p : App.Project) :
    (∀ e, b.check p = .error e → e.code = .validationError ∧
      (∀ dir before, outcome (b.generate p dir) before = (.error e, before)) ∧
      ∀ launcher env stamp password keystore before,
        outcome (b.build launcher env stamp ⟨p, password, keystore⟩) before =
          (.error e, before)) ∧
    ∀ warnings, b.check p = .ok warnings →
      (∃ r, Render.project b.maxDepth p = .ok r) ∧
      (∀ dir, FailsWith IsIO (b.generate p dir)) ∧
      ∀ launcher env stamp password keystore,
        FailsWith IsBuildFailure (b.build launcher env stamp ⟨p, password, keystore⟩) := by
  constructor
  · intro e h
    exact ⟨validationError_of_check h, outcome_generate_of_refused h, outcome_build_of_refused h⟩
  · intro warnings h
    obtain ⟨hp, -⟩ := Check.accept_eq_ok_iff.mp h
    obtain ⟨r, hr, -⟩ := Render.exists_project_plain b.maxDepth hp
    refine ⟨⟨r, hr⟩, fun dir => ?_, fun launcher env stamp password keystore => ?_⟩
    · rw [generate_of_check h hr]
      exact (failsWith_writeFiles dir r.files).bind fun files => .pure _ _
    · rw [build_of_check h hr]
      refine (failsWith_createDirs _ (isBuildFailure_during _)).bind fun _ => ?_
      refine (failsWith_createDirs _ (isBuildFailure_during _)).bind fun _ => ?_
      refine ((failsWith_writeFiles _ r.files).mono fun _ => Or.inl).bind fun files => ?_
      exact failsWith_signAndPack b launcher env stamp _ _ warnings files

def blankProject : App.Project := { Check.notesProject with name := " " }

/-- One project that is turned down and one that is accepted. -/
theorem blankProject_leaves_no_trace :
    (∃ e, (default : Builder).check blankProject = .error e ∧ e.code = .validationError ∧
      (∀ dir before, outcome ((default : Builder).generate blankProject dir) before =
        (.error e, before)) ∧
      ∀ launcher env stamp before,
        outcome ((default : Builder).build launcher env stamp ⟨blankProject, none, none⟩) before =
          (.error e, before)) ∧
    ∃ warnings, (default : Builder).check Check.notesProject = .ok warnings ∧
      (∃ r, Render.project (default : Builder).maxDepth Check.notesProject = .ok r) ∧
      FailsWith IsIO ((default : Builder).generate Check.notesProject "/tmp/out") := by
  constructor
  · have hblank : ¬ Check.Acceptable blankProject := fun h => absurd h.nameGiven (by decide)
    cases hcheck : (default : Builder).check blankProject with
    | ok warnings => exact absurd (Check.accept_eq_ok_iff.mp hcheck).1 hblank
    | error e =>
      obtain ⟨hcode, hgenerate, hbuild⟩ := (check_decides_failures default blankProject).1 e hcheck
      exact ⟨e, rfl, hcode, hgenerate, fun launcher env stamp =>
        hbuild launcher env stamp none none⟩
  · have hcheck : (default : Builder).check Check.notesProject = .ok _ :=
      Check.accept_eq_ok_iff.mpr ⟨Check.acceptable_notesProject, rfl⟩
    obtain ⟨hr, hgenerate, _⟩ := (check_decides_failures default Check.notesProject).2 _ hcheck
    exact ⟨_, hcheck, hr, hgenerate "/tmp/out"⟩

end AppScaffold.Build

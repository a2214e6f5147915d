import AppScaffold.Proofs.Host.Change
import AppScaffold.Proofs.Host.FileTask
import AppScaffold.Proofs.Server.Token
import AppScaffold.Server.Service

/-!
# Uploads that are stored

What the steps of a request's work give, the answer that the whole comes to, and what an upload that
is answered with success has done: the file of its token holds its bytes.
-/

set_option autoImplicit false

/-! ## Runs of the work -/

namespace AppScaffold.Server.Work

open Host (FailsWith FileTask outcome outcome_bind_of_ok outcome_get)
open Web (Response)

variable {α : Type} {P : Problem → Prop}

theorem outcome_onFiles (wrap : Report.Error → Problem) (task : FileTask α) (before : State) :
    outcome (onFiles wrap task) before =
      ((outcome task before.files).1.mapError wrap,
        { before with files := (outcome task before.files).2 }) := by
  rw [onFiles, outcome_bind_of_ok (outcome_get before)]
  rw [show task.run.run before.files = outcome task before.files from rfl]
  rcases outcome task before.files with ⟨e | a, files⟩ <;> rfl

theorem outcome_onFiles_eq_ok_iff {wrap : Report.Error → Problem} {task : FileTask α}
    {before after : State} {a : α} :
    outcome (onFiles wrap task) before = (.ok a, after) ↔
      outcome task before.files = (.ok a, after.files) ∧ after.metrics = before.metrics := by
  rw [outcome_onFiles]
  rcases outcome task before.files with ⟨e | b, files⟩
  · exact ⟨nofun, nofun⟩
  · constructor
    · intro h
      cases h
      exact ⟨rfl, rfl⟩
    · rintro ⟨h, hmetrics⟩
      cases h
      cases after
      cases hmetrics
      rfl

theorem run_answer (work : Work Response) (before : State) :
    (answer work).run before =
      match outcome work before with
      | (.ok r, after) => (r, after)
      | (.error p, after) => (p.toResponse, after) := by
  rw [answer, StateT.run_bind]
  rw [show work.run.run before = outcome work before from rfl]
  rcases outcome work before with ⟨p | r, after⟩ <;> rfl

theorem failsWith_onFiles {wrap : Report.Error → Problem} (h : ∀ e, P (wrap e))
    (task : FileTask α) : FailsWith P (onFiles wrap task) := by
  intro before p after hrun
  rw [outcome_onFiles] at hrun
  cases hresult : (outcome task before.files).1 with
  | error e =>
    rw [hresult] at hrun
    cases hrun
    exact h e
  | ok a =>
    rw [hresult] at hrun
    cases hrun

end AppScaffold.Server.Work

namespace AppScaffold.Server

open Host (FailsWith Files Path.join outcome outcome_bind outcome_bind_of_ok outcome_bind_eq_ok_iff)
open Host.FileTask (outcome_createDirs_eq_ok_iff outcome_write_eq_ok_iff)
open Host.Path (IsName)
open Web (Form FormFault Request Response)

variable {s : Service} {m : Moment} {field dir name token : String} {form : Form}
  {contents : ByteArray}

/-! ## Writing -/

theorem outcome_writeUpload_eq_ok_iff {before after : Files} :
    outcome (writeUpload dir name contents) before = (.ok (), after) ↔
      ∃ between, before.createDirs dir = (.ok (), between) ∧
        between.write (Path.join dir name) contents = .ok after := by
  rw [writeUpload, outcome_bind_eq_ok_iff]
  constructor
  · rintro ⟨_, between, hdirs, hwrite⟩
    exact ⟨between, outcome_createDirs_eq_ok_iff.mp hdirs, outcome_write_eq_ok_iff.mp hwrite⟩
  · rintro ⟨between, hdirs, hwrite⟩
    exact ⟨(), between, outcome_createDirs_eq_ok_iff.mpr hdirs, outcome_write_eq_ok_iff.mpr hwrite⟩

theorem read_of_writeUpload {before after : Files}
    (h : outcome (writeUpload dir name contents) before = (.ok (), after)) :
    after.read (Path.join dir name) = .ok contents := by
  obtain ⟨between, _, hwrite⟩ := outcome_writeUpload_eq_ok_iff.mp h
  exact Files.read_of_write hwrite

theorem size_le_of_writeUpload {before after : Files} (hname : IsName name)
    (h : outcome (writeUpload dir name contents) before = (.ok (), after)) :
    name.utf8ByteSize ≤ 255 := by
  obtain ⟨between, _, hwrite⟩ := outcome_writeUpload_eq_ok_iff.mp h
  obtain ⟨found, _, hfound, _⟩ := Files.placed_of_write hwrite
  exact Files.size_le_of_find hname hfound

/-! ## Storing -/

def storingProblem (e : Report.Error) : Problem :=
  .internal ("Failed to store upload: " ++ e.message)

theorem storeUpload_of_part {part : Web.FormPart} (h : form.find field = .ok (some part)) :
    storeUpload s m field form =
      if s.uploadLimit < part.contents.length then throw (.tooLarge "File too large")
      else Work.onFiles storingProblem (writeUpload s.uploadDir
        (storedName m.milliseconds (part.fileName.getD field)) ⟨part.contents.toArray⟩) >>=
          fun _ => pure (storedName m.milliseconds (part.fileName.getD field)) := by
  simp only [storeUpload, h]
  split <;> rfl

/-- Storing succeeds when the form has a file that is not too large and this can be written. -/
theorem outcome_storeUpload_eq_ok_iff {before after : State} :
    outcome (storeUpload s m field form) before = (.ok token, after) ↔
      ∃ part, form.find field = .ok (some part) ∧ part.contents.length ≤ s.uploadLimit ∧
        token = storedName m.milliseconds (part.fileName.getD field) ∧
        outcome (writeUpload s.uploadDir token ⟨part.contents.toArray⟩) before.files =
          (.ok (), after.files) ∧ after.metrics = before.metrics := by
  rcases hfind : form.find field with fault | _ | part
  · simp only [storeUpload, hfind]
    refine iff_of_false (fun h => ?_) (by simp)
    cases h
  · simp only [storeUpload, hfind]
    refine iff_of_false (fun h => ?_) (by simp)
    cases h
  · rw [storeUpload_of_part hfind]
    split
    · rename_i hlarge
      refine iff_of_false (fun h => ?_) ?_
      · cases h
      · rintro ⟨_, heq, hsmall, _⟩
        cases heq
        exact Nat.not_lt.mpr hsmall hlarge
    · rename_i hsmall
      rw [outcome_bind_eq_ok_iff]
      constructor
      · rintro ⟨_, _, hwrite, hrun⟩
        cases hrun
        obtain ⟨hwrite, hmetrics⟩ := Work.outcome_onFiles_eq_ok_iff.mp hwrite
        exact ⟨part, rfl, Nat.le_of_not_lt hsmall, rfl, hwrite, hmetrics⟩
      · rintro ⟨_, heq, _, rfl, hwrite, hmetrics⟩
        cases heq
        exact ⟨(), after, Work.outcome_onFiles_eq_ok_iff.mpr ⟨hwrite, hmetrics⟩, rfl⟩

theorem failsWith_storeUpload (s : Service) (m : Moment) (field : String) (form : Form) :
    FailsWith (fun p => p.status ≠ 200) (storeUpload s m field form) := by
  rcases hfind : form.find field with fault | _ | part
  · simp only [storeUpload, hfind]
    refine .throw ?_
    cases fault <;> simp [FormFault.status]
  · simp only [storeUpload, hfind]
    exact .throw (by simp [Problem.badRequest])
  · rw [storeUpload_of_part hfind]
    split
    · exact .throw (by simp [Problem.tooLarge])
    · refine (Work.failsWith_onFiles (fun e => ?_) _).bind fun _ => .pure _ _
      simp [storingProblem, Problem.internal]

def storedAnswer (title member token : String) : Response :=
  jsonResponse 200 (.ofMembers [("success", .bool true),
    ("message", .text (title ++ " uploaded successfully")), (member, .text token)])

theorem exists_stored_of_upload {title member : String} {r : Request} {before : State}
    (hok : ((upload s m field title member r).run before).1.status = 200) :
    ∃ form token after, formOf? s r = some form ∧
      outcome (storeUpload s m field form) before = (.ok token, after) ∧
      (upload s m field title member r).run before = (storedAnswer title member token, after) := by
  cases hform : formOf? s r with
  | none =>
    rw [upload, hform] at hok
    cases hok
  | some form =>
    have hupload : upload s m field title member r =
        Work.answer (storeUpload s m field form >>= fun stored =>
          pure (storedAnswer title member stored)) := by
      rw [upload, hform]
      rfl
    rw [hupload, Work.run_answer, outcome_bind] at hok ⊢
    rcases hstore : outcome (storeUpload s m field form) before with ⟨p | token, after⟩
    · rw [hstore] at hok
      exact absurd hok (failsWith_storeUpload s m field form before p after hstore)
    · exact ⟨form, token, after, rfl, hstore, rfl⟩

end AppScaffold.Server

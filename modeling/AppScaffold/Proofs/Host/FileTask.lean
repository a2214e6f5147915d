import AppScaffold.Host.FileTask

/-!
# Runs of tasks

What a task with a state and errors gives, step by step, the paths that a task on files may write
at, and the errors that it can end with. `WritesOnly` and `FailsWith` follow the way a task is put
together, so they speak of every run, failed ones included.
-/

set_option autoImplicit false

namespace AppScaffold.Host

variable {ε σ α β : Type}

def outcome (task : ExceptT ε (StateM σ) α) (before : σ) : Except ε α × σ := task.run.run before

theorem outcome_get (before : σ) :
    outcome (get : ExceptT ε (StateM σ) σ) before = (.ok before, before) := rfl

theorem outcome_set (before after : σ) :
    outcome (set after : ExceptT ε (StateM σ) PUnit) before = (.ok ⟨⟩, after) := rfl

theorem outcome_bind (task : ExceptT ε (StateM σ) α) (next : α → ExceptT ε (StateM σ) β)
    (before : σ) :
    outcome (task >>= next) before =
      match outcome task before with
      | (.ok a, between) => outcome (next a) between
      | (.error e, between) => (.error e, between) := by
  change (match outcome task before with
    | (result, between) => (ExceptT.bindCont next result).run between) = _
  rcases outcome task before with ⟨e | a, between⟩ <;> rfl

theorem outcome_bind_of_ok {task : ExceptT ε (StateM σ) α} {next : α → ExceptT ε (StateM σ) β}
    {a : α} {before between : σ} (h : outcome task before = (.ok a, between)) :
    outcome (task >>= next) before = outcome (next a) between := by
  rw [outcome_bind, h]

theorem outcome_bind_eq_ok_iff {task : ExceptT ε (StateM σ) α}
    {next : α → ExceptT ε (StateM σ) β} {b : β} {before after : σ} :
    outcome (task >>= next) before = (.ok b, after) ↔
      ∃ a between, outcome task before = (.ok a, between) ∧
        outcome (next a) between = (.ok b, after) := by
  rw [outcome_bind]
  rcases outcome task before with ⟨e | a, between⟩
  · simp
  · constructor
    · intro h
      exact ⟨a, between, rfl, h⟩
    · rintro ⟨_, _, heq, h⟩
      cases heq
      exact h

theorem outcome_map (f : α → β) (task : ExceptT ε (StateM σ) α) (before : σ) :
    outcome (f <$> task) before =
      match outcome task before with
      | (.ok a, after) => (.ok (f a), after)
      | (.error e, after) => (.error e, after) := by
  rw [map_eq_pure_bind, outcome_bind]
  rfl

theorem ofExcept_ok (a : α) :
    (MonadExcept.ofExcept (.ok a : Except ε α) : ExceptT ε (StateM σ) α) = pure a := rfl

end AppScaffold.Host

namespace AppScaffold.Host.FileTask

variable {before after : Files} {path : String} {wrap : Failure → Report.Error}

theorem outcome_look {α : Type} (f : Files → α) (before : Files) :
    outcome (look f) before = (.ok (f before), before) := rfl

theorem outcome_change (op : Files → Except Failure Files) (wrap : Failure → Report.Error)
    (before : Files) :
    outcome (change op wrap) before =
      match op before with
      | .ok after => (.ok (), after)
      | .error f => (.error (wrap f), before) := by
  change outcome (match op before with
    | .ok after => set after
    | .error f => throw (wrap f) : FileTask Unit) before = _
  cases op before <;> rfl

theorem outcome_change_eq_ok_iff {op : Files → Except Failure Files} :
    outcome (change op wrap) before = (.ok (), after) ↔ op before = .ok after := by
  rw [outcome_change]
  cases op before <;> simp

theorem outcome_write_eq_ok_iff {contents : ByteArray} :
    outcome (write path contents wrap) before = (.ok (), after) ↔
      before.write path contents = .ok after :=
  outcome_change_eq_ok_iff

theorem outcome_createDirs (path : String) (wrap : Failure → Report.Error) (before : Files) :
    outcome (createDirs path wrap) before =
      ((before.createDirs path).1.mapError wrap, (before.createDirs path).2) := by
  rw [createDirs, outcome_bind_of_ok (outcome_get before)]
  rcases before.createDirs path with ⟨_ | _, after⟩ <;> rfl

theorem outcome_createDirs_eq_ok_iff :
    outcome (createDirs path wrap) before = (.ok (), after) ↔
      before.createDirs path = (.ok (), after) := by
  rw [outcome_createDirs]
  rcases before.createDirs path with ⟨_ | _, after⟩
  · exact ⟨nofun, nofun⟩
  · constructor <;> intro h <;> cases h <;> rfl

/-- The task changes files by nothing but writing at paths of a kind and making the directories
above such paths. -/
inductive WritesOnly (P : String → Prop) : {α : Type} → FileTask α → Prop where
  | pure {α : Type} (a : α) : WritesOnly P (pure a)
  | createDirs {path above : String} (wrap : Failure → Report.Error) :
      P path → Path.parent? path = some above → WritesOnly P (createDirs above wrap)
  | write {path : String} (contents : ByteArray) (wrap : Failure → Report.Error) :
      P path → WritesOnly P (write path contents wrap)
  | bind {α β : Type} {task : FileTask α} {next : α → FileTask β} :
      WritesOnly P task → (∀ a, WritesOnly P (next a)) → WritesOnly P (task >>= next)

end AppScaffold.Host.FileTask

/-! ## Errors of tasks -/

namespace AppScaffold.Host

variable {ε σ α β : Type}

/-- Whatever the state before, an error of the task is of a kind. -/
def FailsWith (P : ε → Prop) (task : ExceptT ε (StateM σ) α) : Prop :=
  ∀ before e after, outcome task before = (.error e, after) → P e

theorem outcome_ofExcept_error_bind (e : ε) (next : α → ExceptT ε (StateM σ) β) (before : σ) :
    outcome (MonadExcept.ofExcept (.error e : Except ε α) >>= next) before =
      (.error e, before) := by
  rw [outcome_bind]
  rfl

namespace FailsWith

variable {P Q : ε → Prop} {task : ExceptT ε (StateM σ) α}

theorem mono (h : FailsWith P task) (hPQ : ∀ e, P e → Q e) : FailsWith Q task :=
  fun before e after hrun => hPQ e (h before e after hrun)

theorem pure (P : ε → Prop) (a : α) : FailsWith P (pure a : ExceptT ε (StateM σ) α) := by
  intro _ _ _ hrun
  cases hrun

theorem throw {e : ε} (h : P e) : FailsWith P (throw e : ExceptT ε (StateM σ) α) := by
  intro _ _ _ hrun
  cases hrun
  exact h

theorem bind {next : α → ExceptT ε (StateM σ) β} (h : FailsWith P task)
    (hnext : ∀ a, FailsWith P (next a)) : FailsWith P (task >>= next) := by
  intro before e after hrun
  rw [outcome_bind] at hrun
  rcases hfirst : outcome task before with ⟨e' | a, between⟩
  · rw [hfirst] at hrun
    cases hrun
    exact h before e after hfirst
  · rw [hfirst] at hrun
    exact hnext a between e after hrun

theorem get (P : ε → Prop) : FailsWith P (MonadState.get : ExceptT ε (StateM σ) σ) := by
  intro _ _ _ hrun
  cases hrun

theorem set (P : ε → Prop) (s : σ) :
    FailsWith P (MonadStateOf.set s : ExceptT ε (StateM σ) PUnit) := by
  intro _ _ _ hrun
  cases hrun

end FailsWith

namespace FileTask

variable {P : Report.Error → Prop}

theorem failsWith_look (f : Files → α) : FailsWith P (look f) :=
  (FailsWith.get P).bind fun fs => .pure P (f fs)

theorem failsWith_change (op : Files → Except Failure Files) {wrap : Failure → Report.Error}
    (h : ∀ f, P (wrap f)) : FailsWith P (change op wrap) := by
  refine (FailsWith.get P).bind fun fs => ?_
  cases op fs with
  | ok after => exact .set P after
  | error f => exact .throw (h f)

theorem failsWith_createDirs (path : String) {wrap : Failure → Report.Error}
    (h : ∀ f, P (wrap f)) : FailsWith P (createDirs path wrap) := by
  refine (FailsWith.get P).bind fun fs => ?_
  obtain ⟨result, after⟩ := fs.createDirs path
  refine (FailsWith.set P after).bind fun _ => ?_
  cases result with
  | ok a => exact .pure P a
  | error f => exact .throw (h f)

theorem failsWith_write (path : String) (contents : ByteArray) {wrap : Failure → Report.Error}
    (h : ∀ f, P (wrap f)) : FailsWith P (write path contents wrap) :=
  failsWith_change _ h

end FileTask

/-! ## Errors of input and output -/

/-- An error in the category of input and output: a file that is not there, a permission that is
missing, or another failure of the files. -/
def IsIO (e : Report.Error) : Prop := e.code.category = "IO"

theorem isIO_toError (f : Failure) : IsIO f.toError := by
  have hsystem (e : SystemError) : e.code.category = "IO" := by
    unfold SystemError.code
    split
    · rfl
    · split <;> rfl
  cases f with
  | system e => exact hsystem e
  | _ => exact (rfl : Report.Code.ioError.category = "IO")

theorem isIO_during (what : String) (f : Failure) : IsIO (FileTask.during what f) :=
  isIO_toError f

theorem isIO_fileNotFound (path : String) : IsIO (.fileNotFound path) :=
  (rfl : Report.Code.fileNotFound.category = "IO")

end AppScaffold.Host

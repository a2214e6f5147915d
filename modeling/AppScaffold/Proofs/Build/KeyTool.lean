import AppScaffold.Proofs.Build.Writing
import AppScaffold.Proofs.Host.Success
import AppScaffold.Proofs.Number.Decimal
import AppScaffold.Proofs.Text.Split

/-!
# The key tool

What a keystore is when the key tool may be missing, may not start, may end in any way and may
leave anything at its path. Main statement: `keystore_made_or_simulated`.
-/

set_option autoImplicit false

namespace AppScaffold

open Text (IsLine)

/-! ## Messages on one line -/

theorem Text.isLine_repr (n : Nat) : IsLine (Nat.repr n) := Number.not_mem_repr rfl

theorem Text.isLine_int (n : Int) : IsLine (toString n) := by
  cases n with
  | ofNat n => exact isLine_repr n
  | negSucc n => exact IsLine.append (s := "-") (by decide) (isLine_repr (n + 1))

/-- A line feed is a byte of its own, so that none of the text has to be decoded. -/
theorem Text.isLine_of_bytes {s : String} (h : 10 ∉ s.toByteArray.data.toList) : IsLine s := by
  intro hmem
  rw [← String.utf8Encode_toList, List.utf8Encode, List.toList_data_toByteArray] at h
  exact h (List.mem_flatMap.mpr ⟨'\n', hmem, by decide⟩)

namespace Host

theorem SystemError.isLine_text (e : SystemError) : IsLine e.text := by
  have hlow : ∀ p ∈ textsLow, 10 ∉ p.2.toByteArray.data.toList := by decide +kernel
  have hhigh : ∀ p ∈ textsHigh, 10 ∉ p.2.toByteArray.data.toList := by decide +kernel
  have hmem {texts : List (Nat × String)} {s : String} (h : texts.lookup e.number = some s) :
      (e.number, s) ∈ texts := by
    obtain ⟨xs, ys, rfl, -⟩ := List.lookup_eq_some_iff.mp h
    simp
  unfold text
  cases hl : textsLow.lookup e.number with
  | some s => exact Text.isLine_of_bytes (hlow _ (hmem hl))
  | none =>
    cases hh : textsHigh.lookup e.number with
    | some s => exact Text.isLine_of_bytes (hhigh _ (hmem hh))
    | none => exact IsLine.append (by decide) (Text.isLine_repr _)

theorem Failure.isLine_message (f : Failure) : IsLine f.message := by
  cases f with
  | system e =>
    exact ((e.isLine_text.append (by decide)).append (Text.isLine_repr _)).append (by decide)
  | _ => decide

end Host

namespace Build

open Host (Files Launcher Environment Finished Failure outcome)

namespace KeyTool

/-! ## Attempts -/

/-- How it went to have a keystore made. -/
inductive Attempt where
  | missing
  | notStarted (program : String) (f : Failure)
  | ended (finished : Finished)

/-- The tool is looked for and run: how that went, and what it left behind. -/
def attempt (t : KeyTool) (launcher : Launcher) (env : Environment) (path : String)
    (password : Option String) (before : Files) : Attempt × Files :=
  match before.which? env t.program with
  | none => (.missing, before)
  | some program =>
    match launcher.run before env program
        (t.arguments path (passwordOr t.settings.password password)) with
    | (.error f, left) => (.notStarted program f, left)
    | (.ok finished, left) => (.ended finished, left)

namespace Attempt

def succeeded : Attempt → Bool
  | .ended finished => finished.success
  | _ => false

def reason (t : KeyTool) : Attempt → String
  | .missing => t.program ++ " not found"
  | .notStarted program f => (Host.startError program f).message
  | .ended finished => complaint finished

end Attempt

variable (t : KeyTool) (launcher : Launcher) (env : Environment) (path : String)
  (password : Option String) (before : Files)

theorem outcome_generate_of_attempt {tried : Attempt} {left : Files}
    (h : t.attempt launcher env path password before = (tried, left)) :
    outcome (t.generate launcher env path password) before =
      if tried.succeeded && left.isFile path then (.ok (.generated path), left)
      else outcome (simulate path (tried.reason t)) left := by
  rw [attempt] at h
  rw [outcome_generate]
  cases hfound : before.which? env t.program with
  | none =>
    rw [hfound] at h
    cases h
    rfl
  | some program =>
    rw [hfound] at h
    dsimp only at h ⊢
    rcases hrun : launcher.run before env program
      (t.arguments path (passwordOr t.settings.password password)) with ⟨_ | finished, made⟩ <;>
    · rw [hrun] at h
      cases h
      rfl

/-! ## Reasons -/

/-- What the tool is said to complain about is never empty and never more than a line. -/
theorem complaint_ne_empty_and_isLine (f : Finished) : complaint f ≠ "" ∧ IsLine (complaint f) := by
  rw [complaint]
  split
  · exact ⟨by simp, IsLine.append (by decide) (Text.isLine_int _)⟩
  · rename_i htext
    have hne : Text.trimmed f.errorText ≠ "" := by simpa using htext
    obtain ⟨line, hlast, hline⟩ := Text.exists_last_line hne
    rwa [hlast]

theorem Attempt.reason_ne_empty_and_isLine {t : KeyTool} {tried : Attempt}
    (hname : IsLine t.program)
    (hprogram : ∀ program f, tried = .notStarted program f → IsLine program) :
    tried.reason t ≠ "" ∧ IsLine (tried.reason t) := by
  cases tried with
  | missing => exact ⟨by simp [reason], hname.append (by decide)⟩
  | notStarted program f =>
    have hline := IsLine.append (s := "Failed to execute ") (by decide) (hprogram program f rfl)
    exact ⟨by simp [reason, Host.startError],
      (hline.append (by decide)).append f.isLine_message⟩
  | ended finished => exact complaint_ne_empty_and_isLine finished

theorem isLine_program_of_attempt {tried : Attempt} {left : Files}
    (hpath : ∀ program, before.which? env t.program = some program → IsLine program)
    (h : t.attempt launcher env path password before = (tried, left)) {program : String}
    {f : Failure} (htried : tried = .notStarted program f) : IsLine program := by
  rw [attempt] at h
  split at h
  · cases h
    cases htried
  · rename_i found hfound
    split at h <;> cases h <;> cases htried
    exact hpath _ hfound

/-! ## Outcomes -/

variable {path} {before} {tried : Attempt} {left : Files}

theorem outcome_of_made (htried : t.attempt launcher env path password before = (tried, left))
    (hmade : tried.succeeded = true ∧ left.isFile path = true) :
    outcome (t.generate launcher env path password) before = (.ok (.generated path), left) := by
  rw [outcome_generate_of_attempt t launcher env path password before htried]
  exact if_pos (Bool.and_eq_true_iff.mpr hmade)

theorem outcome_of_not_made (htried : t.attempt launcher env path password before = (tried, left))
    (hmade : ¬ (tried.succeeded = true ∧ left.isFile path = true)) :
    outcome (t.generate launcher env path password) before =
      outcome (simulate path (tried.reason t)) left := by
  rw [outcome_generate_of_attempt t launcher env path password before htried]
  exact if_neg fun h => hmade (Bool.and_eq_true_iff.mp h)

/-- The placeholder is written over whatever is there, or it is an error and nothing changes. -/
theorem outcome_simulate (path reason : String) (before : Files) :
    outcome (simulate path reason) before =
      match before.write path mockKeystore.toUTF8 with
      | .ok after => (.ok (.simulated path reason), after)
      | .error f => (.error (keystoreError "write" f), before) := by
  rw [simulate, Host.outcome_bind, Host.FileTask.write, Host.FileTask.outcome_change]
  cases before.write path mockKeystore.toUTF8 <;> rfl

theorem exists_placeholder {written : Files}
    (hwrite : before.write path mockKeystore.toUTF8 = .ok written)
    (hleft : left = before ∨ ∃ contents, before.write path contents = .ok left) :
    ∃ after, left.write path mockKeystore.toUTF8 = .ok after := by
  rcases hleft with rfl | ⟨contents, hpartial⟩
  · exact ⟨written, hwrite⟩
  · exact Files.exists_write_again hpartial _

/-- Whatever the tool does, a keystore is made at the path or a placeholder stands there with a
reason on one line. It is an error only if the placeholder cannot be written, and it can be if it
could be before and the tool touched nothing but the file at the path. -/
theorem keystore_made_or_simulated (hname : IsLine t.program)
    (hpath : ∀ program, before.which? env t.program = some program → IsLine program)
    (htried : t.attempt launcher env path password before = (tried, left)) :
    let made := tried.succeeded = true ∧ left.isFile path = true
    let result := outcome (t.generate launcher env path password) before
    (∀ k after, result = (.ok k, after) →
      k.path = path ∧ after.isFile path = true ∧ (k = .generated path ↔ made) ∧
      (made → after = left) ∧
      (¬ made → left.write path mockKeystore.toUTF8 = .ok after ∧
        after.read path = .ok mockKeystore.toUTF8 ∧
        k = .simulated path (tried.reason t) ∧ tried.reason t ≠ "" ∧ IsLine (tried.reason t))) ∧
    ((∃ k after, result = (.ok k, after)) ↔
      made ∨ ∃ after, left.write path mockKeystore.toUTF8 = .ok after) ∧
    (∀ e after, result = (.error e, after) → ¬ made ∧ after = left ∧
      ∃ f, left.write path mockKeystore.toUTF8 = .error f ∧ e = keystoreError "write" f) ∧
    ((∃ written, before.write path mockKeystore.toUTF8 = .ok written) →
      (left = before ∨ ∃ contents, before.write path contents = .ok left) →
        ∃ k after, result = (.ok k, after)) := by
  intro made result
  by_cases hmade : made
  · have hok : result = (.ok (.generated path), left) :=
      outcome_of_made t launcher env password htried hmade
    refine ⟨?_, ?_, ?_, ?_⟩
    · intro k after h
      cases hok.symm.trans h
      exact ⟨rfl, hmade.2, ⟨fun _ => hmade, fun _ => rfl⟩, fun _ => rfl, fun h => (h hmade).elim⟩
    · exact ⟨fun _ => Or.inl hmade, fun _ => ⟨_, left, hok⟩⟩
    · intro e after h
      cases hok.symm.trans h
    · intro _ _
      exact ⟨_, left, hok⟩
  · have hsimulated : result = outcome (simulate path (tried.reason t)) left :=
      outcome_of_not_made t launcher env password htried hmade
    have hok {after : Files} (hwrite : left.write path mockKeystore.toUTF8 = .ok after) :
        result = (.ok (.simulated path (tried.reason t)), after) := by
      rw [hsimulated, outcome_simulate, hwrite]
    have hreason : tried.reason t ≠ "" ∧ IsLine (tried.reason t) := by
      apply Attempt.reason_ne_empty_and_isLine hname
      intro program f hfailed
      exact isLine_program_of_attempt t launcher env path password before hpath htried hfailed
    refine ⟨?_, ?_, ?_, ?_⟩
    · intro k after h
      obtain ⟨hwrite, rfl⟩ := write_of_simulate (hsimulated.symm.trans h)
      have hread := Files.read_of_write hwrite
      exact ⟨rfl, Files.isFile_of_read hread, ⟨nofun, fun h => (hmade h).elim⟩,
        fun h => (hmade h).elim, fun _ => ⟨hwrite, hread, rfl, hreason⟩⟩
    · constructor
      · rintro ⟨k, after, h⟩
        exact Or.inr ⟨after, (write_of_simulate (hsimulated.symm.trans h)).1⟩
      · rintro (h | ⟨after, hwrite⟩)
        · exact (hmade h).elim
        · exact ⟨_, after, hok hwrite⟩
    · intro e after h
      rw [hsimulated, outcome_simulate] at h
      split at h
      · cases h
      · rename_i f hwrite
        cases h
        exact ⟨hmade, rfl, f, hwrite, rfl⟩
    · rintro ⟨written, hwrite⟩ hleft
      obtain ⟨after, hagain⟩ := exists_placeholder hwrite hleft
      exact ⟨_, after, hok hagain⟩

def toolFiles : Files := { root := .dir [("bin", .dir [("keytool", .file .empty true)])] }

def complaining : Finished :=
  { ending := .exited 1, errors := "keytool error:\ndisk full\n".toUTF8 }

theorem failed_tool_is_simulated :
    let t : KeyTool := { settings := {} }
    -- part of a keystore is there when the tool fails
    ∃ left, toolFiles.write "app.keystore" "part".toUTF8 = .ok left ∧
      ∃ after, outcome (t.generate (fun _ _ _ _ => (.ok complaining, left)) [("PATH", "/bin")]
          "app.keystore" none) toolFiles =
        (.ok (.simulated "app.keystore" "disk full"), after) ∧
      after.read "app.keystore" = .ok mockKeystore.toUTF8 := by
  intro t
  have hfound : toolFiles.which? [("PATH", "/bin")] t.program = some "/bin/keytool" := by
    decide +kernel
  have hreason : (Attempt.ended complaining).reason t = "disk full" := by decide +kernel
  obtain ⟨left, hpartial⟩ : ∃ left, toolFiles.write "app.keystore" "part".toUTF8 = .ok left :=
    ⟨_, rfl⟩
  have htried : t.attempt (fun _ _ _ _ => (.ok complaining, left)) [("PATH", "/bin")]
      "app.keystore" none toolFiles = (.ended complaining, left) := by
    rw [attempt, hfound]
    dsimp only
    rw [Launcher.run, if_neg (by decide +kernel)]
  have hkeystore := keystore_made_or_simulated t _ [("PATH", "/bin")] none (by decide)
    (fun program h => Option.some.inj (hfound.symm.trans h) ▸ by decide) htried
  obtain ⟨k, after, hok⟩ := hkeystore.2.2.2 ⟨_, rfl⟩ (Or.inr ⟨_, hpartial⟩)
  obtain ⟨-, hread, rfl, -⟩ := (hkeystore.1 k after hok).2.2.2.2 fun h => Bool.false_ne_true h.1
  exact ⟨left, hpartial, after, hreason ▸ hok, hread⟩

end KeyTool
end Build
end AppScaffold

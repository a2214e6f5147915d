import AppScaffold.Check.Project

/-!
# Accepted projects

Each check adds an error under one condition and warnings under none, so a project is accepted
exactly when no such condition holds of it.
-/

set_option autoImplicit false

namespace AppScaffold.Check

namespace Findings

theorem isValid_addError (f : Findings) (e : Finding) : (f.addError e).isValid = false := by
  simp [isValid, addError]

theorem isValid_required (f : Findings) (field value : String) :
    (f.required field value).isValid = (f.isValid && !Text.isBlank value) := by
  unfold required
  split <;> simp_all [isValid_addError]

theorem isValid_pattern (f : Findings) (field value : String) (p : Pattern)
    (description : String) : (f.pattern field value p description).isValid =
      (f.isValid && (value.isEmpty || p.find value)) := by
  unfold pattern
  split <;> simp_all [isValid_addError]

theorem isValid_custom (f : Findings) (field : String) (message : Option String) :
    (f.custom field message).isValid = (f.isValid && message.isNone) := by
  unfold custom
  split <;> simp [isValid_addError]

theorem isValid_warnIf (f : Findings) (field : String) (condition : Bool) (message : String) :
    (f.warnIf field condition message).isValid = f.isValid := by
  unfold warnIf
  split <;> rfl

theorem isValid_foldl {α : Type} {step : Findings → α → Findings} {ok : α → Bool}
    (h : ∀ f a, (step f a).isValid = (f.isValid && ok a)) (as : List α) (f : Findings) :
    (as.foldl step f).isValid = (f.isValid && as.all ok) := by
  induction as generalizing f with
  | nil => simp
  | cons a as ih => rw [List.foldl_cons, ih, h, List.all_cons, Bool.and_assoc]

end Findings

/-- What the checks ask of a project. An id that is empty is not held against it. -/
structure Acceptable (p : App.Project) : Prop where
  nameGiven : Text.isBlank p.name = false
  packageGiven : Text.isBlank p.package = false
  package : Pattern.reverseDomain.find p.package
  home : p.mainScreen?.isSome
  ids : ∀ s ∈ p.screens.entries, s.1.isEmpty ∨ Pattern.identifier.find s.1
  classes : ∀ s ∈ p.secondaryScreens, s.2.activityName ≠ Render.mainActivityName

theorem isValid_checkScreenId (f : Findings) (id : String) :
    (checkScreenId f id).isValid = (f.isValid && (id.isEmpty || Pattern.identifier.find id)) :=
  Findings.isValid_pattern _ _ _ _ _

theorem isValid_checkScreenName (f : Findings) (id : String) (s : App.Screen) :
    (checkScreenName f id s).isValid =
      (f.isValid && !(s.activityName == Render.mainActivityName)) := by
  rw [checkScreenName, Findings.isValid_custom, Findings.isValid_warnIf]
  split <;> simp_all

theorem isValid_checkClass (f : Findings) (c : String × List String) :
    (checkClass f c).isValid = (f.isValid && true) := by
  rw [checkClass, Findings.isValid_warnIf, Bool.and_true]

theorem isValid_checkDepth (maxDepth : Nat) (f : Findings) (id : String) (s : App.Screen) :
    (checkDepth maxDepth f id s).isValid = (f.isValid && true) := by
  rw [checkDepth, Findings.isValid_warnIf, Bool.and_true]

theorem isBlank_empty : Text.isBlank "" = true := by
  simp [Text.isBlank]

theorem isValid_project_iff (maxDepth : Nat) (p : App.Project) :
    (project maxDepth p).isValid ↔ Acceptable p := by
  have hids := Findings.isValid_foldl (fun f (s : String × App.Screen) =>
    isValid_checkScreenId f s.1)
  have hnames := Findings.isValid_foldl (fun f (s : String × App.Screen) =>
    isValid_checkScreenName f s.1 s.2)
  have hclasses := Findings.isValid_foldl isValid_checkClass
  have hdepths := Findings.isValid_foldl (fun f (s : String × App.Screen) =>
    isValid_checkDepth maxDepth f s.1 s.2)
  have hhome : (if p.mainScreen?.isNone then
      some ("A screen with id \"" ++ App.mainScreenId ++ "\" is required") else none).isNone =
      p.mainScreen?.isSome := by
    cases p.mainScreen? <;> rfl
  rw [project, hdepths, hclasses, hnames, hids, checkVersion, Findings.isValid_warnIf,
    Findings.isValid_custom, Findings.isValid_pattern, Findings.isValid_required,
    Findings.isValid_required, hhome]
  simp only [List.all_eq_true, Bool.and_eq_true, Bool.or_eq_true, Bool.not_eq_true',
    beq_eq_false_iff_ne, implies_true, and_true]
  constructor
  · rintro ⟨⟨⟨⟨⟨⟨-, hname⟩, hgiven⟩, hform⟩, hhome⟩, hids⟩, hclasses⟩
    refine ⟨hname, hgiven, hform.resolve_left ?_, hhome, hids, hclasses⟩
    intro hempty
    rw [String.isEmpty_iff.mp hempty, isBlank_empty] at hgiven
    exact Bool.false_ne_true hgiven.symm
  · rintro ⟨hname, hgiven, hform, hhome, hids, hclasses⟩
    exact ⟨⟨⟨⟨⟨⟨rfl, hname⟩, hgiven⟩, Or.inr hform⟩, hhome⟩, hids⟩, hclasses⟩

theorem accept_eq_ok_iff {maxDepth : Nat} {p : App.Project} {warnings : List String} :
    accept maxDepth p = .ok warnings ↔
      Acceptable p ∧ warnings = (project maxDepth p).warningTexts := by
  rw [← isValid_project_iff maxDepth, accept, Findings.toError?]
  cases (project maxDepth p).isValid <;> simp [eq_comm]

def notesProject : App.Project :=
  (({ name := "Notes", package := "io.notes.app" } : App.Project).withScreen App.mainScreenId
    { name := "Home" }).withScreen "settings" { name := "Settings" }

theorem acceptable_notesProject : Acceptable notesProject where
  nameGiven := by decide
  packageGiven := by decide
  package := by decide
  home := by decide
  ids := by decide
  classes := by decide

end AppScaffold.Check

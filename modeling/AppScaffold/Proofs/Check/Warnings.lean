import AppScaffold.Check.Project
import AppScaffold.Proofs.Keyed.Lookup
import AppScaffold.Proofs.Layout.Omission

/-!
# Warnings

Each check adds its own warnings behind those that are there, so the warnings about a project are
those of the single checks in a row. Main statement: `nesting_warning_iff_omission_iff`, the
warning about a screen that is too deep agrees with what its layout leaves out, unless the limit is
zero and the screen has one level.
-/

set_option autoImplicit false

namespace AppScaffold.Check

open App (Project Screen)

namespace Findings

theorem warnings_required (f : Findings) (field value : String) :
    (f.required field value).warnings = f.warnings := by
  unfold required
  split <;> rfl

theorem warnings_pattern (f : Findings) (field value : String) (p : Pattern)
    (description : String) : (f.pattern field value p description).warnings = f.warnings := by
  unfold pattern
  split <;> rfl

theorem warnings_custom (f : Findings) (field : String) (message : Option String) :
    (f.custom field message).warnings = f.warnings := by
  unfold custom
  split <;> rfl

theorem warnings_warnIf (f : Findings) (field : String) (condition : Bool) (message : String) :
    (f.warnIf field condition message).warnings =
      f.warnings ++ if condition then
        [{ field := field, message := message, code := "WARNING" }] else [] := by
  unfold warnIf
  split <;> simp [addWarning]

/-- A check that only adds to the warnings adds the same whatever was found before. -/
def Adds (check : Findings → Findings) (added : List Finding) : Prop :=
  ∀ f, (check f).warnings = f.warnings ++ added

theorem Adds.warnings_foldl {α : Type} {step : Findings → α → Findings}
    {added : α → List Finding} (h : ∀ a, Adds (step · a) (added a)) (as : List α)
    (f : Findings) : (as.foldl step f).warnings = f.warnings ++ as.flatMap added := by
  induction as generalizing f with
  | nil => simp
  | cons a as ih => rw [List.foldl_cons, ih, h a f, List.flatMap_cons, List.append_assoc]

end Findings

/-! ## The warnings of single checks -/

def warned (check : Findings → Findings) : List Finding := (check {}).warnings

open Findings (Adds)

theorem adds_checkVersion (p : Project) : Adds (checkVersion p) (warned (checkVersion p)) := by
  intro f
  simp only [warned, checkVersion, Findings.warnings_warnIf, List.nil_append]

theorem adds_checkScreenName (s : String × Screen) :
    Adds (checkScreenName · s.1 s.2) (warned (checkScreenName · s.1 s.2)) := by
  intro f
  simp only [warned, checkScreenName, Findings.warnings_custom, Findings.warnings_warnIf,
    List.nil_append]

theorem adds_checkClass (c : String × List String) :
    Adds (checkClass · c) (warned (checkClass · c)) := by
  intro f
  simp only [warned, checkClass, Findings.warnings_warnIf, List.nil_append]

theorem adds_checkDepth (maxDepth : Nat) (s : String × Screen) :
    Adds (checkDepth maxDepth · s.1 s.2) (warned (checkDepth maxDepth · s.1 s.2)) := by
  intro f
  simp only [warned, checkDepth, Findings.warnings_warnIf, List.nil_append]

theorem warnings_project (maxDepth : Nat) (p : Project) :
    (project maxDepth p).warnings =
      warned (checkVersion p) ++
        p.secondaryScreens.flatMap (fun s => warned (checkScreenName · s.1 s.2)) ++
        (classes p.secondaryScreens).entries.flatMap (fun c => warned (checkClass · c)) ++
        p.screens.entries.flatMap (fun s => warned (checkDepth maxDepth · s.1 s.2)) := by
  have hids : ∀ s : String × Screen, Adds (checkScreenId · s.1) [] := fun s f =>
    (Findings.warnings_pattern _ _ _ _ _).trans (List.append_nil _).symm
  rw [project, Adds.warnings_foldl (adds_checkDepth maxDepth),
    Adds.warnings_foldl adds_checkClass, Adds.warnings_foldl adds_checkScreenName,
    Adds.warnings_foldl hids, adds_checkVersion p, Findings.warnings_custom,
    Findings.warnings_pattern, Findings.warnings_required, Findings.warnings_required]
  simp

/-! ## Fields -/

theorem field_of_mem_warnIf {field message : String} {condition : Bool} {w : Finding}
    (h : w ∈ warned (·.warnIf field condition message)) : w.field = field := by
  rw [warned, Findings.warnings_warnIf] at h
  split at h
  · simp_all
  · simp at h

theorem field_of_mem_warned_version {p : Project} {w : Finding}
    (h : w ∈ warned (checkVersion p)) : w.field = "version" :=
  field_of_mem_warnIf h

theorem field_of_mem_warned_name {id : String} {s : Screen} {w : Finding}
    (h : w ∈ warned (checkScreenName · id s)) : w.field = "screens." ++ id ++ ".name" := by
  rw [warned, checkScreenName, Findings.warnings_custom] at h
  exact field_of_mem_warnIf h

theorem field_of_mem_warned_class {c : String × List String} {w : Finding}
    (h : w ∈ warned (checkClass · c)) : w.field = "screens" :=
  field_of_mem_warnIf h

def nestingField (id : String) : String := "screens." ++ id ++ ".components"

theorem mem_warned_depth_iff {maxDepth : Nat} {id : String} {s : Screen} {w : Finding} :
    w ∈ warned (checkDepth maxDepth · id s) ↔ maxDepth < s.depth ∧
      w = { field := nestingField id
            message := "Components nest " ++ Nat.repr s.depth ++
              " levels deep; anything past level " ++ Nat.repr maxDepth ++ " is omitted"
            code := "WARNING" } := by
  rw [warned, checkDepth, Findings.warnings_warnIf]
  split <;> simp_all [nestingField]

theorem nestingField_inj {a b : String} : nestingField a = nestingField b ↔ a = b := by
  rw [nestingField, nestingField, String.append_left_inj, String.append_right_inj]

/-- The last two characters tell the field of a nesting from the others. -/
theorem ne_nestingField {field : String} (id : String)
    (h : field.toList.reverse.take 2 ≠ ['s', 't']) : field ≠ nestingField id := by
  rintro rfl
  exact h (by simp [nestingField])

theorem mem_warnings_at_nestingField_iff {maxDepth : Nat} {p : Project} {id : String} {w : Finding}
    (hw : w.field = nestingField id) :
    w ∈ (project maxDepth p).warnings ↔
      ∃ s, p.screens.find? id = some s ∧ w ∈ warned (checkDepth maxDepth · id s) := by
  have hversion : w ∉ warned (checkVersion p) := fun hmem =>
    ne_nestingField id (by simp) ((field_of_mem_warned_version hmem).symm.trans hw)
  have hname : ∀ s : String × Screen, w ∉ warned (checkScreenName · s.1 s.2) := fun s hmem =>
    ne_nestingField id (by simp) ((field_of_mem_warned_name hmem).symm.trans hw)
  have hclass : ∀ c : String × List String, w ∉ warned (checkClass · c) := fun c hmem =>
    ne_nestingField id (by simp) ((field_of_mem_warned_class hmem).symm.trans hw)
  rw [warnings_project]
  simp only [List.mem_append, List.mem_flatMap, hversion, hname, hclass, and_false, exists_false,
    false_or]
  constructor
  · rintro ⟨⟨key, s⟩, hs, hmem⟩
    obtain rfl : key = id := by
      have hfield := (mem_warned_depth_iff.mp hmem).2 ▸ hw
      exact nestingField_inj.mp hfield
    exact ⟨s, p.screens.find?_eq_some_iff.mpr hs, hmem⟩
  · rintro ⟨s, hfind, hmem⟩
    exact ⟨(id, s), p.screens.find?_eq_some_iff.mp hfind, hmem⟩

/-! ## Nesting -/

def WarnsOfNesting (maxDepth : Nat) (p : Project) (id : String) : Prop :=
  ∃ w ∈ (project maxDepth p).warnings, w.field = nestingField id

theorem warnsOfNesting_iff {maxDepth : Nat} {p : Project} {id : String} {s : Screen}
    (h : p.screens.find? id = some s) : WarnsOfNesting maxDepth p id ↔ maxDepth < s.depth := by
  constructor
  · rintro ⟨w, hmem, hw⟩
    obtain ⟨s', hfind, hmem⟩ := (mem_warnings_at_nestingField_iff hw).mp hmem
    obtain rfl : s' = s := Option.some.inj (hfind.symm.trans h)
    exact (mem_warned_depth_iff.mp hmem).1
  · intro hdeep
    have hmem : _ ∈ warned (checkDepth maxDepth · id s) := mem_warned_depth_iff.mpr ⟨hdeep, rfl⟩
    exact ⟨_, (mem_warnings_at_nestingField_iff rfl).mpr ⟨s, h, hmem⟩, rfl⟩

/-- A screen whose layout leaves something out is warned of, and no other is, apart from screens of
one level under the limit zero: a layout always shows one level. -/
theorem nesting_warning_iff_omission_iff (maxDepth : Nat) (p : Project) (id : String) (s : Screen)
    (h : p.screens.find? id = some s) :
    (∀ w ∈ (project maxDepth p).warnings, w.field = nestingField id →
      w.message = "Components nest " ++ Nat.repr s.depth ++
        " levels deep; anything past level " ++ Nat.repr maxDepth ++ " is omitted") ∧
    (Render.Omits maxDepth p.name s → WarnsOfNesting maxDepth p id) ∧
    ((WarnsOfNesting maxDepth p id ↔ Render.Omits maxDepth p.name s) ↔
      ¬ (maxDepth = 0 ∧ s.depth = 1)) := by
  refine ⟨?_, ?_⟩
  · intro w hmem hw
    obtain ⟨s', hfind, hmem⟩ := (mem_warnings_at_nestingField_iff hw).mp hmem
    obtain rfl : s' = s := Option.some.inj (hfind.symm.trans h)
    rw [(mem_warned_depth_iff.mp hmem).2]
  · rw [warnsOfNesting_iff h, Render.omits_iff, Render.nestingLimit]
    omega

def groupScreen : Screen := { name := "Home", components := [.container {} [.text {}]] }

def groupProject : Project :=
  ({ name := "Notes", package := "io.notes.app" } : Project).withScreen App.mainScreenId groupScreen

theorem groupProject_nesting_warning :
    groupProject.screens.find? App.mainScreenId = some groupScreen ∧
      Render.Omits 1 "Notes" groupScreen ∧ WarnsOfNesting 1 groupProject App.mainScreenId := by
  have hfind : groupProject.screens.find? App.mainScreenId = some groupScreen := rfl
  have homits : Render.Omits 1 "Notes" groupScreen := (Render.omits_iff _ _ _).mpr (by decide)
  exact ⟨hfind, homits,
    (nesting_warning_iff_omission_iff 1 groupProject App.mainScreenId groupScreen hfind).2.1 homits⟩

def labelProject : Project :=
  ({ name := "Notes", package := "io.notes.app" } : Project).withScreen App.mainScreenId
    { name := "Home", components := [.text {}] }

/-- Under the limit zero the label of a project is shown, and the check says that it is not. -/
theorem not_only_omissions_warned :
    ¬ ∀ (maxDepth : Nat) (p : Project) (id : String) (s : Screen),
      p.screens.find? id = some s →
        (WarnsOfNesting maxDepth p id ↔ Render.Omits maxDepth p.name s) := by
  intro hall
  have hfind : labelProject.screens.find? App.mainScreenId =
      some { name := "Home", components := [.text {}] } := rfl
  have hwarns : WarnsOfNesting 0 labelProject App.mainScreenId :=
    (warnsOfNesting_iff hfind).mpr (by decide)
  have homits := (hall 0 labelProject App.mainScreenId _ hfind).mp hwarns
  exact absurd ((Render.omits_iff _ _ _).mp homits) (by decide)

end AppScaffold.Check

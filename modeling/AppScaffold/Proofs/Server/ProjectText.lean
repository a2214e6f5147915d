import AppScaffold.Proofs.App.Reading
import AppScaffold.Proofs.Json.Strict
import AppScaffold.Server.Generation

/-!
# One text, read as a project in two ways

A project is read from a text at once, or from the value of the text as the project of an order. An
order wants an object and sees only what the value keeps. Main statement: `project_ofText_iff`.
-/

set_option autoImplicit false

namespace AppScaffold.Json

/-- The text has the form of one value; what its numbers and escapes stand for does not matter. -/
def WellFormed (t : String) : Prop :=
  (Document.ofText t).root.skip = .ok () ∧ (Document.ofText t).trailing = none

namespace Document

theorem read_eq_ok_iff {α : Type} {d : Document} {decode : Node → Read α} {a : α} :
    d.read decode = .ok a ↔ decode d.root = .ok a ∧ d.trailing = none := by
  rw [read, bind_eq_ok_iff]
  cases d.trailing with
  | none => simp
  | some f => simp

end Document

theorem Node.readOption_value_eq_ok_iff {n : Node} {ms : List (String × Json)} :
    n.readOption Node.value = .ok (some (.object ms)) ↔ n.value = .ok (.object ms) := by
  cases n with
  | null stop => exact ⟨nofun, nofun⟩
  | _ =>
    rw [Node.readOption, map_eq_ok_iff]
    · simp
    · intro stop h
      cases h

end AppScaffold.Json

namespace AppScaffold.Server

open App (Project)
open Json (Document Node Read)

def Order.ofProjectText (t : String) : Read Order := do
  return { project := ← (Document.ofText t).read (Node.readOption Node.value) }

def TakenAs (t : String) (p : Project) : Prop :=
  ∃ o, Order.ofProjectText t = .ok o ∧ o.project? = .ok p

theorem Order.project?_eq_ok_iff {o : Order} {p : Project} :
    o.project? = .ok p ↔ ∃ ms, o.project = some (.object ms) ∧ Project.ofJson (.object ms) = .ok p := by
  unfold Order.project?
  split
  · rename_i ms hms
    simp [hms, mapError_eq_ok_iff]
  · rename_i hother
    exact ⟨nofun, fun ⟨ms, hms, _⟩ => absurd hms (hother ms)⟩

theorem takenAs_iff {t : String} {p : Project} :
    TakenAs t p ↔ ∃ ms, Json.parse t = .ok (.object ms) ∧ Project.ofJson (.object ms) = .ok p := by
  constructor
  · rintro ⟨o, ho, hp⟩
    obtain ⟨project, hread, rfl⟩ := map_eq_ok_iff.mp ho
    obtain ⟨ms, rfl, hmembers⟩ := Order.project?_eq_ok_iff.mp hp
    obtain ⟨hroot, htrailing⟩ := Document.read_eq_ok_iff.mp hread
    have hvalue := Node.readOption_value_eq_ok_iff.mp hroot
    exact ⟨ms, Document.read_eq_ok_iff.mpr ⟨hvalue, htrailing⟩, hmembers⟩
  · rintro ⟨ms, hparse, hp⟩
    obtain ⟨hvalue, htrailing⟩ := Document.read_eq_ok_iff.mp hparse
    have hroot := Node.readOption_value_eq_ok_iff.mpr hvalue
    have hread := Document.read_eq_ok_iff.mpr ⟨hroot, htrailing⟩
    exact ⟨{ project := some (.object ms) }, map_eq_ok_iff.mpr ⟨_, hread, rfl⟩,
      Order.project?_eq_ok_iff.mpr ⟨ms, rfl, hp⟩⟩

/-- A text whose value is an object is read as a project exactly when an order takes its value as
the same project, no field in it is said twice, and the screens behind which another one has the
same id can be read too. An order takes no other text. -/
theorem project_ofText_iff (t : String) (p : Project) :
    ((∃ ms, Json.parse t = .ok (.object ms)) ∧ Project.ofText t = .ok p) ↔
      TakenAs t p ∧ Project.SaidOnce (Document.ofText t).root := by
  have hagrees {ms : List (String × Json)} (h : Json.parse t = .ok (.object ms)) :
      Project.ofText t = .ok p ↔
        Project.ofJson (.object ms) = .ok p ∧ Project.SaidOnce (Document.ofText t).root := by
    obtain ⟨hvalue, htrailing⟩ := Document.read_eq_ok_iff.mp h
    rw [Project.ofText, Document.read_eq_ok_iff, and_iff_left htrailing]
    exact App.agrees_project _ (Json.strict_root t) _ hvalue p
  rw [takenAs_iff]
  constructor
  · rintro ⟨⟨ms, hparse⟩, hp⟩
    obtain ⟨hvalue, honce⟩ := (hagrees hparse).mp hp
    exact ⟨⟨ms, hparse, hvalue⟩, honce⟩
  · rintro ⟨⟨ms, hparse, hvalue⟩, honce⟩
    exact ⟨⟨ms, hparse⟩, (hagrees hparse).mpr ⟨hvalue, honce⟩⟩

def listedProject : String :=
  "[\"Demo\",\"com.example.demo\",\"1.0.0\",\x7b\"mainScreen\":\x7b\"name\":\"Home\"\x7d\x7d]"

def twiceNamedProject : String :=
  "\x7b\"name\":\"Draft\",\"name\":\"Demo\",\"package\":\"com.example.demo\"\x7d"

theorem exists_ofText_listedProject : ∃ p, Project.ofText listedProject = .ok p := by
  have hok : (Project.ofText listedProject).toOption.isSome = true := by decide +kernel
  obtain ⟨p, hp⟩ := Option.isSome_iff_exists.mp hok
  exact ⟨p, toOption_eq_some_iff.mp hp⟩

theorem not_takenAs_listedProject (p : Project) : ¬ TakenAs listedProject p := by
  rintro ⟨o, ho, hp⟩
  have hrefused : (Order.ofProjectText listedProject).toOption.all
      (fun o => o.project?.toOption.isNone) = true := by decide +kernel
  rw [toOption_eq_some_iff.mpr ho, Option.all_some, toOption_eq_some_iff.mpr hp] at hrefused
  cases hrefused

theorem exists_takenAs_twiceNamedProject : ∃ p, TakenAs twiceNamedProject p := by
  have hok : ((Order.ofProjectText twiceNamedProject).toOption.bind
      fun o => o.project?.toOption).isSome = true := by decide +kernel
  obtain ⟨p, hp⟩ := Option.isSome_iff_exists.mp hok
  obtain ⟨o, ho, hp⟩ := Option.bind_eq_some_iff.mp hp
  exact ⟨p, o, toOption_eq_some_iff.mp ho, toOption_eq_some_iff.mp hp⟩

theorem ofText_twiceNamedProject_ne (p : Project) : Project.ofText twiceNamedProject ≠ .ok p := by
  intro hp
  have hrefused : (Project.ofText twiceNamedProject).toOption.isNone = true := by decide +kernel
  rw [toOption_eq_some_iff.mpr hp] at hrefused
  cases hrefused

/-- The array form is a project only to who reads the text, two names only to who reads the value. -/
theorem not_every_text_read_alike :
    (¬ ∀ (t : String) (p : Project), Json.WellFormed t → Project.ofText t = .ok p → TakenAs t p) ∧
      ¬ ∀ (t : String) (p : Project), Json.WellFormed t → TakenAs t p → Project.ofText t = .ok p := by
  constructor
  · intro h
    obtain ⟨p, hp⟩ := exists_ofText_listedProject
    have hformed : Json.WellFormed listedProject := ⟨by decide +kernel, by decide +kernel⟩
    exact not_takenAs_listedProject p (h listedProject p hformed hp)
  · intro h
    obtain ⟨p, hp⟩ := exists_takenAs_twiceNamedProject
    have hformed : Json.WellFormed twiceNamedProject := ⟨by decide +kernel, by decide +kernel⟩
    exact ofText_twiceNamedProject_ne p (h twiceNamedProject p hformed hp)

end AppScaffold.Server

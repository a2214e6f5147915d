import AppScaffold.Proofs.Check.Acceptance
import AppScaffold.Proofs.Keyed.Lookup
import AppScaffold.Proofs.Pattern.Word

/-!
# The form of projects

What a project without errors looks like, in terms of its texts and its screens and not of the
patterns that check them. Main statement: `errors_eq_nil_iff`. The id of a screen is a word or
empty, because the check by a pattern does not look at an empty value.
-/

set_option autoImplicit false

namespace AppScaffold.Text

theorem isBlank_eq_false_iff {s : String} :
    isBlank s = false ↔ ∃ c ∈ s.toList, isSpace c = false := by
  rw [isBlank, List.all_eq_false]
  simp

theorem not_isSpace_of_isAlpha {c : Char} (h : c.isAlpha) : isSpace c = false := by
  have hcode : 65 ≤ c.toNat ∧ c.toNat ≤ 90 ∨ 97 ≤ c.toNat ∧ c.toNat ≤ 122 := by
    rcases Bool.or_eq_true_iff.mp h with hupper | hlower
    · exact Or.inl (of_decide_eq_true hupper)
    · obtain ⟨hle, hge⟩ := Bool.and_eq_true_iff.mp hlower
      exact Or.inr ⟨of_decide_eq_true hle, of_decide_eq_true hge⟩
  simp only [isSpace, Bool.or_eq_false_iff, Bool.and_eq_false_iff, decide_eq_false_iff_not,
    beq_eq_false_iff_ne]
  omega

end AppScaffold.Text

namespace AppScaffold.Check

open App (Project)
open Pattern (isWord)
open Text (splitOn)

/-- A package has a letter in it, so it need not be asked for twice. -/
theorem not_isBlank_of_reverseDomain {s : String} (h : Pattern.reverseDomain.find s) :
    Text.isBlank s = false := by
  obtain ⟨hlen, hwords⟩ := (Pattern.reverseDomain_find_iff s).mp h
  obtain ⟨piece, hpiece⟩ := List.exists_mem_of_length_pos (Nat.lt_of_lt_of_le Nat.two_pos hlen)
  have hword := hwords piece hpiece
  obtain ⟨cs, hcs, rfl⟩ := List.mem_map.mp hpiece
  rw [String.toList_ofList] at hword
  cases cs with
  | nil => exact absurd hword Bool.false_ne_true
  | cons c cs =>
    have hc : c.isAlpha := (Bool.and_eq_true_iff.mp hword).1
    exact Text.isBlank_eq_false_iff.mpr
      ⟨c, Text.mem_of_mem_splitBy hcs List.mem_cons_self, Text.not_isSpace_of_isAlpha hc⟩

theorem isWordChar_of_mem_id {id : String} (h : id.isEmpty ∨ Pattern.identifier.find id) {c : Char}
    (hc : c ∈ id.toList) : Pattern.isWordChar c := by
  rcases h with hempty | hword
  · rw [String.isEmpty_iff.mp hempty] at hc
    exact absurd hc List.not_mem_nil
  · exact Pattern.isWordChar_of_isWord ((Pattern.identifier_find_iff id).mp hword) c hc

theorem Acceptable.isWordChar_of_mem_package {p : Project} (hp : Acceptable p) {c : Char}
    (hc : c ∈ p.package.toList) : c = '.' ∨ Pattern.isWordChar c := by
  have hwords := ((Pattern.reverseDomain_find_iff p.package).mp hp.package).2
  rcases Text.sep_or_mem_splitBy (· == '.') hc with hdot | ⟨piece, hpiece, hc⟩
  · exact Or.inl (eq_of_beq hdot)
  · have hword := hwords _ (List.mem_map.mpr ⟨piece, hpiece, rfl⟩)
    rw [String.toList_ofList] at hword
    exact Or.inr (Pattern.isWordChar_of_isWord hword c hc)

/-- A name that is not blank, a package of two or more words between dots, a main screen, ids that
are words, and no other screen with the class of the main one. `word` says which ids are words. -/
structure WellFormed (word : String → Prop) (p : Project) : Prop where
  name : ∃ c ∈ p.name.toList, Text.isSpace c = false
  package : 2 ≤ (splitOn '.' p.package).length ∧
    ∀ piece ∈ splitOn '.' p.package, isWord piece.toList
  home : ∃ screen, p.screens.find? "mainScreen" = some screen
  ids : ∀ id ∈ p.screens.keys, word id
  classes : ∀ s ∈ p.secondaryScreens, s.2.activityName ≠ "MainActivity"

theorem acceptable_iff {p : Project} :
    Acceptable p ↔ WellFormed (fun id => id = "" ∨ isWord id.toList) p := by
  have hids : (∀ id ∈ p.screens.keys, id = "" ∨ isWord id.toList) ↔
      ∀ s ∈ p.screens.entries, s.1.isEmpty ∨ Pattern.identifier.find s.1 := by
    simp [Keyed.Map.keys, Keyed.Map.map, Pattern.identifier_find_iff, String.isEmpty_iff]
  constructor
  · intro h
    exact ⟨Text.isBlank_eq_false_iff.mp h.nameGiven,
      (Pattern.reverseDomain_find_iff _).mp h.package, Option.isSome_iff_exists.mp h.home,
      hids.mpr h.ids, h.classes⟩
  · intro h
    have hpackage := (Pattern.reverseDomain_find_iff _).mpr h.package
    exact ⟨Text.isBlank_eq_false_iff.mpr h.name, not_isBlank_of_reverseDomain hpackage, hpackage,
      Option.isSome_iff_exists.mpr h.home, hids.mp h.ids, h.classes⟩

theorem errors_eq_nil_iff (maxDepth : Nat) (p : Project) :
    (project maxDepth p).errors = [] ↔
      WellFormed (fun id => id = "" ∨ isWord id.toList) p := by
  rw [← acceptable_iff, ← isValid_project_iff maxDepth, Findings.isValid, List.isEmpty_iff]

def unnamedProject : Project := notesProject.withScreen "" { name := "About" }

theorem acceptable_unnamedProject : Acceptable unnamedProject where
  nameGiven := by decide
  packageGiven := by decide
  package := by decide
  home := by decide
  ids := by decide
  classes := by decide

/-- No errors do not mean that every id is a word. -/
theorem not_all_ids_words :
    ¬ ∀ (maxDepth : Nat) (p : Project),
      (project maxDepth p).errors = [] ↔ WellFormed (fun id => isWord id.toList) p := by
  intro hall
  have herrors : (project 32 unnamedProject).errors = [] :=
    List.isEmpty_iff.mp ((isValid_project_iff 32 unnamedProject).mpr acceptable_unnamedProject)
  have hword := ((hall 32 unnamedProject).mp herrors).ids "" (by decide)
  exact absurd hword (by decide)

end AppScaffold.Check

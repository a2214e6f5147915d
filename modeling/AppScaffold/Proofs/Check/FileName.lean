import Mathlib.Data.List.TakeWhile
import AppScaffold.Check.FileName
import AppScaffold.Proofs.Check.Form
import AppScaffold.Proofs.Text.Split

/-!
# Names of files

Which names the check of file names lets through, and what the cleaning of a name makes of it: a
name that the check accepts, unless two points in a row are left in it or it is too long. Cleaning
leads to a fixed form and leaves alone what has this form already; only what follows the last
separator counts.
-/

set_option autoImplicit false

namespace AppScaffold.Check

def TwoPoints (cs : List Char) : Prop := ['.', '.'] <:+: cs

instance (cs : List Char) : Decidable (TwoPoints cs) :=
  inferInstanceAs (Decidable (['.', '.'] <:+: cs))

/-! ## The check -/

theorem Findings.isValid_maxLength (f : Findings) (field value : String) (max : Nat) :
    (f.maxLength field value max).isValid = (f.isValid && value.utf8ByteSize ≤ max) := by
  unfold maxLength
  split
  · rename_i h
    simp [isValid_addError, Nat.not_le.mpr h]
  · rename_i h
    simp [Nat.le_of_not_lt h]

theorem fileNameFault?_eq_none_iff {name : String} :
    fileNameFault? name = none ↔ (∀ c ∈ name.toList, isSeparator c = false) ∧ name ≠ "." ∧
      ¬ TwoPoints name.toList ∧ '\x00' ∉ name.toList := by
  have hpoints : Text.contains name ".." = true ↔ TwoPoints name.toList := Text.contains_iff
  unfold fileNameFault?
  dsimp only
  -- The faults are looked for one after the other, and each one excludes a part of the right side.
  split
  · rename_i h
    obtain ⟨c, hc, hsep⟩ := List.any_eq_true.mp h
    simp only [reduceCtorEq, false_iff, not_and]
    exact fun hall => absurd (hall c hc) (by simp [hsep])
  rename_i hseparators
  have hseparators : ∀ c ∈ name.toList, isSeparator c = false := by simpa using hseparators
  split
  · rename_i h
    simp only [Bool.or_eq_true, beq_iff_eq, hpoints] at h
    simp only [reduceCtorEq, false_iff]
    rintro ⟨-, hne, hapart, -⟩
    exact h.elim hne hapart
  rename_i hpath
  simp only [Bool.or_eq_true, beq_iff_eq, hpoints, not_or] at hpath
  split
  · rename_i h
    simp only [reduceCtorEq, false_iff]
    exact fun hall => hall.2.2.2 (List.contains_iff_mem.mp h)
  · rename_i h
    exact iff_of_true rfl ⟨hseparators, hpath.1, hpath.2, fun hmem =>
      h (List.contains_iff_mem.mpr hmem)⟩

theorem isValid_fileName_iff {name : String} :
    (fileName name).isValid ↔ Text.isBlank name = false ∧ name.utf8ByteSize ≤ 255 ∧
      (∀ c ∈ name.toList, isSeparator c = false) ∧ name ≠ "." ∧ ¬ TwoPoints name.toList ∧
      '\x00' ∉ name.toList := by
  have hempty : ({} : Findings).isValid = true := rfl
  rw [fileName, Findings.isValid_custom, Findings.isValid_maxLength, Findings.isValid_required,
    hempty, Bool.true_and, ← fileNameFault?_eq_none_iff]
  simp only [Bool.and_eq_true, Bool.not_eq_true', decide_eq_true_eq, Option.isNone_iff_eq_none,
    and_assoc]

/-! ## Cleaning -/

def plainOr (c : Char) : Char := if isPlain c then c else '_'

theorem isPlain_plainOr (c : Char) : isPlain (plainOr c) = true := by
  unfold plainOr
  split
  · assumption
  · rfl

theorem plainOr_eq_point_iff {c : Char} : plainOr c = '.' ↔ c = '.' := by
  unfold plainOr
  split
  · rfl
  · rename_i h
    refine iff_of_false (by decide) ?_
    rintro rfl
    exact h rfl

theorem cleanName_eq (cs : List Char) :
    cleanName cs = ((baseName cs).dropWhile (· == '.')).map plainOr := by
  have hpoint : (· == '.') ∘ plainOr = (· == '.') := by
    funext c
    rw [Bool.eq_iff_iff, Function.comp_apply, beq_iff_eq, beq_iff_eq, plainOr_eq_point_iff]
  rw [← hpoint, ← List.dropWhile_map]
  rfl

theorem twoPoints_map_plainOr {cs : List Char} : TwoPoints (cs.map plainOr) ↔ TwoPoints cs := by
  constructor
  · rintro ⟨xs, zs, h⟩
    obtain ⟨front, zs', rfl, hfront, _⟩ := List.map_eq_append_iff.mp h.symm
    obtain ⟨xs', ys', rfl, _, hpoints⟩ := List.map_eq_append_iff.mp hfront
    refine ⟨xs', zs', ?_⟩
    obtain ⟨a, ys', rfl, ha, hrest⟩ := List.map_eq_cons_iff.mp hpoints
    obtain ⟨b, ys', rfl, hb, hrest⟩ := List.map_eq_cons_iff.mp hrest
    obtain rfl := List.map_eq_nil_iff.mp hrest
    rw [plainOr_eq_point_iff.mp ha, plainOr_eq_point_iff.mp hb]
  · exact fun h => h.map plainOr

theorem sanitizeFileName_toList (name : String) :
    (sanitizeFileName name).toList = cleanName name.toList ∨
      cleanName name.toList = [] ∧ sanitizeFileName name = "upload" := by
  unfold sanitizeFileName
  split
  · rename_i h
    exact Or.inr ⟨h, rfl⟩
  · exact Or.inl (String.toList_ofList ..)

theorem isPlain_of_mem_sanitizeFileName {name : String} {c : Char}
    (h : c ∈ (sanitizeFileName name).toList) : isPlain c = true := by
  rcases sanitizeFileName_toList name with heq | ⟨_, heq⟩
  · rw [heq, cleanName_eq] at h
    obtain ⟨c, _, rfl⟩ := List.mem_map.mp h
    exact isPlain_plainOr c
  · have hplain : "upload".toList.all isPlain = true := by decide
    rw [heq] at h
    exact List.all_eq_true.mp hplain c h

/-- Two points in a row are left when the last part of a name has them behind its leading ones. -/
theorem twoPoints_sanitizeFileName_iff {name : String} :
    TwoPoints (sanitizeFileName name).toList ↔
      TwoPoints ((baseName name.toList).dropWhile (· == '.')) := by
  have hclean := @twoPoints_map_plainOr ((baseName name.toList).dropWhile (· == '.'))
  rw [← hclean, ← cleanName_eq]
  rcases sanitizeFileName_toList name with heq | ⟨hnil, heq⟩
  · rw [heq]
  · rw [heq, hnil]
    decide

/-! ## Cleaned names -/

example : sanitizeFileName "in/..\"; \\.my \u00E9.apk" = "my__.apk" := by decide

end AppScaffold.Check

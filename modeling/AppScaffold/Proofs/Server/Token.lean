import AppScaffold.Proofs.Check.FileName
import AppScaffold.Proofs.Host.Path
import AppScaffold.Proofs.Number.Decimal
import AppScaffold.Server.Uploads

/-!
# Tokens

The names under which uploads are stored. Such a name is one of a file, it tells the time and the
cleaned name apart, and the check of file names takes it unless two points in a row are in it.
-/

set_option autoImplicit false

namespace AppScaffold.Server

open Check (TwoPoints isPlain isSeparator sanitizeFileName)
open Host.Path (IsName)
open Number (isDigit_of_mem_repr not_mem_repr repr_inj)
open Text (append_cons_inj)

variable {t t' : Nat} {name name' : String}

theorem toList_storedName (t : Nat) (name : String) :
    (storedName t name).toList =
      (Nat.repr t).toList ++ '-' :: (sanitizeFileName name).toList := by
  simp [storedName]

/-- Two uploads get one name when they came in the same millisecond and their own names are cleaned
to the same. -/
theorem storedName_inj :
    storedName t name = storedName t' name' ↔
      t = t' ∧ sanitizeFileName name = sanitizeFileName name' := by
  have hleft : '-' ∉ (Nat.repr t).toList := not_mem_repr rfl
  have hright : '-' ∉ (Nat.repr t').toList := not_mem_repr rfl
  rw [← String.toList_inj, toList_storedName, toList_storedName,
    append_cons_inj hleft hright, String.toList_inj, String.toList_inj, repr_inj]

theorem isPlain_of_mem_storedName {c : Char} (h : c ∈ (storedName t name).toList) :
    isPlain c = true := by
  rw [toList_storedName, List.mem_append, List.mem_cons] at h
  rcases h with hdigit | rfl | hplain
  · simp [isPlain, Char.isAlphanum, isDigit_of_mem_repr hdigit]
  · rfl
  · exact Check.isPlain_of_mem_sanitizeFileName hplain

theorem ne_of_mem_storedName {c x : Char} (h : c ∈ (storedName t name).toList)
    (hx : isPlain x = false) : c ≠ x := by
  rintro rfl
  exact Bool.false_ne_true (hx.symm.trans (isPlain_of_mem_storedName h))

theorem hyphen_mem_storedName (t : Nat) (name : String) : '-' ∈ (storedName t name).toList := by
  rw [toList_storedName]
  exact List.mem_append_right _ List.mem_cons_self

theorem isName_storedName (t : Nat) (name : String) : IsName (storedName t name) :=
  Host.Path.isName_of_mem (hyphen_mem_storedName t name) (by decide) fun h =>
    ne_of_mem_storedName h (x := '/') rfl rfl

theorem twoPoints_append {xs ys : List Char} (h : '.' ∉ xs) :
    TwoPoints (xs ++ ys) ↔ TwoPoints ys := by
  induction xs with
  | nil => rfl
  | cons c xs ih =>
    obtain ⟨hc, hxs⟩ := not_or.mp (List.mem_cons.not.mp h)
    unfold TwoPoints at ih ⊢
    rw [List.cons_append, List.infix_cons_iff, List.cons_prefix_cons, ih hxs]
    exact or_iff_right fun hpoint => hc hpoint.1

theorem twoPoints_storedName_iff :
    TwoPoints (storedName t name).toList ↔ TwoPoints (sanitizeFileName name).toList := by
  have hsplit : (storedName t name).toList =
      ((Nat.repr t).toList ++ ['-']) ++ (sanitizeFileName name).toList := by
    rw [toList_storedName, List.append_assoc, List.singleton_append]
  rw [hsplit, twoPoints_append]
  rw [List.mem_append, List.mem_singleton]
  exact not_or.mpr ⟨not_mem_repr rfl, by decide⟩

/-- The check takes a stored name unless two points in a row are in it. -/
theorem isValid_storedName_iff (hsize : (storedName t name).utf8ByteSize ≤ 255) :
    (Check.fileName (storedName t name)).isValid ↔
      ¬ TwoPoints (sanitizeFileName name).toList := by
  rw [Check.isValid_fileName_iff, ← @twoPoints_storedName_iff t name]
  constructor
  · exact fun h => h.2.2.2.2.1
  · refine fun h => ⟨?_, hsize, fun c hc => ?_, (isName_storedName t name).ne_current, h,
      fun hc => ?_⟩
    · exact Text.isBlank_eq_false_iff.mpr ⟨'-', hyphen_mem_storedName t name, rfl⟩
    · simp [isSeparator, ne_of_mem_storedName hc (x := '/') rfl,
        ne_of_mem_storedName hc (x := '\\') rfl]
    · exact ne_of_mem_storedName hc (x := '\x00') rfl rfl

end AppScaffold.Server

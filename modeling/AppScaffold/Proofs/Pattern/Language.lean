import Mathlib.Data.List.Basic
import AppScaffold.Pattern.Basic

/-!
# What patterns match

`Spans` says which stretch of a text a pattern matches, by the shape of the pattern and without
derivatives. `find_iff` is the correctness of the search by derivatives.
-/

set_option autoImplicit false

namespace AppScaffold.Pattern

/-- The pattern matches the first list where the second one follows; the flag says that the
stretch begins at the start of the text. -/
inductive Spans : Pattern → Bool → List Char → List Char → Prop where
  | empty {atStart : Bool} {zs : List Char} : Spans .empty atStart [] zs
  | start {zs : List Char} : Spans .start true [] zs
  | stop {atStart : Bool} : Spans .stop atStart [] []
  | oneOf {negated atStart : Bool} {ranges : List (Char × Char)} {c : Char} {zs : List Char} :
      (inRanges ranges c != negated) → Spans (.oneOf negated ranges) atStart [c] zs
  | seq {p q : Pattern} {atStart : Bool} {xs ys zs : List Char} :
      Spans p atStart xs (ys ++ zs) → Spans q (atStart && xs.isEmpty) ys zs →
      Spans (.seq p q) atStart (xs ++ ys) zs
  | left {p q : Pattern} {atStart : Bool} {xs zs : List Char} :
      Spans p atStart xs zs → Spans (.alt p q) atStart xs zs
  | right {p q : Pattern} {atStart : Bool} {xs zs : List Char} :
      Spans q atStart xs zs → Spans (.alt p q) atStart xs zs
  | done {p : Pattern} {atStart : Bool} {zs : List Char} : Spans (.star p) atStart [] zs
  | more {p : Pattern} {atStart : Bool} {c : Char} {xs ys zs : List Char} :
      Spans p atStart (c :: xs) (ys ++ zs) → Spans (.star p) false ys zs →
      Spans (.star p) atStart (c :: (xs ++ ys)) zs

variable {p q : Pattern} {atStart : Bool} {ws zs : List Char}

/-! ## Matches by shape -/

theorem not_spans_never : ¬ Spans .never atStart ws zs := by rintro ⟨⟩

theorem spans_empty_iff : Spans .empty atStart ws zs ↔ ws = [] := by
  constructor
  · rintro ⟨⟩
    rfl
  · rintro rfl
    exact .empty

theorem spans_start_iff : Spans .start atStart ws zs ↔ atStart ∧ ws = [] := by
  constructor
  · rintro ⟨⟩
    exact ⟨rfl, rfl⟩
  · rintro ⟨rfl, rfl⟩
    exact .start

theorem spans_stop_iff : Spans .stop atStart ws zs ↔ ws = [] ∧ zs = [] := by
  constructor
  · rintro ⟨⟩
    exact ⟨rfl, rfl⟩
  · rintro ⟨rfl, rfl⟩
    exact .stop

theorem spans_oneOf_iff {negated : Bool} {ranges : List (Char × Char)} :
    Spans (.oneOf negated ranges) atStart ws zs ↔
      ∃ c, ws = [c] ∧ (inRanges ranges c != negated) := by
  constructor
  · rintro (_ | _ | _ | h)
    exact ⟨_, rfl, h⟩
  · rintro ⟨c, rfl, h⟩
    exact .oneOf h

theorem spans_seq_iff : Spans (.seq p q) atStart ws zs ↔
    ∃ xs ys, ws = xs ++ ys ∧ Spans p atStart xs (ys ++ zs) ∧
      Spans q (atStart && xs.isEmpty) ys zs := by
  constructor
  · intro h
    cases h with
    | seq hp hq => exact ⟨_, _, rfl, hp, hq⟩
  · rintro ⟨xs, ys, rfl, hp, hq⟩
    exact .seq hp hq

theorem spans_alt_iff : Spans (.alt p q) atStart ws zs ↔
    Spans p atStart ws zs ∨ Spans q atStart ws zs := by
  constructor
  · intro h
    cases h with
    | left hp => exact Or.inl hp
    | right hq => exact Or.inr hq
  · rintro (hp | hq)
    · exact .left hp
    · exact .right hq

theorem spans_star_cons_iff {c : Char} : Spans (.star p) atStart (c :: ws) zs ↔
    ∃ xs ys, ws = xs ++ ys ∧ Spans p atStart (c :: xs) (ys ++ zs) ∧
      Spans (.star p) false ys zs := by
  constructor
  · intro h
    cases h with
    | more hp hrest => exact ⟨_, _, rfl, hp, hrest⟩
  · rintro ⟨xs, ys, rfl, hp, hrest⟩
    exact .more hp hrest

theorem spans_seqOf : Spans (seqOf p q) atStart ws zs ↔ Spans (.seq p q) atStart ws zs := by
  unfold seqOf
  split
  · refine iff_of_false not_spans_never ?_
    intro h
    obtain ⟨_, _, _, hp, _⟩ := spans_seq_iff.mp h
    exact not_spans_never hp
  · constructor
    · intro h
      refine spans_seq_iff.mpr ⟨[], ws, rfl, .empty, ?_⟩
      rwa [List.isEmpty_nil, Bool.and_true]
    · intro h
      obtain ⟨xs, ys, rfl, hxs, hys⟩ := spans_seq_iff.mp h
      obtain rfl := spans_empty_iff.mp hxs
      rwa [List.isEmpty_nil, Bool.and_true] at hys
  · exact Iff.rfl

theorem spans_altOf : Spans (altOf p q) atStart ws zs ↔ Spans (.alt p q) atStart ws zs := by
  unfold altOf
  split
  · simp [spans_alt_iff, not_spans_never]
  · simp [spans_alt_iff, not_spans_never]
  · exact Iff.rfl

/-! ## Correctness of the search -/

theorem nullable_iff (p : Pattern) (atStart : Bool) (zs : List Char) :
    p.nullable atStart zs.isEmpty ↔ Spans p atStart [] zs := by
  induction p generalizing zs with
  | never => exact iff_of_false Bool.false_ne_true not_spans_never
  | empty => exact iff_of_true rfl .empty
  | start => simp [nullable, spans_start_iff]
  | stop => simp [nullable, spans_stop_iff]
  | oneOf negated ranges => simp [nullable, spans_oneOf_iff]
  | seq a b iha ihb =>
    rw [nullable, Bool.and_eq_true, iha, ihb, spans_seq_iff]
    constructor
    · rintro ⟨ha, hb⟩
      refine ⟨[], [], rfl, ha, ?_⟩
      rwa [List.isEmpty_nil, Bool.and_true]
    · rintro ⟨xs, ys, heq, ha, hb⟩
      obtain ⟨rfl, rfl⟩ := List.append_eq_nil_iff.mp heq.symm
      rw [List.isEmpty_nil, Bool.and_true] at hb
      exact ⟨ha, hb⟩
  | alt a b iha ihb => rw [nullable, Bool.or_eq_true, iha, ihb, spans_alt_iff]
  | star a => exact iff_of_true rfl .done

theorem nullable_of_more (p : Pattern) (atStart : Bool) (c : Char) (zs : List Char) :
    p.nullable atStart false ↔ Spans p atStart [] (c :: zs) :=
  nullable_iff p atStart (c :: zs)

/-- A match of a sequence that is not empty begins in the first part, or in the second one behind
an empty match of the first. -/
theorem spans_seq_cons_iff {c : Char} : Spans (.seq p q) atStart (c :: ws) zs ↔
    (∃ xs ys, ws = xs ++ ys ∧ Spans p atStart (c :: xs) (ys ++ zs) ∧ Spans q false ys zs) ∨
      Spans p atStart [] (c :: (ws ++ zs)) ∧ Spans q atStart (c :: ws) zs := by
  rw [spans_seq_iff]
  constructor
  · rintro ⟨xs, ys, heq, hp, hq⟩
    cases xs with
    | nil =>
      obtain rfl : c :: ws = ys := heq
      rw [List.isEmpty_nil, Bool.and_true] at hq
      exact Or.inr ⟨hp, hq⟩
    | cons x xs =>
      obtain ⟨rfl, rfl⟩ := List.cons.inj heq
      rw [List.isEmpty_cons, Bool.and_false] at hq
      exact Or.inl ⟨xs, ys, rfl, hp, hq⟩
  · rintro (⟨xs, ys, rfl, hp, hq⟩ | ⟨hp, hq⟩)
    · refine ⟨c :: xs, ys, rfl, hp, ?_⟩
      rwa [List.isEmpty_cons, Bool.and_false]
    · refine ⟨[], c :: ws, rfl, hp, ?_⟩
      rwa [List.isEmpty_nil, Bool.and_true]

theorem spans_derive (p : Pattern) (atStart : Bool) (c : Char) (ws zs : List Char) :
    Spans (p.derive atStart c) false ws zs ↔ Spans p atStart (c :: ws) zs := by
  induction p generalizing ws zs with
  | never => exact iff_of_false not_spans_never not_spans_never
  | empty => exact iff_of_false not_spans_never (by simp [spans_empty_iff])
  | start => exact iff_of_false not_spans_never (by simp [spans_start_iff])
  | stop => exact iff_of_false not_spans_never (by simp [spans_stop_iff])
  | oneOf negated ranges =>
    rw [spans_oneOf_iff, derive]
    split
    · rename_i hin
      rw [spans_empty_iff]
      constructor
      · rintro rfl
        exact ⟨c, rfl, hin⟩
      · rintro ⟨d, heq, _⟩
        exact (List.cons.inj heq).2
    · rename_i hout
      refine iff_of_false not_spans_never ?_
      rintro ⟨d, heq, hin⟩
      exact hout ((List.cons.inj heq).1 ▸ hin)
  | seq a b iha ihb =>
    have hfirst : Spans (seqOf (a.derive atStart c) b) false ws zs ↔
        ∃ xs ys, ws = xs ++ ys ∧ Spans a atStart (c :: xs) (ys ++ zs) ∧ Spans b false ys zs := by
      rw [spans_seqOf, spans_seq_iff]
      simp only [Bool.false_and]
      exact exists_congr fun xs => exists_congr fun ys => and_congr_right fun _ =>
        and_congr_left fun _ => iha xs (ys ++ zs)
    -- The character is taken by the first part, or by the second one if the first can match
    -- nothing.
    rw [derive, spans_seq_cons_iff, ← nullable_of_more a atStart c (ws ++ zs)]
    split
    · rename_i hnull
      rw [spans_altOf, spans_alt_iff, hfirst, ihb ws zs]
      simp [hnull]
    · rename_i hnull
      rw [hfirst]
      simp [hnull]
  | alt a b iha ihb =>
    rw [derive, spans_altOf, spans_alt_iff, spans_alt_iff, iha ws zs, ihb ws zs]
  | star a iha =>
    rw [derive, spans_seqOf, spans_seq_iff, spans_star_cons_iff]
    simp only [Bool.false_and]
    exact exists_congr fun xs => exists_congr fun ys => and_congr_right fun _ =>
      and_congr_left fun _ => iha xs (ys ++ zs)

theorem matchesFrom_nil (p : Pattern) (atStart : Bool) :
    p.matchesFrom atStart [] = p.nullable atStart true := by
  cases p <;> rfl

theorem matchesFrom_cons (p : Pattern) (atStart : Bool) (c : Char) (cs : List Char) :
    p.matchesFrom atStart (c :: cs) =
      (p.nullable atStart false || (p.derive atStart c).matchesFrom false cs) := by
  have hnever : matchesFrom false .never cs = false := by
    rw [matchesFrom.eq_def]
  cases p <;> first | rfl | exact hnever.symm

theorem matchesFrom_iff (p : Pattern) (atStart : Bool) (cs : List Char) :
    p.matchesFrom atStart cs ↔ ∃ xs zs, cs = xs ++ zs ∧ Spans p atStart xs zs := by
  induction cs generalizing p atStart with
  | nil =>
    rw [matchesFrom_nil]
    constructor
    · intro h
      exact ⟨[], [], rfl, (nullable_iff p atStart []).mp h⟩
    · rintro ⟨xs, zs, heq, hspans⟩
      obtain ⟨rfl, rfl⟩ := List.append_eq_nil_iff.mp heq.symm
      exact (nullable_iff p atStart []).mpr hspans
  | cons c cs ih =>
    rw [matchesFrom_cons, Bool.or_eq_true, nullable_of_more p atStart c cs, ih]
    constructor
    · rintro (h | ⟨xs, zs, rfl, h⟩)
      · exact ⟨[], c :: cs, rfl, h⟩
      · exact ⟨c :: xs, zs, rfl, (spans_derive p atStart c xs zs).mp h⟩
    · rintro ⟨xs, zs, heq, h⟩
      cases xs with
      | nil => exact Or.inl ((heq : c :: cs = zs) ▸ h)
      | cons x xs =>
        obtain ⟨rfl, rfl⟩ := List.cons.inj heq
        exact Or.inr ⟨xs, zs, rfl, (spans_derive p atStart c xs zs).mpr h⟩

theorem spans_of_matchesFrom {cs : List Char} (h : p.matchesFrom atStart cs) :
    ∃ us xs zs, cs = us ++ (xs ++ zs) ∧ Spans p (atStart && us.isEmpty) xs zs := by
  obtain ⟨xs, zs, heq, hspans⟩ := (matchesFrom_iff p atStart cs).mp h
  refine ⟨[], xs, zs, heq, ?_⟩
  rwa [List.isEmpty_nil, Bool.and_true]

theorem findFrom_iff (p : Pattern) (atStart : Bool) (cs : List Char) :
    p.findFrom atStart cs ↔
      ∃ us xs zs, cs = us ++ (xs ++ zs) ∧ Spans p (atStart && us.isEmpty) xs zs := by
  induction cs generalizing atStart with
  | nil =>
    refine ⟨spans_of_matchesFrom, ?_⟩
    rintro ⟨us, xs, zs, heq, hspans⟩
    obtain ⟨rfl, hrest⟩ := List.append_eq_nil_iff.mp heq.symm
    rw [List.isEmpty_nil, Bool.and_true] at hspans
    exact (matchesFrom_iff p atStart []).mpr ⟨xs, zs, hrest.symm, hspans⟩
  | cons c cs ih =>
    rw [findFrom, Bool.or_eq_true, ih]
    constructor
    · rintro (h | ⟨us, xs, zs, rfl, hspans⟩)
      · exact spans_of_matchesFrom h
      · refine ⟨c :: us, xs, zs, rfl, ?_⟩
        rwa [List.isEmpty_cons, Bool.and_false]
    · rintro ⟨us, xs, zs, heq, hspans⟩
      -- What is passed over is empty, or begins with the character that is left out here.
      cases us with
      | nil =>
        rw [List.isEmpty_nil, Bool.and_true] at hspans
        exact Or.inl ((matchesFrom_iff p atStart _).mpr ⟨xs, zs, heq, hspans⟩)
      | cons u us =>
        obtain ⟨rfl, rfl⟩ := List.cons.inj heq
        rw [List.isEmpty_cons, Bool.and_false] at hspans
        exact Or.inr ⟨us, xs, zs, rfl, hspans⟩

theorem find_iff (p : Pattern) (s : String) :
    p.find s ↔ ∃ us xs zs, s.toList = us ++ (xs ++ zs) ∧ Spans p us.isEmpty xs zs := by
  rw [find, findFrom_iff]
  simp only [Bool.true_and]

theorem find_whole_iff (p : Pattern) (s : String) :
    (whole p).find s ↔ Spans p true s.toList [] := by
  rw [find_iff]
  constructor
  · rintro ⟨us, xs, zs, heq, hspans⟩
    obtain ⟨as, bs, rfl, hstart, hrest⟩ := spans_seq_iff.mp hspans
    obtain ⟨hus, rfl⟩ := spans_start_iff.mp hstart
    obtain ⟨cs, ds, rfl, hp, hstop⟩ := spans_seq_iff.mp hrest
    obtain ⟨rfl, rfl⟩ := spans_stop_iff.mp hstop
    obtain rfl := List.isEmpty_iff.mp hus
    simpa [heq] using hp
  · intro h
    refine ⟨[], s.toList, [], by simp, spans_seq_iff.mpr ⟨[], s.toList, rfl, .start, ?_⟩⟩
    exact spans_seq_iff.mpr ⟨s.toList, [], by simp, h, .stop⟩

end AppScaffold.Pattern

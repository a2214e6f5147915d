import Mathlib.Data.List.Infix
import AppScaffold.Text.Split

/-!
# Occurrences of a part in a text

At how many places of a text a part stands. A part without line breaks stands in one line, so the
number for a text is the sum of those for its lines. A text is cut at the first place where a part
begins (`cutAt?_eq_some_iff`), and of some texts it is known that the part does not begin in them.
-/

set_option autoImplicit false

namespace AppScaffold.Text

/-! ## The number of places -/

section Occurrences

def occurrences (part cs : List Char) : Nat := cs.tails.countP fun t => part.isPrefixOf t

variable {part : List Char}

theorem occurrences_nil (hpart : part ≠ []) : occurrences part [] = 0 := by
  simp [occurrences, hpart]

theorem occurrences_cons (part : List Char) (c : Char) (cs : List Char) :
    occurrences part (c :: cs) =
      occurrences part cs + if part <+: c :: cs then 1 else 0 := by
  simp [occurrences, List.countP_cons]

theorem occurrences_cons_of_ne {p c : Char} (ps cs : List Char) (h : c ≠ p) :
    occurrences (p :: ps) (c :: cs) = occurrences (p :: ps) cs := by
  have hnot : ¬ p :: ps <+: c :: cs := fun hpre => h (List.cons_prefix_cons.mp hpre).1.symm
  rw [occurrences_cons, if_neg hnot, Nat.add_zero]

/-- A stretch without the first character of the part holds no place where the part begins. -/
theorem occurrences_append_of_not_mem {p : Char} (ps : List Char) {xs : List Char} (h : p ∉ xs)
    (ys : List Char) : occurrences (p :: ps) (xs ++ ys) = occurrences (p :: ps) ys := by
  induction xs with
  | nil => rfl
  | cons c xs ih =>
    obtain ⟨hc, hxs⟩ := not_or.mp (List.mem_cons.not.mp h)
    rw [List.cons_append, occurrences_cons_of_ne _ _ (Ne.symm hc), ih hxs]

theorem occurrences_of_not_mem {p : Char} (ps : List Char) {cs : List Char} (h : p ∉ cs) :
    occurrences (p :: ps) cs = 0 := by
  have hsum := occurrences_append_of_not_mem ps h []
  rwa [List.append_nil, occurrences_nil (List.cons_ne_nil p ps)] at hsum

theorem occurrences_self_append {p : Char} {ps ys : List Char} (hps : p ∉ ps) (hys : p ∉ ys) :
    occurrences (p :: ps) (p :: ps ++ ys) = 1 := by
  have hpre : p :: ps <+: p :: (ps ++ ys) := List.prefix_append (p :: ps) ys
  rw [List.cons_append, occurrences_cons, if_pos hpre, occurrences_append_of_not_mem ps hps,
    occurrences_of_not_mem ps hys]

theorem prefix_append_line {xs ys : List Char} (hline : '\n' ∉ part) :
    part <+: xs ++ '\n' :: ys ↔ part <+: xs := by
  refine ⟨fun h => ?_, fun h => h.trans (List.prefix_append xs _)⟩
  rcases List.prefix_or_prefix_of_prefix h (List.prefix_append xs ('\n' :: ys)) with hpre | hpre
  · exact hpre
  · obtain ⟨zs, rfl⟩ := hpre
    cases zs with
    | nil => simp
    | cons z zs =>
      have hz := (List.cons_prefix_cons.mp ((List.prefix_append_right_inj xs).mp h)).1
      exact absurd (hz ▸ List.mem_append_right xs List.mem_cons_self) hline

theorem occurrences_append_line (hline : '\n' ∉ part) (hpart : part ≠ []) (xs ys : List Char) :
    occurrences part (xs ++ '\n' :: ys) =
      occurrences part (xs ++ ['\n']) + occurrences part ys := by
  induction xs with
  | nil =>
    have hnot (zs : List Char) : ¬ part <+: '\n' :: zs := fun h =>
      hpart (List.prefix_nil.mp ((@prefix_append_line part [] zs hline).mp h))
    simp [occurrences_cons, hnot, occurrences_nil hpart]
  | cons c xs ih =>
    have hpre : part <+: c :: (xs ++ '\n' :: ys) ↔ part <+: c :: (xs ++ ['\n']) := by
      rw [← List.cons_append, ← List.cons_append, prefix_append_line hline,
        prefix_append_line hline]
    simp only [List.cons_append, occurrences_cons, ih, hpre]
    omega

def WholeLines (cs : List Char) : Prop := cs = [] ∨ ∃ xs, cs = xs ++ ['\n']

theorem WholeLines.append {xs ys : List Char} (hx : WholeLines xs) (hy : WholeLines ys) :
    WholeLines (xs ++ ys) := by
  rcases hy with rfl | ⟨zs, rfl⟩
  · rwa [List.append_nil]
  · exact Or.inr ⟨xs ++ zs, by simp⟩

theorem occurrences_append (hline : '\n' ∉ part) (hpart : part ≠ []) {xs : List Char}
    (hx : WholeLines xs) (ys : List Char) :
    occurrences part (xs ++ ys) = occurrences part xs + occurrences part ys := by
  rcases hx with rfl | ⟨zs, rfl⟩
  · simp [occurrences_nil hpart]
  · rw [List.append_assoc]
    exact occurrences_append_line hline hpart zs ys

end Occurrences

/-! ## The first place -/

section First

variable {α : Type}

/-- The part begins nowhere in the first of two texts that follow each other. -/
def NoneBegins (part : List α) : List α → List α → Prop
  | [], _ => True
  | x :: xs, ys => ¬ part <+: x :: (xs ++ ys) ∧ NoneBegins part xs ys

variable {part xs ys zs : List α}

theorem noneBegins_append :
    NoneBegins part (xs ++ ys) zs ↔ NoneBegins part xs (ys ++ zs) ∧ NoneBegins part ys zs := by
  induction xs with
  | nil => simp [NoneBegins]
  | cons x xs ih => simp [NoneBegins, ih, and_assoc]

theorem noneBegins_of_not_mem {p : α} {ps : List α} (h : p ∉ xs) : NoneBegins (p :: ps) xs ys := by
  induction xs with
  | nil => trivial
  | cons x xs ih =>
    obtain ⟨hx, hxs⟩ := not_or.mp (List.mem_cons.not.mp h)
    exact ⟨fun hpre => hx (List.cons_prefix_cons.mp hpre).1, ih hxs⟩

/-- The first character of a kind tells a text from the part. -/
theorem noneBegins_of_find? {q : α → Bool} {a : α} (hpart : part.find? q = some a)
    (hxs : ∀ x ∈ xs, q x = false) (hys : ys.find? q ≠ some a) : NoneBegins part xs ys := by
  induction xs with
  | nil => trivial
  | cons x xs ih =>
    obtain ⟨hx, hrest⟩ := List.forall_mem_cons.mp hxs
    refine ⟨fun hpre => hys ?_, ih hrest⟩
    have hfind := hpre.find?_eq_some hpart
    have hskip : xs.find? q = none := List.find?_eq_none.mpr (by simpa using hrest)
    rwa [List.find?_cons_of_neg (by simp [hx]), List.find?_append, hskip, Option.none_or] at hfind

/-- A part of two characters stands in a text or is begun by its last one. -/
theorem noneBegins_pair_iff {a b : α} (hab : a ≠ b) :
    NoneBegins [a, b] xs (a :: ys) ↔ xs.IsChain fun x y => ¬ (x = a ∧ y = b) := by
  induction xs with
  | nil => simp [NoneBegins]
  | cons x xs ih =>
    rw [NoneBegins, ih]
    cases xs with
    | nil => simp [List.cons_prefix_cons, hab.symm]
    | cons y xs =>
      rw [List.isChain_cons_cons, List.cons_append, List.cons_prefix_cons, List.cons_prefix_cons]
      simp [eq_comm]

section Cut

variable [BEq α] [LawfulBEq α]

theorem dropLiteral?_eq_some_iff : dropLiteral? part zs = some ys ↔ zs = part ++ ys := by
  induction part generalizing zs with
  | nil => simp [dropLiteral?]
  | cons p part ih =>
    cases zs with
    | nil => simp [dropLiteral?]
    | cons c zs =>
      rw [dropLiteral?]
      by_cases h : p = c
      · simp [h, ih]
      · simp [h, Ne.symm h]

theorem dropLiteral?_eq_none_iff : dropLiteral? part zs = none ↔ ¬ part <+: zs := by
  rw [Option.eq_none_iff_forall_ne_some]
  constructor
  · rintro h ⟨ys, rfl⟩
    exact h ys (dropLiteral?_eq_some_iff.mpr rfl)
  · intro h ys hys
    exact h ⟨ys, (dropLiteral?_eq_some_iff.mp hys).symm⟩

theorem cutAt?_eq_some_iff (hpart : part ≠ []) :
    cutAt? part zs = some (xs, ys) ↔ zs = xs ++ (part ++ ys) ∧ NoneBegins part xs (part ++ ys) := by
  induction zs generalizing xs with
  | nil => simp [cutAt?, dropLiteral?_eq_none_iff.mpr, hpart]
  | cons c zs ih =>
    rw [cutAt?]
    -- If the part begins here nothing stands before it, and if not the first character does.
    cases hdrop : dropLiteral? part (c :: zs) with
    | some rest =>
      have hfirst := dropLiteral?_eq_some_iff.mp hdrop
      cases xs with
      | nil => simp [NoneBegins, hfirst]
      | cons x xs =>
        refine iff_of_false (by simp) ?_
        rintro ⟨heq, hnot, _⟩
        exact hnot ⟨rest, by rw [← hfirst, heq, List.cons_append]⟩
    | none =>
      have hnot := dropLiteral?_eq_none_iff.mp hdrop
      cases xs with
      | nil =>
        refine iff_of_false (by simp) ?_
        rintro ⟨heq, _⟩
        exact hnot ⟨ys, by rw [heq, List.nil_append]⟩
      | cons x xs =>
        simp only [Option.map_eq_some_iff, Prod.exists, Prod.mk.injEq, List.cons.injEq,
          List.cons_append, NoneBegins]
        constructor
        · rintro ⟨_, _, hcut, ⟨rfl, rfl⟩, rfl⟩
          obtain ⟨rfl, hnone⟩ := ih.mp hcut
          exact ⟨⟨rfl, rfl⟩, hnot, hnone⟩
        · rintro ⟨⟨rfl, hrest⟩, _, hnone⟩
          exact ⟨xs, ys, ih.mpr ⟨hrest, hnone⟩, ⟨rfl, rfl⟩, rfl⟩

end Cut

end First

end AppScaffold.Text

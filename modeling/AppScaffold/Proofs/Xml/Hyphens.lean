import Mathlib.Data.List.Chain
import Mathlib.Data.List.Infix
import AppScaffold.Xml.Escape

/-!
# Hyphens in comments

Parting the pairs of hyphens from left to right. It leaves a text without such pairs as it is, and
its result never begins with two hyphens; a run of three keeps a pair further on, and nothing else
does.
-/

set_option autoImplicit false

namespace AppScaffold.Xml

def HyphensApart (cs : List Char) : Prop := cs.IsChain fun a b => a = '-' → b ≠ '-'

theorem hyphensApart_iff (cs : List Char) : HyphensApart cs ↔ ¬ ['-', '-'] <:+: cs := by
  unfold HyphensApart
  rw [List.isChain_iff_forall_rel_of_append_cons_cons]
  constructor
  · rintro h ⟨xs, ys, heq⟩
    exact @h '-' '-' xs ys (by simp [← heq]) rfl rfl
  · rintro h a b xs ys heq rfl rfl
    exact h ⟨xs, ys, by simp [heq]⟩

theorem hyphensApart_append {xs ys : List Char} (hx : '-' ∉ xs) (hy : HyphensApart ys) :
    HyphensApart (xs ++ ys) := by
  induction xs with
  | nil => exact hy
  | cons c xs ih =>
    obtain ⟨hc, hxs⟩ := not_or.mp (List.mem_cons.not.mp hx)
    exact List.isChain_cons.mpr ⟨fun _ _ heq => absurd heq.symm hc, ih hxs⟩

theorem hyphensApart_of_not_mem {cs : List Char} (h : '-' ∉ cs) : HyphensApart cs := by
  simpa using hyphensApart_append h List.IsChain.nil

theorem partHyphens_of_hyphensApart {cs : List Char} (h : HyphensApart cs) :
    partHyphens cs = cs := by
  induction cs with
  | nil => rfl
  | cons c cs ih =>
    have hrest := ih (List.IsChain.tail h)
    rw [partHyphens.eq_def]
    split
    · rename_i heq
      obtain ⟨rfl, rfl⟩ := List.cons.inj heq
      exact absurd rfl ((List.isChain_cons_cons.mp h).1 rfl)
    · rename_i heq
      obtain ⟨rfl, rfl⟩ := List.cons.inj heq
      rw [hrest]
    · simp_all

theorem partHyphens_append {xs : List Char} (h : '-' ∉ xs) (ys : List Char) :
    partHyphens (xs ++ ys) = xs ++ partHyphens ys := by
  induction xs with
  | nil => rfl
  | cons c xs ih =>
    obtain ⟨hc, hxs⟩ := not_or.mp (List.mem_cons.not.mp h)
    rw [List.cons_append, partHyphens, ih hxs]
    · rfl
    · exact fun _ heq => absurd heq.symm hc

theorem head?_partHyphens (cs : List Char) : (partHyphens cs).head? = cs.head? := by
  fun_cases partHyphens cs <;> rfl

theorem not_pair_prefix_partHyphens (ps cs ys : List Char) :
    ¬ '-' :: '-' :: ps <+: partHyphens cs ++ ' ' :: ys := by
  fun_cases partHyphens cs with
  | case1 cs => simp [List.cons_prefix_cons]
  | case2 c cs hpair =>
    intro h
    obtain ⟨rfl, hrest⟩ := List.cons_prefix_cons.mp h
    have hhead := head?_partHyphens cs
    cases cs with
    | nil => simp [partHyphens, List.cons_prefix_cons] at hrest
    | cons d cs =>
      obtain ⟨ds, hds⟩ : ∃ ds, partHyphens (d :: cs) = d :: ds := by
        cases hpart : partHyphens (d :: cs) with
        | nil => simp [hpart] at hhead
        | cons e ds => exact ⟨ds, by simpa [hpart] using hhead⟩
      rw [hds] at hrest
      exact hpair cs rfl ((List.cons_prefix_cons.mp hrest).1 ▸ rfl)
  | case3 => simp [List.cons_prefix_cons]

theorem singleton_prefix_iff {a : Char} {cs : List Char} : [a] <+: cs ↔ cs.head? = some a := by
  cases cs <;> simp [List.cons_prefix_cons, eq_comm]

theorem hyphen_prefix_partHyphens_iff (cs : List Char) :
    ['-'] <+: partHyphens cs ↔ ['-'] <+: cs := by
  rw [singleton_prefix_iff, singleton_prefix_iff, head?_partHyphens]

/-- Only a run of three hyphens leaves a pair: the second is behind a blank, and the third stands
next to it. -/
theorem pair_infix_partHyphens_iff (cs : List Char) :
    ['-', '-'] <:+: partHyphens cs ↔ ['-', '-', '-'] <:+: cs := by
  fun_induction partHyphens cs with
  | case1 cs ih =>
    have hpair : ['-', '-'] <+: cs → ['-'] <+: cs := (List.prefix_append ['-'] ['-']).trans
    have hparted : ['-', '-'] <:+: '-' :: ' ' :: '-' :: partHyphens cs ↔
        ['-'] <+: cs ∨ ['-', '-', '-'] <:+: cs := by
      simp [List.infix_cons_iff, List.cons_prefix_cons, ih, hyphen_prefix_partHyphens_iff]
    rw [hparted, List.infix_cons_iff, List.infix_cons_iff, List.cons_prefix_cons,
      List.cons_prefix_cons, List.cons_prefix_cons, ← or_assoc]
    simp [or_iff_left_of_imp hpair]
  | case2 c cs hpair ih =>
    have hfirst : c = '-' → ¬ ['-'] <+: cs := by
      rintro hc ⟨ds, hds⟩
      exact hpair ds hc hds.symm
    have hpart : ¬ ['-', '-'] <+: c :: partHyphens cs := by
      rw [List.cons_prefix_cons, hyphen_prefix_partHyphens_iff]
      exact fun ⟨hc, h⟩ => hfirst hc.symm h
    have hrun : ¬ ['-', '-', '-'] <+: c :: cs := by
      rw [List.cons_prefix_cons]
      exact fun ⟨hc, h⟩ => hfirst hc.symm ((List.prefix_append ['-'] ['-']).trans h)
    rw [List.infix_cons_iff, List.infix_cons_iff, ih, or_iff_right hpart, or_iff_right hrun]
  | case3 => simp

theorem hyphensApart_partHyphens_iff (cs : List Char) :
    HyphensApart (partHyphens cs) ↔ ¬ ['-', '-', '-'] <:+: cs := by
  rw [hyphensApart_iff, pair_infix_partHyphens_iff]

theorem HyphensApart.left {xs ys : List Char} (h : HyphensApart (xs ++ ys)) : HyphensApart xs :=
  List.IsChain.left_of_append h

theorem HyphensApart.right {xs ys : List Char} (h : HyphensApart (xs ++ ys)) : HyphensApart ys :=
  List.IsChain.right_of_append h

theorem HyphensApart.concat {cs : List Char} {c : Char} (h : HyphensApart cs) (hc : c ≠ '-') :
    HyphensApart (cs ++ [c] ++ ['-']) := by
  rw [List.append_assoc]
  refine List.isChain_append.mpr ⟨h, by simp [hc], ?_⟩
  intro _ _ next hnext _
  obtain rfl : c = next := Option.some.inj hnext
  exact hc

end AppScaffold.Xml

import Mathlib.Data.List.DropRight
import Mathlib.Data.List.Infix
import AppScaffold.Text.Space
import AppScaffold.Text.Split

/-!
# The pieces of a text

Cutting at separators: a text without any is one piece, and a separator parts the pieces of what
is before it from those of what is behind it. The last line of a text that was trimmed is there
unless nothing is left of the text, it is not empty, and it holds no line feed.
-/

set_option autoImplicit false

namespace AppScaffold.Text

variable {sep : Char → Bool}

theorem splitBy_cons_of_sep {c : Char} (hc : sep c) (cs : List Char) :
    splitBy sep (c :: cs) = [] :: splitBy sep cs := by
  rw [splitBy, if_pos hc]

theorem splitBy_ne_nil (sep : Char → Bool) (cs : List Char) : splitBy sep cs ≠ [] := by
  fun_cases splitBy sep cs <;> simp_all

theorem exists_splitBy_cons {c : Char} (hc : sep c = false) (cs : List Char) :
    ∃ piece rest, splitBy sep cs = piece :: rest ∧
      splitBy sep (c :: cs) = (c :: piece) :: rest := by
  obtain ⟨piece, rest, heq⟩ := List.exists_cons_of_ne_nil (splitBy_ne_nil sep cs)
  refine ⟨piece, rest, heq, ?_⟩
  simp [splitBy, hc, heq]

theorem splitBy_append_cons {c : Char} (hc : sep c) (xs ys : List Char) :
    splitBy sep (xs ++ c :: ys) = splitBy sep xs ++ splitBy sep ys := by
  induction xs with
  | nil => exact splitBy_cons_of_sep hc ys
  | cons x xs ih =>
    cases hx : sep x with
    | true =>
      rw [List.cons_append, splitBy_cons_of_sep hx, splitBy_cons_of_sep hx, ih, List.cons_append]
    | false =>
      obtain ⟨piece, rest, heq, hcons⟩ := exists_splitBy_cons hx xs
      obtain ⟨piece', rest', heq', hcons'⟩ := exists_splitBy_cons hx (xs ++ c :: ys)
      rw [ih, heq, List.cons_append] at heq'
      obtain ⟨rfl, rfl⟩ := List.cons.inj heq'
      rw [List.cons_append, hcons, hcons', List.cons_append]

theorem splitBy_of_forall {cs : List Char} (h : ∀ c ∈ cs, sep c = false) :
    splitBy sep cs = [cs] := by
  induction cs with
  | nil => rfl
  | cons c cs ih =>
    obtain ⟨hc, hcs⟩ := List.forall_mem_cons.mp h
    obtain ⟨piece, rest, heq, hcons⟩ := exists_splitBy_cons hc cs
    rw [ih hcs] at heq
    obtain ⟨rfl, rfl⟩ := List.cons.inj heq
    exact hcons

theorem mem_and_sep_of_mem_splitBy {cs piece : List Char} {c : Char}
    (h : piece ∈ splitBy sep cs) (hc : c ∈ piece) : c ∈ cs ∧ sep c = false := by
  induction cs generalizing piece with
  | nil => simp_all [splitBy]
  | cons x cs ih =>
    cases hx : sep x with
    | true =>
      rw [splitBy_cons_of_sep hx, List.mem_cons] at h
      rcases h with rfl | h
      · simp at hc
      · exact (ih h hc).imp_left (List.mem_cons_of_mem x)
    | false =>
      obtain ⟨first, rest, heq, hcons⟩ := exists_splitBy_cons hx cs
      rw [hcons, List.mem_cons] at h
      rcases h with rfl | h
      · rcases List.mem_cons.mp hc with rfl | hc
        · exact ⟨List.mem_cons_self, hx⟩
        · exact (ih (heq ▸ List.mem_cons_self) hc).imp_left (List.mem_cons_of_mem x)
      · exact (ih (heq ▸ List.mem_cons_of_mem first h) hc).imp_left (List.mem_cons_of_mem x)

theorem mem_of_mem_splitBy {cs piece : List Char} {c : Char} (h : piece ∈ splitBy sep cs)
    (hc : c ∈ piece) : c ∈ cs := (mem_and_sep_of_mem_splitBy h hc).1

theorem sep_of_mem_splitBy {cs piece : List Char} {c : Char} (h : piece ∈ splitBy sep cs)
    (hc : c ∈ piece) : sep c = false := (mem_and_sep_of_mem_splitBy h hc).2

theorem sep_or_mem_splitBy (sep : Char → Bool) {cs : List Char} {c : Char} (h : c ∈ cs) :
    sep c ∨ ∃ piece ∈ splitBy sep cs, c ∈ piece := by
  induction cs with
  | nil => exact absurd h List.not_mem_nil
  | cons x cs ih =>
    cases hx : sep x with
    | true =>
      rw [splitBy_cons_of_sep hx]
      rcases List.mem_cons.mp h with rfl | h
      · exact Or.inl hx
      · exact (ih h).imp_right fun ⟨piece, hpiece, hc⟩ =>
          ⟨piece, List.mem_cons_of_mem [] hpiece, hc⟩
    | false =>
      obtain ⟨first, rest, heq, hcons⟩ := exists_splitBy_cons hx cs
      rw [hcons]
      rw [heq] at ih
      rcases List.mem_cons.mp h with rfl | h
      · exact Or.inr ⟨c :: first, List.mem_cons_self, List.mem_cons_self⟩
      · refine (ih h).imp_right fun ⟨piece, hpiece, hc⟩ => ?_
        rcases List.mem_cons.mp hpiece with rfl | hpiece
        · exact ⟨x :: piece, List.mem_cons_self, List.mem_cons_of_mem x hc⟩
        · exact ⟨piece, List.mem_cons_of_mem _ hpiece, hc⟩

theorem ofList_cons (c : Char) (cs : List Char) :
    String.ofList (c :: cs) = String.ofList [c] ++ String.ofList cs := by
  rw [← String.ofList_append, List.singleton_append]

theorem joinWith_append_cons (sep s t : String) (rest : List String) :
    joinWith sep ((s ++ t) :: rest) = s ++ joinWith sep (t :: rest) := by
  cases rest with
  | nil => rfl
  | cons u rest => simp only [joinWith, String.append_assoc]

theorem exists_joinWith_append (sep : String) (ss ts : List String) :
    ∃ rest, joinWith sep (ss ++ ts) = joinWith sep ss ++ rest := by
  induction ss with
  | nil => exact ⟨joinWith sep ts, String.empty_append.symm⟩
  | cons s ss ih =>
    cases ss with
    | nil =>
      cases ts with
      | nil => exact ⟨"", String.append_empty.symm⟩
      | cons t ts => exact ⟨sep ++ joinWith sep (t :: ts), String.append_assoc⟩
    | cons s' ss =>
      obtain ⟨rest, heq⟩ := ih
      refine ⟨rest, ?_⟩
      change s ++ sep ++ joinWith sep (s' :: ss ++ ts) = s ++ sep ++ joinWith sep (s' :: ss) ++ rest
      rw [heq, String.append_assoc, String.append_assoc, String.append_assoc]

theorem joinWith_splitBy_map (sep mark : Char) (cs : List Char) :
    joinWith (String.ofList [mark]) ((splitBy (· == sep) cs).map String.ofList) =
      String.ofList (cs.map fun c => if c == sep then mark else c) := by
  induction cs with
  | nil => rfl
  | cons c cs ih =>
    rw [List.map_cons]
    cases hc : c == sep with
    | true =>
      obtain ⟨piece, rest, heq⟩ := List.exists_cons_of_ne_nil (splitBy_ne_nil (· == sep) cs)
      have hcons : splitBy (· == sep) (c :: cs) = [] :: piece :: rest := by
        rw [@splitBy_cons_of_sep (· == sep) c hc, heq]
      rw [heq] at ih
      rw [hcons, if_pos rfl, ofList_cons mark (cs.map _), ← ih]
      simp only [List.map_cons, joinWith, String.ofList_nil, String.empty_append]
    | false =>
      obtain ⟨piece, rest, heq, hcons⟩ := @exists_splitBy_cons (· == sep) c hc cs
      rw [heq, List.map_cons] at ih
      rw [hcons, List.map_cons, ofList_cons c, joinWith_append_cons, ih,
        if_neg Bool.false_ne_true, ← ofList_cons]

theorem joinWith_splitBy (sep : Char) (cs : List Char) :
    joinWith (String.ofList [sep]) ((splitBy (· == sep) cs).map String.ofList) =
      String.ofList cs := by
  rw [joinWith_splitBy_map, List.map_congr_left (g := id) fun c _ => ?_, List.map_id]
  split
  next hc => exact (eq_of_beq hc).symm
  next => rfl

theorem forall_or_exists_first (sep : Char → Bool) (cs : List Char) :
    (∀ c ∈ cs, sep c = false) ∨
      ∃ xs c ys, cs = xs ++ c :: ys ∧ (∀ x ∈ xs, sep x = false) ∧ sep c := by
  induction cs with
  | nil => exact Or.inl (by simp)
  | cons x cs ih =>
    cases hx : sep x with
    | true => exact Or.inr ⟨[], x, cs, rfl, by simp, hx⟩
    | false =>
      rcases ih with h | ⟨xs, c, ys, rfl, hxs, hc⟩
      · exact Or.inl (List.forall_mem_cons.mpr ⟨hx, h⟩)
      · exact Or.inr ⟨x :: xs, c, ys, rfl, List.forall_mem_cons.mpr ⟨hx, hxs⟩, hc⟩

/-! ## The first occurrence -/

theorem cut?_append_cons {mark : Char} {xs : List Char} (h : mark ∉ xs) (ys : List Char) :
    cut? mark (xs ++ mark :: ys) = some (xs, ys) := by
  induction xs with
  | nil => rw [List.nil_append, cut?, if_pos (beq_self_eq_true mark)]
  | cons x xs ih =>
    obtain ⟨hx, hxs⟩ := not_or.mp (mt List.mem_cons.mpr h)
    rw [List.cons_append, cut?, if_neg (by simpa using Ne.symm hx), ih hxs]
    rfl

theorem cut?_of_not_mem {mark : Char} {cs : List Char} (h : mark ∉ cs) : cut? mark cs = none := by
  induction cs with
  | nil => rfl
  | cons c cs ih =>
    obtain ⟨hc, hcs⟩ := not_or.mp (mt List.mem_cons.mpr h)
    rw [cut?, if_neg (by simpa using Ne.symm hc), ih hcs]
    rfl

theorem eq_of_cut? {mark : Char} {cs xs ys : List Char} (h : cut? mark cs = some (xs, ys)) :
    cs = xs ++ mark :: ys := by
  induction cs generalizing xs with
  | nil => cases h
  | cons c cs ih =>
    rw [cut?] at h
    split at h
    · rename_i hc
      cases h
      rw [eq_of_beq hc, List.nil_append]
    · obtain ⟨⟨before, after⟩, hcut, heq⟩ := Option.map_eq_some_iff.mp h
      cases heq
      rw [ih hcut, List.cons_append]

theorem append_cons_inj {mark : Char} {xs xs' ys ys' : List Char} (h : mark ∉ xs)
    (h' : mark ∉ xs') : xs ++ mark :: ys = xs' ++ mark :: ys' ↔ xs = xs' ∧ ys = ys' := by
  constructor
  · intro heq
    have hcut := cut?_append_cons h ys
    rw [heq, cut?_append_cons h'] at hcut
    cases hcut
    exact ⟨rfl, rfl⟩
  · rintro ⟨rfl, rfl⟩
    rfl

theorem append_cons_inj_of_not_mem_right {mark : Char} {xs xs' ys ys' : List Char} (h : mark ∉ ys)
    (h' : mark ∉ ys') : xs ++ mark :: ys = xs' ++ mark :: ys' ↔ xs = xs' ∧ ys = ys' := by
  rw [← List.reverse_inj, List.reverse_append, List.reverse_append, List.reverse_cons,
    List.reverse_cons, List.append_assoc, List.append_assoc, List.singleton_append,
    List.singleton_append, append_cons_inj (mt List.mem_reverse.mp h) (mt List.mem_reverse.mp h'),
    List.reverse_inj, List.reverse_inj, and_comm]

/-! ## Parts -/

theorem isSome_dropLiteral?_iff {part cs : List Char} :
    (dropLiteral? part cs).isSome ↔ part <+: cs := by
  induction part generalizing cs with
  | nil => simp [dropLiteral?]
  | cons p part ih =>
    cases cs with
    | nil => simp [dropLiteral?]
    | cons c cs =>
      rw [dropLiteral?, List.cons_prefix_cons, ← ih]
      by_cases h : p = c
      · simp [h]
      · simp [h]

theorem contains_search_iff {part : String} {cs : List Char} :
    contains.search part cs ↔ part.toList <:+: cs := by
  induction cs with
  | nil =>
    rw [contains.search, Bool.or_false, isSome_dropLiteral?_iff, List.prefix_nil, List.infix_nil]
  | cons c cs ih =>
    rw [contains.search, Bool.or_eq_true, isSome_dropLiteral?_iff, List.infix_cons_iff]
    exact or_congr_right ih

theorem contains_iff {s part : String} : contains s part ↔ part.toList <:+: s.toList :=
  contains_search_iff

theorem startsWith_iff {s start : String} : startsWith s start ↔ start.toList <+: s.toList :=
  isSome_dropLiteral?_iff

/-! ## Lines -/

def IsLine (s : String) : Prop := '\n' ∉ s.toList

instance (s : String) : Decidable (IsLine s) := inferInstanceAs (Decidable ('\n' ∉ s.toList))

theorem IsLine.append {s t : String} (hs : IsLine s) (ht : IsLine t) : IsLine (s ++ t) := by
  rw [IsLine, String.toList_append, List.mem_append, not_or]
  exact ⟨hs, ht⟩

theorem isSpace_getLast_trim {cs : List Char} (h : trim cs ≠ []) :
    isSpace ((trim cs).getLast h) = false :=
  Bool.eq_false_iff.mpr (List.rdropWhile_last_not isSpace (trimStart cs) h)

/-- The last piece ends as the whole does, unless a separator stands there. -/
theorem exists_getLast?_splitBy {sep : Char → Bool} {c : Char} (hc : sep c = false)
    (cs : List Char) : ∃ piece, (splitBy sep (cs ++ [c])).getLast? = some (piece ++ [c]) := by
  induction cs with
  | nil => exact ⟨[], by simp [splitBy, hc]⟩
  | cons x cs ih =>
    obtain ⟨piece, hlast⟩ := ih
    cases hx : sep x with
    | true =>
      refine ⟨piece, ?_⟩
      rw [List.cons_append, splitBy_cons_of_sep hx, List.getLast?_cons, hlast]
      rfl
    | false =>
      obtain ⟨first, rest, heq, hcons⟩ := exists_splitBy_cons hx (cs ++ [c])
      rw [heq, List.getLast?_cons] at hlast
      rw [List.cons_append, hcons, List.getLast?_cons]
      cases hrest : rest.getLast? with
      | none =>
        rw [hrest] at hlast
        exact ⟨x :: piece, congrArg (fun p => some (x :: p)) (Option.some.inj hlast)⟩
      | some last =>
        rw [hrest] at hlast
        exact ⟨piece, hlast⟩

theorem getLast?_lines {s : String} {piece : List Char} (hne : piece ≠ [])
    (h : (splitBy (· == '\n') s.toList).getLast? = some piece) :
    (lines s).getLast? = some (String.ofList piece) := by
  obtain ⟨c, cs, rfl⟩ := List.exists_cons_of_ne_nil hne
  rw [lines, h, List.map_append, List.map_singleton, List.getLast?_concat]

theorem exists_last_line {s : String} (h : trimmed s ≠ "") :
    ∃ line, (lines (trimmed s)).getLast? = some line ∧ line ≠ "" ∧ IsLine line := by
  have hne : trim s.toList ≠ [] := fun hnil => h (by rw [trimmed, hnil])
  set last := (trim s.toList).getLast hne
  have hfeed : (last == '\n') = false := by
    rw [beq_eq_false_iff_ne]
    intro heq
    have hspace : isSpace last = false := isSpace_getLast_trim hne
    rw [heq] at hspace
    cases hspace
  obtain ⟨piece, hpiece⟩ := @exists_getLast?_splitBy (· == '\n') last hfeed (trim s.toList).dropLast
  rw [List.dropLast_append_getLast hne] at hpiece
  have hfull := List.concat_ne_nil last piece
  refine ⟨String.ofList (piece ++ [last]), getLast?_lines hfull ?_, ?_, ?_⟩
  · rwa [trimmed, String.toList_ofList]
  · rwa [Ne, ← String.toList_inj, String.toList_ofList]
  · rw [IsLine, String.toList_ofList]
    intro hmem
    cases sep_of_mem_splitBy (List.mem_of_getLast? hpiece) hmem

end AppScaffold.Text

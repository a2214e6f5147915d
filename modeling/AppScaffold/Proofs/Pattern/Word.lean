import AppScaffold.Proofs.Pattern.Language
import AppScaffold.Proofs.Text.Split

/-!
# Words and domains

The two patterns that projects are checked with, as properties of texts: an identifier is a word,
and a reverse domain is two or more words between dots.
-/

set_option autoImplicit false

namespace AppScaffold.Pattern

open Text (splitBy splitOn)

def isWordChar (c : Char) : Bool := c.isAlphanum || c == '_'

def isWord : List Char → Bool
  | [] => false
  | c :: cs => c.isAlpha && cs.all isWordChar

variable {atStart : Bool} {ws zs : List Char}

theorem inRanges_letter (c : Char) : inRanges [('A', 'Z'), ('a', 'z')] c = c.isAlpha := by
  have hsplit : inRanges [('A', 'Z'), ('a', 'z')] c =
      (('A' ≤ c && c ≤ 'Z') || ('a' ≤ c && c ≤ 'z')) := by
    simp [inRanges]
  have hupper : ('A' ≤ c && c ≤ 'Z') = c.isUpper := (Bool.decide_and _ _).symm
  have hlower : ('a' ≤ c && c ≤ 'z') = c.isLower := rfl
  rw [hsplit, hupper, hlower]
  rfl

theorem inRanges_wordChar (c : Char) :
    inRanges [('A', 'Z'), ('a', 'z'), ('0', '9'), ('_', '_')] c = isWordChar c := by
  have hmark : ('_' ≤ c && c ≤ '_') = (c == '_') := by
    rw [Bool.eq_iff_iff]
    simp only [Bool.and_eq_true, decide_eq_true_eq, beq_iff_eq]
    exact ⟨fun ⟨hle, hge⟩ => Char.le_antisymm hge hle, fun heq => by simp [heq]⟩
  have hsplit : inRanges [('A', 'Z'), ('a', 'z'), ('0', '9'), ('_', '_')] c =
      (inRanges [('A', 'Z'), ('a', 'z')] c || ('0' ≤ c && c ≤ '9') || ('_' ≤ c && c ≤ '_')) := by
    simp [inRanges, Bool.or_assoc]
  rw [hsplit, inRanges_letter, hmark]
  rfl

theorem spans_star_oneOf_iff {negated : Bool} {ranges : List (Char × Char)} :
    Spans (.star (.oneOf negated ranges)) atStart ws zs ↔
      ws.all fun c => inRanges ranges c != negated := by
  induction ws generalizing atStart with
  | nil => exact iff_of_true .done rfl
  | cons c ws ih =>
    rw [spans_star_cons_iff, List.all_cons, Bool.and_eq_true]
    constructor
    · rintro ⟨xs, ys, rfl, hfirst, hrest⟩
      obtain ⟨d, heq, hd⟩ := spans_oneOf_iff.mp hfirst
      obtain ⟨rfl, rfl⟩ := List.cons.inj heq
      exact ⟨hd, ih.mp hrest⟩
    · rintro ⟨hc, hws⟩
      exact ⟨[], ws, rfl, .oneOf hc, ih.mpr hws⟩

theorem spans_word_iff : Spans word atStart ws zs ↔ isWord ws := by
  rw [word, letter, wordChar, spans_seq_iff]
  simp only [spans_oneOf_iff, spans_star_oneOf_iff, Bool.bne_false, inRanges_letter,
    inRanges_wordChar]
  constructor
  · rintro ⟨xs, ys, rfl, ⟨c, rfl, hc⟩, hys⟩
    exact Bool.and_eq_true_iff.mpr ⟨hc, hys⟩
  · intro h
    cases ws with
    | nil => exact absurd h Bool.false_ne_true
    | cons c ws =>
      obtain ⟨hc, hws⟩ := Bool.and_eq_true_iff.mp h
      exact ⟨[c], ws, rfl, ⟨c, rfl, hc⟩, hws⟩

theorem identifier_find_iff (s : String) : identifier.find s ↔ isWord s.toList :=
  (find_whole_iff word s).trans spans_word_iff

def dotWord : Pattern := .seq (char '.') word

theorem spans_dotWord_iff : Spans dotWord atStart ws zs ↔ ∃ xs, ws = '.' :: xs ∧ isWord xs := by
  have hdot (c : Char) : (inRanges [('.', '.')] c != false) ↔ c = '.' := by
    simp only [inRanges, List.any_cons, List.any_nil, Bool.or_false, Bool.bne_false,
      Bool.and_eq_true, decide_eq_true_eq]
    exact ⟨fun ⟨hle, hge⟩ => Char.le_antisymm hge hle, fun heq => by simp [heq]⟩
  rw [dotWord, char, spans_seq_iff]
  simp only [spans_oneOf_iff, hdot, spans_word_iff]
  constructor
  · rintro ⟨_, ys, rfl, ⟨_, rfl, rfl⟩, hys⟩
    exact ⟨ys, rfl, hys⟩
  · rintro ⟨xs, rfl, hxs⟩
    exact ⟨['.'], xs, rfl, ⟨'.', rfl, rfl⟩, hxs⟩

theorem isWordChar_of_isWord {cs : List Char} (h : isWord cs) : ∀ c ∈ cs, isWordChar c := by
  cases cs with
  | nil => simp
  | cons c cs =>
    obtain ⟨hc, hcs⟩ := Bool.and_eq_true_iff.mp h
    refine List.forall_mem_cons.mpr ⟨?_, List.all_eq_true.mp hcs⟩
    simp [isWordChar, Char.isAlphanum, hc]

theorem ne_of_isWordChar {c x : Char} (hc : isWordChar c) (hx : isWordChar x = false) : c ≠ x := by
  rintro rfl
  exact Bool.false_ne_true (hx.symm.trans hc)

theorem not_dot_of_isWord {cs : List Char} (h : isWord cs) : ∀ c ∈ cs, (c == '.') = false :=
  fun c hc => beq_eq_false_iff_ne.mpr (ne_of_isWordChar (isWordChar_of_isWord h c hc) rfl)

/-- Repeated words behind dots: nothing, or a dot and a text whose pieces between dots are words. -/
theorem spans_dotWords_iff : Spans (.star dotWord) atStart ws zs ↔
    ws = [] ∨ ∃ xs, ws = '.' :: xs ∧ (splitBy (· == '.') xs).all isWord := by
  -- One word takes several characters, so the induction is on the length and not on the text.
  induction hlen : ws.length using Nat.strongRecOn generalizing atStart ws with
  | ind n ih =>
  cases ws with
  | nil => exact iff_of_true .done (Or.inl rfl)
  | cons c ws =>
    rw [spans_star_cons_iff]
    simp only [spans_dotWord_iff, reduceCtorEq, false_or]
    constructor
    · rintro ⟨xs, ys, rfl, ⟨xs', heq, hxs⟩, hys⟩
      obtain ⟨rfl, rfl⟩ := List.cons.inj heq
      refine ⟨xs ++ ys, rfl, ?_⟩
      rw [ih ys.length (by simp at hlen; omega) rfl] at hys
      rcases hys with rfl | ⟨ys, rfl, hall⟩
      · rw [List.append_nil, Text.splitBy_of_forall (not_dot_of_isWord hxs)]
        simp [hxs]
      · rw [Text.splitBy_append_cons rfl, Text.splitBy_of_forall (not_dot_of_isWord hxs)]
        simpa [hxs] using hall
    · rintro ⟨xs, heq, hall⟩
      obtain ⟨rfl, rfl⟩ := List.cons.inj heq
      rcases Text.forall_or_exists_first (· == '.') ws with hnone | ⟨as, d, bs, rfl, has, hd⟩
      · rw [Text.splitBy_of_forall hnone] at hall
        exact ⟨ws, [], by simp, ⟨ws, rfl, by simpa using hall⟩, .done⟩
      · obtain rfl := eq_of_beq hd
        rw [Text.splitBy_append_cons rfl, Text.splitBy_of_forall has, List.all_append,
          Bool.and_eq_true] at hall
        refine ⟨as, '.' :: bs, rfl, ⟨as, rfl, by simpa using hall.1⟩, ?_⟩
        exact (ih _ (by simp at hlen ⊢; omega) rfl).mpr (Or.inr ⟨bs, rfl, hall.2⟩)

theorem spans_plus_dotWord_iff : Spans (plus dotWord) atStart ws zs ↔
    ∃ xs, ws = '.' :: xs ∧ (splitBy (· == '.') xs).all isWord := by
  constructor
  · intro h
    obtain ⟨_, ys, rfl, hword, hrest⟩ := spans_seq_iff.mp h
    obtain ⟨xs, rfl, hxs⟩ := spans_dotWord_iff.mp hword
    rw [List.isEmpty_cons, Bool.and_false] at hrest
    have hstar : Spans (.star dotWord) atStart ('.' :: (xs ++ ys)) zs := .more hword hrest
    exact (spans_dotWords_iff.mp hstar).resolve_left (List.cons_ne_nil _ _)
  · rintro ⟨xs, rfl, hall⟩
    have hstar : Spans (.star dotWord) atStart ('.' :: xs) zs :=
      spans_dotWords_iff.mpr (Or.inr ⟨xs, rfl, hall⟩)
    obtain ⟨as, bs, rfl, hword, hrest⟩ := spans_star_cons_iff.mp hstar
    have hseq : Spans (.seq dotWord (.star dotWord)) atStart ('.' :: as ++ bs) zs := by
      refine .seq hword ?_
      rwa [List.isEmpty_cons, Bool.and_false]
    exact hseq

theorem reverseDomain_find_iff (s : String) :
    reverseDomain.find s ↔
      2 ≤ (splitOn '.' s).length ∧ ∀ piece ∈ splitOn '.' s, isWord piece.toList := by
  have hsplit : (2 ≤ (splitOn '.' s).length ∧ ∀ piece ∈ splitOn '.' s, isWord piece.toList) ↔
      2 ≤ (splitBy (· == '.') s.toList).length ∧ (splitBy (· == '.') s.toList).all isWord := by
    simp [splitOn]
  rw [hsplit, reverseDomain, find_whole_iff, spans_seq_iff]
  change (∃ xs ys, _ ∧ _ ∧ Spans (plus dotWord) _ ys []) ↔ _
  simp only [spans_word_iff, spans_plus_dotWord_iff]
  constructor
  · rintro ⟨xs, _, heq, hxs, ys, rfl, hys⟩
    rw [heq, Text.splitBy_append_cons rfl, Text.splitBy_of_forall (not_dot_of_isWord hxs)]
    have hpos := List.length_pos_iff.mpr (Text.splitBy_ne_nil (· == '.') ys)
    exact ⟨by simp; omega, by simpa [hxs] using hys⟩
  · rintro ⟨hlen, hall⟩
    rcases Text.forall_or_exists_first (· == '.') s.toList with hnone | ⟨xs, d, ys, heq, hxs, hd⟩
    · rw [Text.splitBy_of_forall hnone] at hlen
      simp at hlen
    · obtain rfl := eq_of_beq hd
      rw [heq, Text.splitBy_append_cons rfl, Text.splitBy_of_forall hxs, List.all_append,
        Bool.and_eq_true] at hall
      exact ⟨xs, '.' :: ys, heq, by simpa using hall.1, ys, rfl, hall.2⟩

end AppScaffold.Pattern

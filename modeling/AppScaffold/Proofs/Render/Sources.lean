import AppScaffold.Proofs.Pattern.Word
import AppScaffold.Render.Sources

/-!
# Reading sources by lines

A plain reader of activity sources: their lines, the classes they declare and the layouts they
show. Texts of a project reach a source only as parts of lines, so every source has the same lines.
-/

set_option autoImplicit false

namespace AppScaffold.Render

def isBreak (c : Char) : Bool := c == '\n' || c == '\r'

def sourceLines (source : String) : List String :=
  (Text.splitBy isBreak source.toList).map String.ofList

/-- The text between the literal that a line starts with and a mark. -/
def readAfter? (start : String) (mark : Char) (line : List Char) : Option String :=
  (Text.dropLiteral? start.toList line).map fun rest =>
    String.ofList (rest.takeWhile (· != mark))

def publicClasses (source : String) : List String :=
  (sourceLines source).filterMap fun l => readAfter? "public class " ' ' l.toList

def shownLayouts (source : String) : List String :=
  (sourceLines source).filterMap fun l =>
    readAfter? "setContentView(R.layout." ')' (l.toList.dropWhile (· == ' '))

/-! ## Lines -/

theorem toList_unlines_cons (l : String) (ls : List String) :
    (unlines (l :: ls)).toList = l.toList ++ '\n' :: (unlines ls).toList := by
  simp [unlines]

theorem toList_unlines_append (ls ms : List String) :
    (unlines (ls ++ ms)).toList = (unlines ls).toList ++ (unlines ms).toList := by
  simp [unlines, String.join_append]

theorem not_mem_unlines {ls : List String} {d : Char} (hd : d ≠ '\n')
    (h : ∀ l ∈ ls, d ∉ l.toList) : d ∉ (unlines ls).toList := by
  induction ls with
  | nil => simp [unlines]
  | cons l ls ih =>
    obtain ⟨hl, hls⟩ := List.forall_mem_cons.mp h
    simp [toList_unlines_cons, hd, hl, ih hls]

theorem splitBy_unlines {ls : List String} (h : ∀ l ∈ ls, ∀ c ∈ l.toList, isBreak c = false) :
    Text.splitBy isBreak (unlines ls).toList = ls.map String.toList ++ [[]] := by
  induction ls with
  | nil => rfl
  | cons l ls ih =>
    obtain ⟨hl, hls⟩ := List.forall_mem_cons.mp h
    rw [toList_unlines_cons, Text.splitBy_append_cons rfl, Text.splitBy_of_forall hl, ih hls]
    rfl

theorem sourceLines_unlines {ls : List String}
    (h : ∀ l ∈ ls, ∀ c ∈ l.toList, isBreak c = false) : sourceLines (unlines ls) = ls ++ [""] := by
  rw [sourceLines, splitBy_unlines h, List.map_append, List.map_map]
  simp [Function.comp_def]

theorem mem_guardCommentEnd {cs : List Char} {c : Char} (h : c ∈ guardCommentEnd cs) :
    c ∈ cs ∨ c = '\\' := by
  fun_induction guardCommentEnd cs with
  | case1 cs ih =>
    simp only [List.mem_cons] at h ⊢
    grind
  | case2 d cs _ ih =>
    rcases List.mem_cons.mp h with rfl | h
    · exact Or.inl List.mem_cons_self
    · exact (ih h).imp_left (List.mem_cons_of_mem d)
  | case3 => exact Or.inl h

theorem forall_isBreak_of_all {s : String} (h : s.toList.all (isBreak · = false)) :
    ∀ c ∈ s.toList, isBreak c = false := by
  simpa using h

theorem forall_mem_append_isBreak {s l t : String} (hs : s.toList.all (isBreak · = false))
    (ht : t.toList.all (isBreak · = false)) (hl : ∀ c ∈ l.toList, isBreak c = false) :
    ∀ c ∈ (s ++ l ++ t).toList, isBreak c = false := by
  simp only [String.toList_append, List.forall_mem_append]
  exact ⟨⟨forall_isBreak_of_all hs, hl⟩, forall_isBreak_of_all ht⟩

theorem isBreak_of_isWordChar {c : Char} (h : Pattern.isWordChar c) : isBreak c = false := by
  simp [isBreak, Pattern.ne_of_isWordChar h (x := '\n') rfl,
    Pattern.ne_of_isWordChar h (x := '\r') rfl]

theorem takeWhile_word {cs : List Char} {mark : Char} (hcs : ∀ c ∈ cs, Pattern.isWordChar c)
    (hmark : Pattern.isWordChar mark = false) (rest : List Char) :
    (cs ++ mark :: rest).takeWhile (· != mark) = cs := by
  rw [List.takeWhile_append_of_pos]
  · simp
  · intro c hc
    simpa using Pattern.ne_of_isWordChar (hcs c hc) hmark

/-- Whatever a text holds, inside a comment it stays on the line of the comment. -/
theorem isBreak_of_mem_blockComment {s : String} {c : Char} (h : c ∈ (blockComment s).toList) :
    isBreak c = false := by
  rw [blockComment, String.toList_ofList] at h
  rcases mem_guardCommentEnd h with h | rfl
  · obtain ⟨d, _, rfl⟩ := List.mem_map.mp h
    split
    · rfl
    · rename_i hd
      simp only [Bool.or_eq_true, not_or, Bool.not_eq_true] at hd
      rw [isBreak, hd.1, hd.2]
      rfl
  · rfl

namespace Activity

/-- The texts of an activity stay on their lines and end where a reader takes them to end. -/
structure OnLines (a : Activity) : Prop where
  package : ∀ c ∈ a.package.toList, isBreak c = false
  summary : ∀ c ∈ a.summary.toList, isBreak c = false
  className : ∀ c ∈ a.className.toList, Pattern.isWordChar c
  layout : ∀ c ∈ a.layout.toList, Pattern.isWordChar c

variable {a : Activity}

theorem sourceLines_source (h : a.OnLines) : sourceLines a.source = a.lines ++ [""] := by
  apply sourceLines_unlines
  have hclass := fun c hc => isBreak_of_isWordChar (h.className c hc)
  have hlayout := fun c hc => isBreak_of_isWordChar (h.layout c hc)
  have hsummary : ∀ c ∈ (" * " ++ a.summary).toList, isBreak c = false := by
    simpa using forall_mem_append_isBreak (s := " * ") (t := "") (by decide) (by decide) h.summary
  unfold lines
  simp only [List.forall_mem_cons]
  refine ⟨forall_mem_append_isBreak (by decide) (by decide) h.package, ?_, ?_, ?_, ?_, ?_,
    hsummary, ?_, ?_, forall_mem_append_isBreak (by decide) (by decide) hclass, ?_, ?_, ?_, ?_,
    forall_mem_append_isBreak (by decide) (by decide) hlayout, ?_, ?_, ?_, ?_, ?_, ?_, ?_, ?_, ?_,
    by simp⟩
  all_goals exact forall_isBreak_of_all (by decide)

theorem head?_sourceLines (h : a.OnLines) :
    (sourceLines a.source).head? = some ("package " ++ a.package ++ ";") := by
  rw [sourceLines_source h]
  rfl

theorem publicClasses_source (h : a.OnLines) : publicClasses a.source = [a.className] := by
  have hread := takeWhile_word h.className (show Pattern.isWordChar ' ' = false from rfl)
  rw [publicClasses, sourceLines_source h]
  simp [lines, readAfter?, Text.dropLiteral?, hread]

theorem shownLayouts_source (h : a.OnLines) : shownLayouts a.source = [a.layout] := by
  have hread := takeWhile_word h.layout (show Pattern.isWordChar ')' = false from rfl)
  rw [shownLayouts, sourceLines_source h]
  simp [lines, readAfter?, Text.dropLiteral?, hread]

end Activity

end AppScaffold.Render

import Mathlib.Data.List.SplitBy
import AppScaffold.App.Project

/-!
# Names of downloads

The name that is offered for a download is made from the name of the app run by run: a run of white
space becomes one mark, every other run stays. Main statement: `downloadName_marks_runs`.
-/

set_option autoImplicit false

namespace AppScaffold

namespace Text

variable {mark c : Char} {cs run : List Char} {runs : List (List Char)}

/-! ## Runs -/

def isSpaceRun (run : List Char) : Bool := run.all isSpace

def Uniform (run : List Char) : Prop := ∀ c ∈ run, isSpace c = isSpaceRun run

/-- A text cut into runs of white space and runs of other characters. No run can be longer, since
neighbours differ in kind. -/
structure IsRuns (runs : List (List Char)) (cs : List Char) : Prop where
  flatten_eq : runs.flatten = cs
  ne_nil : ∀ run ∈ runs, run ≠ []
  uniform : ∀ run ∈ runs, Uniform run
  alternate : runs.IsChain fun run next => isSpaceRun run ≠ isSpaceRun next

def sameKind (c d : Char) : Bool := isSpace c == isSpace d

theorem sameKind_iff {c d : Char} : sameKind c d = true ↔ isSpace c = isSpace d := beq_iff_eq

theorem uniform_iff_isChain : Uniform run ↔ run.IsChain fun c d => sameKind c d = true := by
  constructor
  · intro h
    apply List.Pairwise.isChain
    apply List.pairwise_of_forall_mem_list
    intro c hc d hd
    rw [sameKind_iff, h c hc, h d hd]
  · intro h
    have htrans : IsTrans Char fun c d => sameKind c d = true := by
      constructor
      intro c d e hcd hde
      rw [sameKind_iff] at hcd hde ⊢
      exact hcd.trans hde
    have hpairs := List.isChain_iff_pairwise.mp h
    cases run with
    | nil =>
      intro c hc
      cases hc
    | cons first rest =>
      obtain ⟨hfirst, -⟩ := List.pairwise_cons.mp hpairs
      have hsame : ∀ c ∈ first :: rest, isSpace c = isSpace first := by
        intro c hc
        rcases List.mem_cons.mp hc with rfl | hc
        · rfl
        · exact (sameKind_iff.mp (hfirst c hc)).symm
      intro c hc
      rw [hsame c hc, isSpaceRun]
      cases hkind : isSpace first with
      | true =>
        symm
        apply List.all_eq_true.mpr
        intro d hd
        rw [hsame d hd, hkind]
      | false => rw [List.all_cons, hkind, Bool.false_and]

theorem alternate_iff (hne : ∀ run ∈ runs, run ≠ []) (huniform : ∀ run ∈ runs, Uniform run) :
    runs.IsChain (fun run next => isSpaceRun run ≠ isSpaceRun next) ↔
      runs.IsChain fun run next => ∃ hrun hnext,
        sameKind (run.getLast hrun) (next.head hnext) = false := by
  induction runs with
  | nil => simp
  | cons run runs ih =>
    obtain ⟨hrun, hne⟩ := List.forall_mem_cons.mp hne
    obtain ⟨hfirst, huniform⟩ := List.forall_mem_cons.mp huniform
    rw [List.isChain_cons, List.isChain_cons, ih hne huniform]
    apply and_congr_left
    intro _
    apply forall₂_congr
    intro next hnext
    have hmem := List.mem_of_mem_head? hnext
    have hlast := hfirst _ (List.getLast_mem hrun)
    have hhead := huniform next hmem _ (List.head_mem (hne next hmem))
    simp only [hrun, hne next hmem, ne_eq, not_false_eq_true, exists_true_left]
    rw [sameKind, hlast, hhead, beq_eq_false_iff_ne]

theorem isRuns_iff : IsRuns runs cs ↔ cs.splitBy sameKind = runs := by
  rw [List.splitBy_eq_iff]
  constructor
  · intro h
    refine ⟨h.flatten_eq.symm, fun hnil => h.ne_nil [] hnil rfl, ?_, ?_⟩
    · intro run hrun
      exact uniform_iff_isChain.mp (h.uniform run hrun)
    · exact (alternate_iff h.ne_nil h.uniform).mp h.alternate
  · rintro ⟨hflatten, hnil, hchains, hends⟩
    have hne : ∀ run ∈ runs, run ≠ [] := by
      rintro run hrun rfl
      exact hnil hrun
    have huniform : ∀ run ∈ runs, Uniform run :=
      fun run hrun => uniform_iff_isChain.mpr (hchains run hrun)
    exact ⟨hflatten.symm, hne, huniform, (alternate_iff hne huniform).mpr hends⟩

/-! ## Collapsed runs -/

def marked (mark : Char) (run : List Char) : List Char := if isSpaceRun run then [mark] else run

theorem collapseFrom_true_append_space (h : ∀ c ∈ run, isSpace c = true) (rest : List Char) :
    collapseFrom mark true (run ++ rest) = collapseFrom mark true rest := by
  induction run with
  | nil => rfl
  | cons c run ih =>
    obtain ⟨hc, hrun⟩ := List.forall_mem_cons.mp h
    rw [List.cons_append, collapseFrom, if_pos hc, if_pos rfl, ih hrun]

theorem collapseFrom_append_other (h : ∀ c ∈ run, isSpace c = false) (hne : run ≠ [])
    (inside : Bool) (rest : List Char) :
    collapseFrom mark inside (run ++ rest) = run ++ collapseFrom mark false rest := by
  induction run generalizing inside with
  | nil => exact absurd rfl hne
  | cons c run ih =>
    obtain ⟨hc, hrun⟩ := List.forall_mem_cons.mp h
    rw [List.cons_append, collapseFrom, if_neg (Bool.eq_false_iff.mp hc)]
    cases run with
    | nil => rfl
    | cons d run =>
      rw [ih hrun (List.cons_ne_nil d run)]
      rfl

/-- An open run of white space is never followed by another one, so each run has its own mark. -/
theorem collapseFrom_flatten (h : IsRuns runs cs) (inside : Bool)
    (hopen : inside = true → ∀ run ∈ runs.head?, isSpaceRun run = false) :
    collapseFrom mark inside cs = runs.flatMap (marked mark) := by
  obtain ⟨rfl, hne, huniform, halternate⟩ := h
  -- The induction carries whether a run of white space is open.
  induction runs generalizing inside with
  | nil => rfl
  | cons run runs ih =>
    obtain ⟨hrun, hne⟩ := List.forall_mem_cons.mp hne
    obtain ⟨hfirst, huniform⟩ := List.forall_mem_cons.mp huniform
    obtain ⟨hnext, halternate⟩ := List.isChain_cons.mp halternate
    rw [List.flatten_cons, List.flatMap_cons, marked]
    cases hkind : isSpaceRun run with
    | true =>
      have hspace : ∀ c ∈ run, isSpace c = true := fun c hc => (hfirst c hc).trans hkind
      have hrest : collapseFrom mark true runs.flatten = runs.flatMap (marked mark) := by
        apply ih true _ hne huniform halternate
        intro _ next hhead
        have hdiffer := hnext next hhead
        rw [hkind] at hdiffer
        exact Bool.eq_false_iff.mpr hdiffer.symm
      -- A run of white space is not open when it begins, since no other one stands before it.
      have hclosed : inside = false := by
        rw [← Bool.not_eq_true]
        intro hinside
        have hother := hopen hinside run (Option.mem_some_self run)
        rw [hkind] at hother
        cases hother
      subst hclosed
      cases run with
      | nil => exact absurd rfl hrun
      | cons c run =>
        obtain ⟨hc, hspace⟩ := List.forall_mem_cons.mp hspace
        rw [List.cons_append, collapseFrom, if_pos hc, if_neg Bool.false_ne_true, if_pos rfl,
          collapseFrom_true_append_space hspace, hrest]
        rfl
    | false =>
      have hother : ∀ c ∈ run, isSpace c = false := fun c hc => (hfirst c hc).trans hkind
      rw [collapseFrom_append_other hother hrun, if_neg Bool.false_ne_true]
      rw [ih false (fun h => absurd h Bool.false_ne_true) hne huniform halternate]

theorem collapse_eq_flatMap (h : IsRuns runs cs) :
    collapse mark cs = runs.flatMap (marked mark) :=
  collapseFrom_flatten h false fun hinside => absurd hinside Bool.false_ne_true

theorem not_isSpace_of_mem_collapse (hmark : isSpace mark = false) (hc : c ∈ collapse mark cs) :
    isSpace c = false := by
  have hruns : IsRuns (cs.splitBy sameKind) cs := isRuns_iff.mpr rfl
  rw [collapse_eq_flatMap hruns] at hc
  obtain ⟨run, hrun, hc⟩ := List.mem_flatMap.mp hc
  rw [marked] at hc
  split at hc
  · rw [List.mem_singleton.mp hc, hmark]
  · rename_i hkind
    rw [hruns.uniform run hrun c hc]
    exact Bool.eq_false_iff.mpr hkind

theorem collapse_of_no_space (h : ∀ c ∈ cs, isSpace c = false) : collapse mark cs = cs := by
  cases cs with
  | nil => rfl
  | cons c rest =>
    have hall : collapseFrom mark false (c :: rest ++ []) = c :: rest ++ [] :=
      collapseFrom_append_other h (List.cons_ne_nil c rest) false []
    rwa [List.append_nil] at hall

theorem filter_flatten (h : IsRuns runs cs) :
    (runs.filter fun run => !isSpaceRun run).flatten = cs.filter fun c => !isSpace c := by
  rw [← h.flatten_eq, List.filter_flatten]
  have huniform := h.uniform
  clear h
  induction runs with
  | nil => rfl
  | cons run runs ih =>
    obtain ⟨hrun, huniform⟩ := List.forall_mem_cons.mp huniform
    have hkept : run.filter (fun c => !isSpace c) = if isSpaceRun run then [] else run := by
      rw [List.filter_congr (q := fun _ => !isSpaceRun run) fun c hc => by rw [hrun c hc]]
      cases isSpaceRun run <;> simp
    rw [List.filter_cons, List.map_cons, List.flatten_cons, hkept, ← ih huniform]
    cases isSpaceRun run <;> simp

end Text

namespace App

open Text (IsRuns isSpace isSpaceRun marked collapse)

/-- The name of a download is the name of the app with one mark for each maximal run of white space,
then the version. In the marked name no white space is left, the runs that stay hold the other
characters of the name in their order, and there is nothing more to mark. -/
theorem downloadName_marks_runs (p : Project) : ∃ runs, IsRuns runs p.name.toList ∧
    (∀ other, IsRuns other p.name.toList → other = runs) ∧
    p.downloadName = String.ofList (runs.flatMap (marked '_')) ++ "-" ++ p.version ++ ".apk" ∧
    (∀ c ∈ runs.flatMap (marked '_'), isSpace c = false) ∧
    (runs.filter fun run => !isSpaceRun run).flatten =
      p.name.toList.filter (fun c => !isSpace c) ∧
    collapse '_' (runs.flatMap (marked '_')) = runs.flatMap (marked '_') := by
  have hruns : IsRuns (p.name.toList.splitBy Text.sameKind) p.name.toList :=
    Text.isRuns_iff.mpr rfl
  have hname : collapse '_' p.name.toList = _ := Text.collapse_eq_flatMap hruns
  have hclean : ∀ c ∈ collapse '_' p.name.toList, isSpace c = false :=
    fun c hc => Text.not_isSpace_of_mem_collapse (by decide) hc
  refine ⟨_, hruns, fun other hother => (Text.isRuns_iff.mp hother).symm, ?_, ?_,
    Text.filter_flatten hruns, ?_⟩
  · rw [Project.downloadName, hname]
  · rw [← hname]
    exact hclean
  · rw [← hname]
    exact Text.collapse_of_no_space hclean

example : ({ name := " Padded  _ App\n" } : Project).downloadName = "_Padded___App_-1.0.0.apk" := by
  decide +kernel

end App

end AppScaffold

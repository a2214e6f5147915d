import AppScaffold.Proofs.Java.Comments
import AppScaffold.Proofs.Render.References

/-!
# Comments of sources

The source of an activity has one doc comment with the name of the app or of a screen in it. Main
statement: `doc_comment_closed_iff`, the comment is legal and ends where the source means to end
it exactly when no escape in the name takes part in the end of a comment.
-/

set_option autoImplicit false

namespace AppScaffold.Render

open App (Project Screen)
open Java (EndsApart KeepsComment Symbol codes docComment? translate?)

/-- What stands in a doc comment behind the summary, up to its end. -/
def notice : List Char := "\n * Generated by ZeroApp Builder\n ".toList

/-- Text before and behind a name in a comment: it takes no part in an escape, nor in the end of a
comment. -/
structure Encloses (lead trail : List Char) : Prop where
  noEscape : '\\' ∉ lead ∧ '\\' ∉ trail
  noSlash : '/' ∉ lead ∧ '/' ∉ trail
  last : lead.getLast? ≠ some '*'
  first : ∃ c rest, trail = c :: rest ∧ Java.Mode.Parts c

theorem Encloses.endsApart_iff {lead trail : List Char} (h : Encloses lead trail) (xs : List Nat) :
    EndsApart (codes lead ++ xs ++ codes trail) ↔ EndsApart xs := by
  have hleadEnds := Java.endsApart_of_not_mem (Java.mem_codes_iff.not.mpr h.noSlash.1)
  have htrailEnds := Java.endsApart_of_not_mem (Java.mem_codes_iff.not.mpr h.noSlash.2)
  have hfirst : (codes trail).head? ≠ some '/'.toNat := fun hhead =>
    h.noSlash.2 (Java.mem_codes_iff.mp (List.mem_of_mem_head? hhead))
  have hlast : (codes lead).getLast? ≠ some '*'.toNat := by
    rw [codes, List.getLast?_map]
    intro hlast
    obtain ⟨c, hc, hstar⟩ := Option.map_eq_some_iff.mp hlast
    exact h.last (Char.toNat_inj.mp hstar ▸ hc)
  rw [Java.endsApart_append_iff (Or.inr hfirst), Java.endsApart_append_iff (Or.inl hlast),
    and_iff_right hleadEnds, and_iff_left htrailEnds]

namespace Activity

def above (a : Activity) : List Char := (unlines (a.lines.take 5)).toList

def below (a : Activity) : List Char := '\n' :: (unlines (a.lines.drop 9)).toList

/-- The source is read with a first doc comment that ends in the line below the notice, where the
class begins. -/
def ClosesComment (a : Activity) : Prop :=
  ∃ body, docComment? a.source = some (body ++ codes notice, codes a.below)

variable {a : Activity}

theorem toList_source (a : Activity) :
    a.source.toList = a.above ++ ("/**".toList ++
      ("\n * ".toList ++ a.summary.toList ++ notice ++ ("*/".toList ++ a.below))) := by
  have hlines : a.lines = a.lines.take 5 ++ "/**" :: (" * " ++ a.summary) ::
      " * Generated by ZeroApp Builder" :: " */" :: a.lines.drop 9 := rfl
  have hnotice : "\n * Generated by ZeroApp Builder\n " =
      "\n" ++ (" * Generated by ZeroApp Builder" ++ ("\n" ++ " ")) := by
    decide
  have hlead : "\n * " = "\n" ++ " * " := by decide
  have hend : " */" = " " ++ "*/" := by decide
  have hbreak (xs : List Char) : '\n' :: xs = "\n".toList ++ xs := rfl
  unfold above below notice
  rw [source, hlines, toList_unlines_append, toList_unlines_cons, toList_unlines_cons,
    toList_unlines_cons, toList_unlines_cons, hnotice, hlead, hend]
  simp only [hbreak, String.toList_append, List.append_assoc]
  rfl

theorem translate?_source {name lead trail : List Char}
    (hsource : a.source.toList = a.above ++ ("/**".toList ++
      (lead ++ name ++ trail ++ ("*/".toList ++ a.below))))
    (h : Encloses lead trail) (habove : '\\' ∉ a.above) (hbelow : '\\' ∉ a.below) :
    (translate? a.source.toList).map (·.map Symbol.code) =
      (translate? name).map fun us => codes a.above ++ (codes "/**".toList ++
        (codes lead ++ us.map Symbol.code ++ codes trail ++
          (codes "*/".toList ++ codes a.below))) := by
  obtain ⟨c, rest, rfl, hparts⟩ := h.first
  have hbefore : '\\' ∉ a.above ++ ("/**".toList ++ lead) := by
    simp [habove, h.noEscape.1]
  have hbehind : '\\' ∉ (c :: rest) ++ ("*/".toList ++ a.below) := by
    simpa [hbelow] using h.noEscape.2
  have hapart : a.source.toList = (a.above ++ ("/**".toList ++ lead)) ++
      (name ++ c :: (rest ++ ("*/".toList ++ a.below))) := by
    rw [hsource]
    simp only [List.append_assoc, List.cons_append]
  rw [hapart, Java.translate?_append_of_not_mem hbefore, Java.translate?_append_of_parts hparts,
    ← List.cons_append, Java.translate?_of_not_mem hbehind]
  cases translate? name with
  | none => rfl
  | some us =>
    simp only [Option.bind_some, Option.map_some, List.map_append, Java.map_code_raw, codes,
      List.append_assoc]

theorem closesComment_iff {name front back : String}
    (hsummary : a.summary = front ++ blockComment name ++ back)
    (h : Encloses ("\n * ".toList ++ front.toList) (back.toList ++ notice))
    (habove : '\\' ∉ a.above ∧ '/' ∉ a.above) (hbelow : '\\' ∉ a.below) :
    a.ClosesComment ↔ KeepsComment name := by
  have hsource : a.source.toList = a.above ++ ("/**".toList ++ (("\n * ".toList ++ front.toList) ++
      (blockComment name).toList ++ (back.toList ++ notice) ++ ("*/".toList ++ a.below))) := by
    rw [toList_source, hsummary]
    simp only [String.toList_append, List.append_assoc]
  have htranslated := translate?_source hsource h habove.1 hbelow
  rw [Java.keepsComment_iff, ClosesComment]
  cases hname : translate? (blockComment name).toList with
  | none =>
    rw [hname] at htranslated
    rw [Java.docComment?_eq_none (Option.map_eq_none_iff.mp htranslated)]
    simp
  | some us =>
    rw [hname] at htranslated
    have hslash := Java.mem_codes_iff.not.mpr habove.2
    have hends := h.endsApart_iff (us.map Symbol.code)
    have hinside : ∃ body, codes ("\n * ".toList ++ front.toList) ++ us.map Symbol.code ++
        codes (back.toList ++ notice) = body ++ codes notice := by
      rw [Java.codes_append back.toList, ← List.append_assoc]
      exact ⟨_, rfl⟩
    -- The comment is the lead, the name and the trail, if no end of a comment is in it.
    simp only [Java.docComment?_of_translate? htranslated hslash, Java.cutAt?_end_eq_some_iff,
      Option.some.injEq, exists_eq_left', ← hends]
    constructor
    · rintro ⟨body, heq, happart⟩
      rwa [List.append_cancel_right heq]
    · intro happart
      obtain ⟨body, hbody⟩ := hinside
      exact ⟨body, by rw [hbody], hbody ▸ happart⟩

theorem not_mem_above {d : Char} (hd : d = '\\' ∨ d = '/') (hpackage : d ∉ a.package.toList) :
    d ∉ a.above := by
  refine not_mem_unlines (by rcases hd with rfl | rfl <;> decide) ?_
  unfold lines
  simp only [List.take_succ_cons, List.take_zero, List.forall_mem_cons, String.toList_append,
    List.mem_append, not_or]
  rcases hd with rfl | rfl
  all_goals exact ⟨⟨⟨by decide, hpackage⟩, by decide⟩, by decide, by decide, by decide, by decide,
    by simp⟩

theorem not_mem_below (h : a.OnLines) : '\\' ∉ a.below := by
  have hclass : '\\' ∉ a.className.toList := fun hmem => absurd (h.className _ hmem) (by decide)
  have hlayout : '\\' ∉ a.layout.toList := fun hmem => absurd (h.layout _ hmem) (by decide)
  refine List.not_mem_cons_of_ne_of_not_mem (by decide) (not_mem_unlines (by decide) ?_)
  unfold lines
  simp only [List.drop_succ_cons, List.drop_zero, List.forall_mem_cons, String.toList_append,
    List.mem_append, not_or]
  refine ⟨⟨⟨by decide, hclass⟩, by decide⟩, ?_, ?_, ?_, ?_, ⟨⟨by decide, hlayout⟩, by decide⟩,
    ?_, ?_, ?_, ?_, ?_, ?_, ?_, ?_, ?_, by simp⟩
  all_goals decide

end Activity

theorem not_mem_package {p : Project} (hp : Check.Acceptable p) {d : Char}
    (hd : d = '\\' ∨ d = '/') : d ∉ p.package.toList := by
  intro hmem
  rcases hp.isWordChar_of_mem_package hmem with hdot | hword
  · rcases hd with rfl | rfl <;> exact absurd hdot (by decide)
  · rcases hd with rfl | rfl <;> exact absurd hword (by decide)

theorem not_mem_above_of_package {p : Project} (hp : Check.Acceptable p) {a : Activity}
    (ha : a.package = p.package) : '\\' ∉ a.above ∧ '/' ∉ a.above :=
  ⟨a.not_mem_above (Or.inl rfl) (ha ▸ not_mem_package hp (Or.inl rfl)),
    a.not_mem_above (Or.inr rfl) (ha ▸ not_mem_package hp (Or.inr rfl))⟩

theorem closesComment_main_iff {p : Project} (hp : Check.Acceptable p) :
    (Activity.main p).ClosesComment ↔ KeepsComment p.name := by
  have hencloses : Encloses ("\n * ".toList ++ "Main Activity for ".toList)
      ("".toList ++ notice) :=
    ⟨by decide, by decide, by decide, _, _, rfl, by decide⟩
  exact Activity.closesComment_iff String.append_empty.symm hencloses (not_mem_above_of_package hp rfl)
    (Activity.not_mem_below (Activity.onLines_main hp))

theorem closesComment_ofScreen_iff {p : Project} (hp : Check.Acceptable p) {s : String × Screen}
    (hs : s ∈ p.secondaryScreens) :
    (Activity.ofScreen p s.1 s.2).ClosesComment ↔ KeepsComment s.2.name := by
  have hencloses : Encloses ("\n * ".toList ++ "Activity for ".toList)
      (" screen".toList ++ notice) :=
    ⟨by decide, by decide, by decide, _, _, rfl, by decide⟩
  exact Activity.closesComment_iff rfl hencloses (not_mem_above_of_package hp rfl)
    (Activity.not_mem_below (Activity.onLines_ofScreen hp hs))

/-- The comment of a source is legal and closed by its own end exactly when the name in it keeps a
comment. -/
theorem doc_comment_closed_iff (maxDepth : Nat) (p : Project)
    (h : (Check.project maxDepth p).errors = []) :
    ((Activity.main p).ClosesComment ↔ KeepsComment p.name) ∧
      ∀ s ∈ p.secondaryScreens,
        (Activity.ofScreen p s.1 s.2).ClosesComment ↔ KeepsComment s.2.name := by
  have hp : Check.Acceptable p :=
    (Check.isValid_project_iff maxDepth p).mp (List.isEmpty_iff.mpr h)
  exact ⟨closesComment_main_iff hp, fun s hs => closesComment_ofScreen_iff hp hs⟩

/-- Ends of comments that stand for themselves, backslashes that start no escape, and an escape of a
letter. -/
def starredProject : Project :=
  (({ name := "Notes **/*/\n", package := "io.notes.app" } : Project).withScreen App.mainScreenId
    { name := "Home" }).withScreen "info" { name := "\\\\u002a/ \\u0041*\\" }

theorem acceptable_starredProject : Check.Acceptable starredProject where
  nameGiven := by decide
  packageGiven := by decide
  package := by decide
  home := by decide
  ids := by decide
  classes := by decide

theorem doc_comment_closed_starred :
    (Check.project 32 starredProject).errors = [] ∧ (Activity.main starredProject).ClosesComment ∧
      (Activity.ofScreen starredProject "info"
        { name := "\\\\u002a/ \\u0041*\\" }).ClosesComment := by
  have herrors : (Check.project 32 starredProject).errors = [] :=
    List.isEmpty_iff.mp ((Check.isValid_project_iff 32 _).mpr acceptable_starredProject)
  obtain ⟨hmain, hscreens⟩ := doc_comment_closed_iff 32 starredProject herrors
  have hscreen : ("info", ({ name := "\\\\u002a/ \\u0041*\\" } : Screen)) ∈
      starredProject.secondaryScreens := List.mem_cons_self
  exact ⟨herrors, hmain.mpr (by decide), (hscreens _ hscreen).mpr (by decide)⟩

def escapedProject : Project := { Check.notesProject with name := "\\u002a/ class X" }

theorem acceptable_escapedProject : Check.Acceptable escapedProject :=
  let h := Check.acceptable_notesProject
  ⟨by decide, h.packageGiven, h.package, h.home, h.ids, h.classes⟩

theorem doc_comment_ended_by_escape :
    (Check.project 32 escapedProject).errors = [] ∧
      ¬ (Activity.main escapedProject).ClosesComment := by
  refine ⟨List.isEmpty_iff.mp ((Check.isValid_project_iff 32 _).mpr acceptable_escapedProject), ?_⟩
  rw [closesComment_main_iff acceptable_escapedProject]
  decide

end AppScaffold.Render

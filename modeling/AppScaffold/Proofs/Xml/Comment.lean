import AppScaffold.Proofs.Xml.RoundTrip

/-!
# Comments that close once

The reader never finds two hyphens in a row inside a comment. So a printed comment reads as the one
comment it stands for exactly when its text has no run of three hyphens, the shortest run that is
not parted completely.
-/

set_option autoImplicit false

namespace AppScaffold.Xml

/-! ## What the reader takes for a comment -/

/-- A comment without two hyphens in a row; other tokens are no matter here. -/
def Token.Apart : Token → Prop
  | .comment s => HyphensApart s.toList
  | _ => True

namespace Mode

/-- What was seen of a comment keeps its hyphens apart, also from one that follows. -/
def Apart : Mode → Prop
  | .comment seen => HyphensApart (seen ++ ['-'])
  | .commentHyphen seen => HyphensApart (seen ++ ['-'])
  | .commentEnd seen => HyphensApart (seen ++ ['-'])
  | _ => True

theorem apart_flush {seen : List Char} {ts : List Token} (h : flush seen = some ts) :
    ∀ t ∈ ts, t.Apart := by
  unfold flush at h
  split at h
  · cases h
    simp
  · obtain ⟨cs, _, rfl⟩ := Option.map_eq_some_iff.mp h
    exact List.forall_mem_singleton.mpr trivial

theorem apart_stepInside {tag : List Char} {attributes : List Attribute} {spaced : Bool}
    {c : Char} {next : Mode} {found : List Token}
    (h : stepInside tag attributes spaced c = some (next, found)) :
    next.Apart ∧ ∀ t ∈ found, t.Apart := by
  unfold stepInside at h
  split_ifs at h
  all_goals
    cases h
    exact ⟨trivial, by simp [Token.Apart]⟩

/-- Only five steps can lead into a comment, stay in it or end it; the others find no comment. -/
theorem apart_step {m next : Mode} {c : Char} {found : List Token} (hm : m.Apart)
    (h : m.step c = some (next, found)) : next.Apart ∧ ∀ t ∈ found, t.Apart := by
  cases m with
  | bangHyphen =>
    simp only [step] at h
    split_ifs at h
    cases h
    exact ⟨List.isChain_singleton '-', by simp⟩
  | comment seen =>
    simp only [step] at h
    split_ifs at h with hc
    · cases h
      exact ⟨hm, by simp⟩
    · cases h
      exact ⟨hm.left.concat hc, by simp⟩
  | commentHyphen seen =>
    simp only [step] at h
    split_ifs at h with hc
    · cases h
      exact ⟨hm, by simp⟩
    · cases h
      have hnext := hm.concat hc
      exact ⟨by simpa [Apart] using hnext, by simp⟩
  | commentEnd seen =>
    simp only [step] at h
    split_ifs at h
    cases h
    have hseen : HyphensApart seen := hm.left
    exact ⟨trivial, by simpa [Token.Apart] using hseen⟩
  | text seen =>
    simp only [step] at h
    split_ifs at h
    · obtain ⟨ts, hts, heq⟩ := Option.map_eq_some_iff.mp h
      cases heq
      exact ⟨trivial, apart_flush hts⟩
    · cases h
      exact ⟨trivial, by simp⟩
  | startTag tag =>
    simp only [step] at h
    split_ifs at h
    · cases h
      exact ⟨trivial, by simp⟩
    · exact apart_stepInside h
  | inside tag attributes spaced => exact apart_stepInside h
  | value tag attributes key seen =>
    simp only [step] at h
    split_ifs at h
    · obtain ⟨v, _, heq⟩ := Option.map_eq_some_iff.mp h
      cases heq
      exact ⟨trivial, by simp⟩
    · cases h
      exact ⟨trivial, by simp⟩
  -- No mode that is left has a comment in it, nor do its tokens.
  | _ =>
    simp only [step] at h
    split_ifs at h
    all_goals
      cases h
      exact ⟨trivial, by simp [Token.Apart]⟩

theorem apart_steps {m next : Mode} {cs : List Char} {found : List Token} (hm : m.Apart)
    (h : m.steps cs = some (next, found)) : next.Apart ∧ ∀ t ∈ found, t.Apart := by
  induction cs generalizing m found with
  | nil =>
    cases h
    exact ⟨hm, by simp⟩
  | cons c cs ih =>
    rw [steps] at h
    cases hc : m.step c with
    | none => simp [hc] at h
    | some r =>
      obtain ⟨m', first⟩ := r
      obtain ⟨hm', hfirst⟩ := apart_step hm hc
      simp only [hc, Option.map_eq_some_iff, Prod.mk.injEq] at h
      obtain ⟨⟨last, rest⟩, hrun, rfl, rfl⟩ := h
      obtain ⟨hnext, hrest⟩ := ih hm' hrun
      exact ⟨hnext, List.forall_mem_append.mpr ⟨hfirst, hrest⟩⟩

end Mode

theorem apart_of_mem_tokens {s : String} {ts : List Token} (h : Token.ofText? s = some ts) :
    ∀ t ∈ ts, t.Apart := by
  obtain ⟨⟨m, found⟩, hrun, hfinish⟩ := Option.bind_eq_some_iff.mp h
  obtain ⟨_, hfound⟩ := Mode.apart_steps (m := .text []) trivial hrun
  cases m with
  | text seen =>
    obtain ⟨last, hlast, rfl⟩ := Option.map_eq_some_iff.mp hfinish
    exact List.forall_mem_append.mpr ⟨hfound, Mode.apart_flush hlast⟩
  | _ => cases hfinish

/-! ## Printed comments -/

theorem ReadsAs.ofText? {s : String} {ts : List Token} (h : ReadsAs s.toList ts) :
    Token.ofText? s = some ts := by
  obtain ⟨after, hafter, hrun⟩ := h [] rfl
  rw [Token.ofText?, hrun]
  simp [Mode.finish, Mode.flush, hafter]

theorem comment_eq_commentBody (level : Nat) (text : String) :
    comment level text = indent level ++ "<!--" ++ commentBody text ++ "-->\n" := by
  apply String.toList_inj.mp
  simp [comment, commentText, commentBody, String.toList_append]

theorem hyphensApart_commentBody_iff (text : String) :
    HyphensApart (commentBody text).toList ↔ ¬ ['-', '-', '-'] <:+: text.toList := by
  rw [commentBody, String.toList_ofList, ← hyphensApart_partHyphens_iff]
  constructor
  · intro h
    have htail : HyphensApart (partHyphens text.toList ++ [' ']) := List.IsChain.tail h
    exact htail.left
  · intro h
    have hblank : '-' ∉ [' '] := by decide
    have hend : HyphensApart (partHyphens text.toList ++ [' ']) := (h.concat (by decide)).left
    simpa using hyphensApart_append hblank hend

theorem ofText?_comment_iff (level : Nat) (text : String) :
    Token.ofText? (comment level text) = some [.comment (commentBody text)] ↔
      ¬ ['-', '-', '-'] <:+: text.toList := by
  constructor
  · intro h
    have hapart := apart_of_mem_tokens h (.comment (commentBody text)) List.mem_cons_self
    exact (hyphensApart_commentBody_iff text).mp hapart
  · intro h
    exact (readsAs_comment level ((hyphensApart_partHyphens_iff _).mpr h)).ofText?

end AppScaffold.Xml

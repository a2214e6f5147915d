import AppScaffold.Proofs.Layout.Element
import AppScaffold.Proofs.Xml.Comment

/-!
# Unknown kinds in a layout

The name of an unknown kind stands in a comment and in an attribute. The attribute is escaped; from
the comment the name can break out by a run of three hyphens, and by nothing else.
-/

set_option autoImplicit false

namespace AppScaffold.Render

open App (Component)
open Xml (Markup Mode Token)

def unknownText (kind : String) : String := "Unknown component type: " ++ kind

theorem hyphensApart_unknownText_iff (kind : String) :
    Xml.HyphensApart (Xml.partHyphens (unknownText kind).toList) ↔
      ¬ ['-', '-', '-'] <:+: kind.toList := by
  have hplain : '-' ∉ "Unknown component type: ".toList := by simp
  have htext : (unknownText kind).toList = "Unknown component type: ".toList ++ kind.toList :=
    String.toList_append
  rw [← Xml.hyphensApart_partHyphens_iff, htext, Xml.partHyphens_append hplain]
  exact ⟨Xml.HyphensApart.right, Xml.hyphensApart_append hplain⟩

theorem ofText?_unknown_iff (limit depth level : Nat) (kind : String) :
    Token.ofText? (Markup.printAll level (markup limit depth (.unknown kind))) =
        some [.comment (Xml.commentBody (unknownText kind)),
          .emptyTag "TextView" (attributes (.unknown kind))] ↔
      ¬ ['-', '-', '-'] <:+: kind.toList := by
  rw [← hyphensApart_unknownText_iff]
  constructor
  · intro h
    have hapart := Xml.apart_of_mem_tokens h _ List.mem_cons_self
    rw [Xml.hyphensApart_partHyphens_iff]
    exact (Xml.hyphensApart_commentBody_iff _).mp hapart
  · intro h
    have hread : Markup.ReadableAll (markup limit depth (.unknown kind)) :=
      ⟨h, readable_leaf (c := .unknown kind) rfl, trivial⟩
    exact (Markup.readsAs_printAll level _ hread).ofText?

/-- The line for a comment has no pair of hyphens between its marks, and reads as that one comment,
exactly when the text has no run of three hyphens; an unknown kind is one comment and one text view,
wherever it stands, exactly when its name has none. -/
theorem unknown_kind_adds_no_markup_iff (limit depth level : Nat) (text kind : String) :
    Xml.comment level text = Xml.indent level ++ "<!--" ++ Xml.commentBody text ++ "-->\n" ∧
      (¬ ['-', '-'] <:+: (Xml.commentBody text).toList ↔ ¬ ['-', '-', '-'] <:+: text.toList) ∧
      (Token.ofText? (Xml.comment level text) = some [.comment (Xml.commentBody text)] ↔
        ¬ ['-', '-', '-'] <:+: text.toList) ∧
      (Token.ofText? (Markup.printAll level (markup limit depth (.unknown kind))) =
          some [.comment (Xml.commentBody (unknownText kind)),
            .emptyTag "TextView" (attributes (.unknown kind))] ↔
        ¬ ['-', '-', '-'] <:+: kind.toList) := by
  refine ⟨Xml.comment_eq_commentBody level text, ?_, Xml.ofText?_comment_iff level text,
    ofText?_unknown_iff limit depth level kind⟩
  rw [← Xml.hyphensApart_iff]
  exact Xml.hyphensApart_commentBody_iff text

/-- A kind whose name ends the comment and goes on with an element of its own. -/
def buttonKind : String := "x---><Button/>"

theorem tokens_buttonKind : Token.ofText? (component defaultLimit 0 (.unknown buttonKind)) =
    some [.comment " Unknown component type: x- ", .emptyTag "Button" [], .text " -->\n",
      .emptyTag "TextView" (attributes (.unknown buttonKind))] := by
  have hcomment : (Mode.text []).steps (Xml.comment 0 (unknownText buttonKind)).toList =
      some (.text [' ', '-', '-', '>', '\n'],
        [.comment " Unknown component type: x- ", .emptyTag "Button" []]) := by
    decide
  have hleft : Mode.flush ([' ', '-', '-', '>', '\n'] ++ (Xml.indent 0).toList) =
      some [.text " -->\n"] := rfl
  have htag : Xml.isName "TextView" := rfl
  have hview := Xml.steps_leaf hleft htag
    (List.all_eq_true.mp (all_isName_attributes (.unknown buttonKind)))
  have hprint : (component defaultLimit 0 (.unknown buttonKind)).toList =
      (Xml.comment 0 (unknownText buttonKind)).toList ++
        (Xml.startTag 0 "TextView" (attributes (.unknown buttonKind)) ++
          Xml.selfClose 0).toList := by
    rw [component, markup, Markup.printAll, Markup.printAll, Markup.printAll, String.append_empty,
      String.toList_append]
    rfl
  rw [Token.ofText?, hprint, Mode.steps_append hcomment hview]
  rfl

theorem unknown_kind_adds_button :
    ¬ (∀ (level : Nat) (text : String), ∃ body,
        Xml.comment level text = Xml.indent level ++ "<!--" ++ body ++ "-->\n" ∧
          ¬ ['-', '-'] <:+: body.toList) ∧
      ¬ ∀ kind : String, ∃ body attributes,
        Token.ofText? (component defaultLimit 0 (.unknown kind)) =
          some [.comment body, .emptyTag "TextView" attributes] := by
  constructor
  · intro h
    obtain ⟨body, heq, hbody⟩ := h 0 buttonKind
    rw [Xml.comment_eq_commentBody] at heq
    obtain rfl : Xml.commentBody buttonKind = body := by
      apply String.toList_inj.mp
      simpa using congrArg String.toList heq
    exact hbody (by decide)
  · intro h
    obtain ⟨body, attributes, htokens⟩ := h buttonKind
    rw [tokens_buttonKind] at htokens
    simp at htokens

end AppScaffold.Render

import AppScaffold.Proofs.Layout.Nesting
import AppScaffold.Render.Layout

/-!
# What layouts leave out

A layout leaves a component out when it is the same document whatever stands in the place of this
component. A place in a list of component trees is the list with a hole, so that nothing here
depends on how components are counted. Main statement: `omits_iff`, a layout leaves something out
exactly when its screen is deeper than the limit in force.
-/

set_option autoImplicit false

namespace AppScaffold.App

/-- A place for one component in a list of component trees, given by what is around it. -/
inductive Site where
  | here (before after : List Component)
  | inside (before : List Component) (props : ContainerProps) (site : Site)
      (after : List Component)

namespace Site

def fill (c : Component) : Site → List Component
  | here before after => before ++ c :: after
  | inside before props site after => before ++ .container props (site.fill c) :: after

def depth : Site → Nat
  | here _ _ => 1
  | inside _ _ site _ => site.depth + 1

theorem fill_ne_nil (c : Component) (site : Site) : site.fill c ≠ [] := by
  cases site <;> simp [fill]

theorem depth_pos (site : Site) : 0 < site.depth := by
  cases site <;> simp [depth]

end Site

namespace Component

theorem depthAll_append (xs ys : List Component) :
    depthAll (xs ++ ys) = max (depthAll xs) (depthAll ys) := by
  induction xs with
  | nil => simp [depthAll]
  | cons c xs ih => rw [List.cons_append, depthAll, depthAll, ih, Nat.max_assoc]

theorem exists_deeper {n : Nat} {cs : List Component} (h : n < depthAll cs) :
    ∃ before c after, cs = before ++ c :: after ∧ n < c.depth := by
  induction cs with
  | nil => simp [depthAll] at h
  | cons c rest ih =>
    by_cases hc : n < c.depth
    · exact ⟨[], c, rest, rfl, hc⟩
    · have hrest : n < depthAll rest := by
        rw [depthAll] at h
        omega
      obtain ⟨before, d, after, rfl, hd⟩ := ih hrest
      exact ⟨c :: before, d, after, rfl, hd⟩

theorem exists_container {n : Nat} {c : Component} (h : n + 1 < c.depth) :
    ∃ props children, c = .container props children ∧ n < depthAll children := by
  cases c with
  | container props children =>
    rw [depth] at h
    exact ⟨props, children, rfl, by omega⟩
  | _ => simp [depth] at h

end Component

namespace Site

theorem depth_le_depthAll_fill (c : Component) :
    ∀ site : Site, site.depth ≤ Component.depthAll (site.fill c)
  | here before after => by
    have hpos := Component.depth_pos c
    rw [fill, depth, Component.depthAll_append, Component.depthAll]
    omega
  | inside before props site after => by
    have hinner := depth_le_depthAll_fill c site
    rw [fill, depth, Component.depthAll_append, Component.depthAll, Component.depth]
    omega

/-- Every depth up to the deepest one is the depth of some component. -/
theorem exists_fill_eq {n : Nat} : ∀ {cs : List Component}, n < Component.depthAll cs →
    ∃ (site : Site) (c : Component), cs = site.fill c ∧ site.depth = n + 1 := by
  induction n with
  | zero =>
    intro cs h
    obtain ⟨before, c, after, rfl, -⟩ := Component.exists_deeper h
    exact ⟨here before after, c, rfl, rfl⟩
  | succ n ih =>
    intro cs h
    obtain ⟨before, _, after, rfl, hdeep⟩ := Component.exists_deeper h
    obtain ⟨props, children, rfl, hchildren⟩ := Component.exists_container hdeep
    obtain ⟨site, c, rfl, hsite⟩ := ih hchildren
    exact ⟨inside before props site after, c, rfl, by rw [depth, hsite]⟩

end Site

end AppScaffold.App

namespace AppScaffold.Render

open App (Component Screen Site)
open Xml (Markup)

theorem markupAll_append (limit depth : Nat) (xs ys : List Component) :
    markupAll limit depth (xs ++ ys) = markupAll limit depth xs ++ markupAll limit depth ys := by
  induction xs with
  | nil => rfl
  | cons c xs ih => rw [List.cons_append, markupAll, markupAll, ih, List.append_assoc]

/-! ## Beyond the limit -/

theorem markupAll_fill_beyond {limit : Nat} (c d : Component) :
    ∀ (site : Site) (depth : Nat), depth ≤ limit → limit + 1 < depth + site.depth →
      markupAll limit depth (site.fill c) = markupAll limit depth (site.fill d)
  | .here before after, depth, hshown, hbeyond => by
    rw [Site.depth] at hbeyond
    omega
  | .inside before props site after, depth, hshown, hbeyond => by
    rw [Site.depth] at hbeyond
    have hbody : (if limit ≤ depth then if (site.fill c).isEmpty then [] else [omission limit]
        else markupAll limit (depth + 1) (site.fill c)) =
        if limit ≤ depth then if (site.fill d).isEmpty then [] else [omission limit]
        else markupAll limit (depth + 1) (site.fill d) := by
      split
      · simp [List.isEmpty_iff, Site.fill_ne_nil]
      · exact markupAll_fill_beyond c d site (depth + 1) (by omega) (by omega)
    simp only [Site.fill, markupAll_append, markupAll, markup, hbody]

/-! ## Within the limit -/

/-- The text of a component that stands within the limit is part of the whole text, between two
parts that do not depend on it. -/
theorem print_fill_within (limit : Nat) : ∀ (site : Site) (level depth : Nat),
    depth + site.depth ≤ limit + 1 →
      ∃ (inner place : Nat) (front back : String), ∀ c : Component,
        Markup.printAll level (markupAll limit depth (site.fill c)) =
          front ++ (Markup.printAll inner (markup limit place c) ++ back)
  | .here before after, level, depth, _ => by
    refine ⟨level, depth, Markup.printAll level (markupAll limit depth before),
      Markup.printAll level (markupAll limit depth after), fun c => ?_⟩
    rw [Site.fill, markupAll_append, markupAll, printAll_append, printAll_append]
  | .inside before props site after, level, depth, h => by
    have hpos := site.depth_pos
    rw [Site.depth] at h
    obtain ⟨inner, place, front, back, htext⟩ :=
      print_fill_within limit site (level + 1) (depth + 1) (by omega)
    refine ⟨inner, place,
      Markup.printAll level (markupAll limit depth before) ++
        (Xml.startTag level "LinearLayout" (containerAttributes props) ++
          Xml.openBody level) ++ front,
      back ++ Xml.closeTag level "LinearLayout" ++
        Markup.printAll level (markupAll limit depth after), fun c => ?_⟩
    have hopen : ¬ limit ≤ depth := by omega
    rw [Site.fill, markupAll_append, markupAll, markup, if_neg hopen, printAll_append,
      printAll_append, Markup.printAll, Markup.print, Markup.printAll, htext c]
    simp only [String.append_assoc, String.append_empty]

def label (content : String) : Component := .text { content := some content }

theorem print_label_ne (limit level depth : Nat) :
    Markup.printAll level (markup limit depth (label "a")) ≠
      Markup.printAll level (markup limit depth (label "ab")) := by
  intro heq
  have hlength := congrArg String.length heq
  simp [label, markup, Markup.printAll, Markup.print, textAttributes, size, Xml.startTag,
    Xml.android, Xml.android?, App.TextProps.isBold, String.length_append] at hlength
  exact absurd hlength (by decide)

/-! ## Whole layouts -/

/-- The layout is the same whatever stands in the place of one of the components. -/
def Omits (requested : Nat) (appName : String) (s : Screen) : Prop :=
  ∃ (site : Site) (c : Component), s.components = site.fill c ∧
    ∀ other, layout requested appName { s with components := site.fill other } =
      layout requested appName s

theorem layout_fill (requested : Nat) (appName : String) (s : Screen) (site : Site)
    (c : Component) :
    layout requested appName { s with components := site.fill c } =
      layoutStart ++
        Markup.printAll 1 (markupAll (nestingLimit requested) 1 (site.fill c)) ++ layoutEnd := by
  rw [layout, screenBody, if_neg]
  simp [List.isEmpty_iff, site.fill_ne_nil]

theorem omits_iff (requested : Nat) (appName : String) (s : Screen) :
    Omits requested appName s ↔ nestingLimit requested < s.depth := by
  constructor
  · rintro ⟨site, c, hc, hsame⟩
    have hdepth : site.depth ≤ s.depth := by
      rw [Screen.depth, hc]
      exact site.depth_le_depthAll_fill c
    by_contra hle
    obtain ⟨inner, place, front, back, htext⟩ :=
      print_fill_within (nestingLimit requested) site 1 1 (by omega)
    have heq := (hsame (label "a")).trans (hsame (label "ab")).symm
    rw [layout_fill, layout_fill, htext, htext, String.append_left_inj, String.append_right_inj,
      String.append_right_inj, String.append_left_inj] at heq
    exact print_label_ne _ _ _ heq
  · intro hdeep
    obtain ⟨site, c, hc, hsite⟩ := Site.exists_fill_eq hdeep
    refine ⟨site, c, hc, fun other => ?_⟩
    have hself : layout requested appName s =
        layout requested appName { s with components := site.fill c } := by rw [← hc]
    rw [hself, layout_fill, layout_fill,
      markupAll_fill_beyond other c site 1 (one_le_nestingLimit requested) (by omega)]

end AppScaffold.Render

import AppScaffold.Proofs.Layout.Marker

/-!
# The nesting limit

What a limit leaves out of the text of a component tree, and what it leaves in. The text under a
limit is a frame of kept text with a gap for the children of every container that stands at the
limit; the limit fills each gap with a marker, and every larger limit fills it with the children.
Main statement: `component_cut_at_limit`.
-/

set_option autoImplicit false

namespace AppScaffold.App.Component

mutual

/-- The children of the containers at a depth, in document order; empty containers do not count.
The component itself is at depth one. -/
def groupsAt (n : Nat) : Component → List (List Component)
  | .container _ children =>
    if n = 1 then if children.isEmpty then [] else [children] else groupsAtAll (n - 1) children
  | _ => []

def groupsAtAll (n : Nat) : List Component → List (List Component)
  | [] => []
  | c :: rest => c.groupsAt n ++ groupsAtAll n rest

end

mutual

/-- The tree with other children in every container at a depth that has some. -/
def regroup (f : List Component → List Component) (n : Nat) : Component → Component
  | .container p children =>
    .container p <|
      if n = 1 then if children.isEmpty then [] else f children
      else regroupAll f (n - 1) children
  | c => c

def regroupAll (f : List Component → List Component) (n : Nat) : List Component → List Component
  | [] => []
  | c :: rest => c.regroup f n :: regroupAll f n rest

end

mutual

theorem groupsAt_eq_nil_iff : ∀ (n : Nat) (c : Component), 1 ≤ n →
    (c.groupsAt n = [] ↔ c.depth ≤ n)
  | n, .container _ children, hn => by
    rw [groupsAt, depth]
    split
    · cases children with
      | nil => simp [depthAll, hn]
      | cons c rest =>
        have hpos := depth_pos c
        refine ⟨fun hnil => absurd hnil (by simp), fun hdepth => ?_⟩
        simp only [depthAll] at hdepth
        omega
    · rw [groupsAtAll_eq_nil_iff (n - 1) children (by omega)]
      omega
  | _, .text _, hn | _, .button _, hn | _, .input _, hn | _, .image _, hn | _, .list _, hn
  | _, .webview _, hn | _, .navigation _, hn | _, .unknown _, hn => ⟨fun _ => hn, fun _ => rfl⟩

theorem groupsAtAll_eq_nil_iff : ∀ (n : Nat) (cs : List Component), 1 ≤ n →
    (groupsAtAll n cs = [] ↔ depthAll cs ≤ n)
  | _, [], _ => by simp [groupsAtAll, depthAll]
  | n, c :: rest, hn => by
    rw [groupsAtAll, List.append_eq_nil_iff, groupsAt_eq_nil_iff n c hn,
      groupsAtAll_eq_nil_iff n rest hn, depthAll]
    omega

end

end AppScaffold.App.Component

namespace AppScaffold.Render

open App (Component)
open Xml (Attribute Markup)

/-! ## Frames -/

/-- A stretch of text, or the gap that stands for the children of a container. -/
inductive Piece where
  | kept (text : String)
  | gap (children : List Component)

namespace Piece

def text (fill : List Component → String) : Piece → String
  | kept t => t
  | gap children => fill children

def children? : Piece → Option (List Component)
  | kept _ => none
  | gap children => some children

end Piece

def filled (fill : List Component → String) (frame : List Piece) : String :=
  String.join (frame.map (Piece.text fill))

def gaps (frame : List Piece) : List (List Component) := frame.filterMap Piece.children?

theorem filled_append (fill : List Component → String) (ps qs : List Piece) :
    filled fill (ps ++ qs) = filled fill ps ++ filled fill qs := by
  simp [filled]

theorem filled_cons (fill : List Component → String) (p : Piece) (ps : List Piece) :
    filled fill (p :: ps) = p.text fill ++ filled fill ps := by
  simp [filled]

theorem filled_nil (fill : List Component → String) : filled fill [] = "" := rfl

mutual

/-- The frame of a component with `n` levels left, itself included. -/
def frame (level n : Nat) : Component → List Piece
  | .container p children =>
    .kept (Xml.startTag level "LinearLayout" (containerAttributes p) ++ Xml.openBody level) ::
      ((if n = 1 then if children.isEmpty then [] else [.gap children]
        else frameAll (level + 1) (n - 1) children) ++
      [.kept (Xml.closeTag level "LinearLayout")])
  | c => [.kept (Markup.printAll level (markup 1 1 c))]

def frameAll (level n : Nat) : List Component → List Piece
  | [] => []
  | c :: rest => frame level n c ++ frameAll level n rest

end

theorem printAll_append (level : Nat) (ms ns : List Markup) :
    Markup.printAll level (ms ++ ns) = Markup.printAll level ms ++ Markup.printAll level ns := by
  induction ms with
  | nil => simp [Markup.printAll]
  | cons m ms ih => simp [Markup.printAll, ih, String.append_assoc]

/-- What stands in a gap at depth `limit` under a limit that is as large or larger. -/
def gapText (limit actual level : Nat) (children : List Component) : String :=
  Markup.printAll level
    (if actual = limit then [omission limit] else markupAll actual (limit + 1) children)

mutual

theorem print_markup_eq_filled {limit actual : Nat} (h : limit ≤ actual) :
    ∀ (c : Component) (level depth n : Nat), limit + 1 = depth + n → 1 ≤ n →
      Markup.printAll level (markup actual depth c) =
        filled (gapText limit actual (level + n)) (frame level n c)
  | .container p children, level, depth, n, hdepth, hn => by
    have hbody : Markup.printAll (level + 1)
        (if actual ≤ depth then if children.isEmpty then [] else [omission actual]
          else markupAll actual (depth + 1) children) =
        filled (gapText limit actual (level + n))
          (if n = 1 then if children.isEmpty then [] else [.gap children]
            else frameAll (level + 1) (n - 1) children) := by
      by_cases hn1 : n = 1
      · have hlimit : depth = limit := by omega
        subst hn1 hlimit
        cases children with
        | nil => simp [markupAll, Markup.printAll, filled_nil]
        | cons c rest =>
          by_cases heq : actual = depth
          · simp [heq, filled_cons, filled_nil, Piece.text, gapText]
          · have hlt : ¬ actual ≤ depth := by omega
            simp [heq, hlt, filled_cons, filled_nil, Piece.text, gapText]
      · rw [if_neg hn1, if_neg (by omega),
          print_markupAll_eq_filled h children (level + 1) (depth + 1) (n - 1) (by omega)
            (by omega)]
        have hlevel : level + 1 + (n - 1) = level + n := by omega
        rw [hlevel]
    rw [markup, Markup.printAll, Markup.print, Markup.printAll, hbody, frame, filled_cons,
      filled_append, filled_cons, filled_nil]
    simp [Piece.text, String.append_assoc]
  | .text _, _, _, _, _, _ | .button _, _, _, _, _, _ | .input _, _, _, _, _, _
  | .image _, _, _, _, _, _ | .list _, _, _, _, _, _ | .webview _, _, _, _, _, _
  | .navigation _, _, _, _, _, _ | .unknown _, _, _, _, _, _ => by
    simp [frame, markup, filled_cons, filled_nil, Piece.text]

theorem print_markupAll_eq_filled {limit actual : Nat} (h : limit ≤ actual) :
    ∀ (cs : List Component) (level depth n : Nat), limit + 1 = depth + n → 1 ≤ n →
      Markup.printAll level (markupAll actual depth cs) =
        filled (gapText limit actual (level + n)) (frameAll level n cs)
  | [], _, _, _, _, _ => rfl
  | c :: rest, level, depth, n, hdepth, hn => by
    rw [markupAll, frameAll, printAll_append, filled_append,
      print_markup_eq_filled h c level depth n hdepth hn,
      print_markupAll_eq_filled h rest level depth n hdepth hn]

end

/-! ## Gaps -/

theorem gaps_append (ps qs : List Piece) : gaps (ps ++ qs) = gaps ps ++ gaps qs :=
  List.filterMap_append

theorem gaps_kept (t : String) (ps : List Piece) : gaps (.kept t :: ps) = gaps ps := rfl

mutual

theorem gaps_frame : ∀ (c : Component) (level n : Nat), gaps (frame level n c) = c.groupsAt n
  | .container p children, level, n => by
    have hbody : gaps (if n = 1 then if children.isEmpty then [] else [.gap children]
        else frameAll (level + 1) (n - 1) children) =
        if n = 1 then if children.isEmpty then [] else [children]
        else Component.groupsAtAll (n - 1) children := by
      split
      · cases children <;> rfl
      · exact gaps_frameAll children (level + 1) (n - 1)
    have hclose : gaps [.kept (Xml.closeTag level "LinearLayout")] = [] := rfl
    rw [frame, gaps_kept, gaps_append, hbody, hclose, List.append_nil, Component.groupsAt]
  | .text _, _, _ | .button _, _, _ | .input _, _, _ | .image _, _, _ | .list _, _, _
  | .webview _, _, _ | .navigation _, _, _ | .unknown _, _, _ => rfl

theorem gaps_frameAll : ∀ (cs : List Component) (level n : Nat),
    gaps (frameAll level n cs) = Component.groupsAtAll n cs
  | [], _, _ => rfl
  | c :: rest, level, n => by
    rw [frameAll, gaps_append, gaps_frame c level n, gaps_frameAll rest level n,
      Component.groupsAtAll]

end

def Piece.regroup (f : List Component → List Component) : Piece → Piece
  | kept t => kept t
  | gap children => gap (f children)

theorem filled_regroup (f : List Component → List Component) (marker : String)
    (ps : List Piece) :
    filled (fun _ => marker) (ps.map (Piece.regroup f)) = filled (fun _ => marker) ps := by
  unfold filled
  rw [List.map_map]
  congr 1
  apply List.map_congr_left
  intro p _
  cases p <;> rfl

mutual

theorem frame_regroup {f : List Component → List Component} (hf : ∀ cs, f cs ≠ []) :
    ∀ (c : Component) (level n : Nat),
      frame level n (c.regroup f n) = (frame level n c).map (Piece.regroup f)
  | .container p children, level, n => by
    rw [Component.regroup, frame, frame, List.map_cons, List.map_append]
    congr 2
    by_cases hn : n = 1
    · cases children with
      | nil => simp [hn]
      | cons c rest => simp [hn, hf, Piece.regroup]
    · simp only [if_neg hn]
      exact frameAll_regroup hf children (level + 1) (n - 1)
  | .text _, _, _ | .button _, _, _ | .input _, _, _ | .image _, _, _ | .list _, _, _
  | .webview _, _, _ | .navigation _, _, _ | .unknown _, _, _ => rfl

theorem frameAll_regroup {f : List Component → List Component} (hf : ∀ cs, f cs ≠ []) :
    ∀ (cs : List Component) (level n : Nat),
      frameAll level n (Component.regroupAll f n cs) =
        (frameAll level n cs).map (Piece.regroup f)
  | [], _, _ => rfl
  | c :: rest, level, n => by
    rw [Component.regroupAll, frameAll, frameAll, List.map_append, frame_regroup hf c level n,
      frameAll_regroup hf rest level n]

end

/-! ## Markers in a frame -/

namespace Piece

def Unmarked : Piece → Prop
  | kept t => Render.Unmarked t
  | gap _ => True

end Piece

theorem unmarked_print_leaf (level : Nat) {c : Component} {tag : String} (htag : Xml.isName tag) :
    Unmarked (Markup.printAll level [.leaf tag (attributes c)]) :=
  (unmarked_leaf level htag (all_isName_attributes c)).append unmarked_empty

mutual

theorem unmarked_frame : ∀ (c : Component) (level n : Nat), ∀ p ∈ frame level n c, p.Unmarked
  | .container q children, level, n => by
    intro p hp
    rw [frame, List.mem_cons, List.mem_append, List.mem_singleton] at hp
    rcases hp with rfl | hp | rfl
    · exact unmarked_opening level rfl (all_isName_attributes (.container q children))
    · split at hp
      · cases children with
        | nil => simp at hp
        | cons c rest =>
          obtain rfl := List.mem_singleton.mp hp
          trivial
      · exact unmarked_frameAll children (level + 1) (n - 1) p hp
    · exact unmarked_closeTag level rfl
  | .text q, level, _ =>
    List.forall_mem_singleton.mpr (unmarked_print_leaf level (c := .text q) rfl)
  | .button q, level, _ =>
    List.forall_mem_singleton.mpr (unmarked_print_leaf level (c := .button q) rfl)
  | .input q, level, _ =>
    List.forall_mem_singleton.mpr (unmarked_print_leaf level (c := .input q) rfl)
  | .image q, level, _ =>
    List.forall_mem_singleton.mpr (unmarked_print_leaf level (c := .image q) rfl)
  | .list q, level, _ =>
    List.forall_mem_singleton.mpr (unmarked_print_leaf level (c := .list q) rfl)
  | .webview q, level, _ =>
    List.forall_mem_singleton.mpr (unmarked_print_leaf level (c := .webview q) rfl)
  | .navigation q, level, _ =>
    List.forall_mem_singleton.mpr <|
      (unmarked_group level rfl (all_isName_attributes (.navigation q))
        (unmarked_navButtons (level + 1) 0 q.effective)).append unmarked_empty
  | .unknown kind, level, _ =>
    List.forall_mem_singleton.mpr <|
      (unmarked_unknown level kind).append (unmarked_print_leaf level (c := .unknown kind) rfl)

theorem unmarked_frameAll : ∀ (cs : List Component) (level n : Nat),
    ∀ p ∈ frameAll level n cs, p.Unmarked
  | [], _, _ => by simp [frameAll]
  | c :: rest, level, n => by
    intro p hp
    rw [frameAll, List.mem_append] at hp
    exact hp.elim (unmarked_frame c level n p) (unmarked_frameAll rest level n p)

end

/-- A frame shows one marker for each gap when the gaps are filled with one marker each. -/
theorem markers_filled {marker : String} (hlines : Text.WholeLines marker.toList)
    (hmarker : markers marker = 1) {ps : List Piece} (h : ∀ p ∈ ps, p.Unmarked) :
    markers (filled (fun _ => marker) ps) = (gaps ps).length := by
  induction ps with
  | nil => exact unmarked_empty.markers_eq
  | cons p ps ih =>
    obtain ⟨hp, hps⟩ := List.forall_mem_cons.mp h
    rw [filled_cons]
    cases p with
    | kept t =>
      rw [gaps_kept, ← ih hps]
      change markers (t ++ _) = _
      rw [markers_append hp.wholeLines, hp.markers_eq, Nat.zero_add]
    | gap children =>
      change markers (marker ++ _) = (gaps ps).length + 1
      rw [markers_append hlines, hmarker, ih hps, Nat.add_comm]

theorem filled_eq_of_gaps_eq_nil {ps : List Piece} (h : gaps ps = [])
    (fill fill' : List Component → String) : filled fill ps = filled fill' ps := by
  unfold filled
  congr 1
  apply List.map_congr_left
  intro p hp
  cases p with
  | kept t => rfl
  | gap children =>
    have hnone := List.filterMap_eq_nil_iff.mp h _ hp
    simp [Piece.children?] at hnone

/-! ## The cut -/

theorem component_eq_filled {limit requested : Nat} (hlimit : 1 ≤ limit)
    (h : limit ≤ nestingLimit requested) (level : Nat) (c : Component) :
    component requested level c =
      filled (gapText limit (nestingLimit requested) (level + limit)) (frame level limit c) :=
  print_markup_eq_filled h c level 1 limit (by omega) hlimit

theorem gapText_self (limit level : Nat) :
    gapText limit limit level = fun _ => Xml.comment level (omissionText limit) := by
  funext children
  rw [gapText, if_pos rfl]
  exact String.append_empty

theorem one_le_nestingLimit (requested : Nat) : 1 ≤ nestingLimit requested :=
  Nat.le_max_right requested 1

theorem component_at_limit (requested level : Nat) (c : Component) :
    component requested level c =
      filled (fun _ => Xml.comment (level + nestingLimit requested)
        (omissionText (nestingLimit requested))) (frame level (nestingLimit requested) c) := by
  rw [component_eq_filled (one_le_nestingLimit requested) le_rfl, gapText_self]

theorem component_above_limit {limit larger : Nat} (hlimit : 1 ≤ limit) (h : limit < larger)
    (level : Nat) (c : Component) :
    component larger level c =
      filled (fun children => Markup.printAll (level + limit)
        (markupAll larger (limit + 1) children)) (frame level limit c) := by
  have hlarger : nestingLimit larger = larger := Nat.max_eq_left (by omega)
  rw [component_eq_filled hlimit (hlarger.symm ▸ h.le), hlarger]
  congr 1
  funext children
  rw [gapText, if_neg (by omega)]

theorem component_of_depth_le {requested : Nat} {c : Component}
    (h : c.depth ≤ nestingLimit requested) (level : Nat) :
    component requested level c = filled (fun _ => "") (frame level c.depth c) := by
  have hgaps : gaps (frame level c.depth c) = [] := by
    rw [gaps_frame, Component.groupsAt_eq_nil_iff _ c c.depth_pos]
  rw [component_eq_filled c.depth_pos h]
  exact filled_eq_of_gaps_eq_nil hgaps _ _

theorem markers_component (requested level : Nat) (c : Component) :
    markers (component requested level c) = (c.groupsAt (nestingLimit requested)).length := by
  rw [component_at_limit, markers_filled (wholeLines_comment _ _) (markers_omission _ _)
    (unmarked_frame c level _), gaps_frame]

/-- Under a limit, the children of each container at the limit give way to one marker, and
everything else is as under any larger limit; what the children were does not show. -/
theorem component_cut_at_limit (requested level : Nat) (c : Component) :
    let limit := max requested 1
    let marker := Xml.comment (level + limit)
      ("Nesting limit of " ++ Nat.repr limit ++ " reached; children omitted")
    (∃ ps : List Piece,
      gaps ps = c.groupsAt limit ∧
      (∀ t, .kept t ∈ ps → markers t = 0) ∧
      component requested level c = filled (fun _ => marker) ps ∧
      ∀ larger, limit < larger →
        component larger level c =
          filled (fun children => Markup.printAll (level + limit)
            (markupAll larger (limit + 1) children)) ps) ∧
    (∀ f : List Component → List Component, (∀ children, f children ≠ []) →
      component requested level (c.regroup f limit) = component requested level c) ∧
    markers (component requested level c) = (c.groupsAt limit).length ∧
    (c.depth ≤ limit →
      markers (component requested level c) = 0 ∧
      ∀ other, c.depth ≤ max other 1 → component other level c = component requested level c) ∧
    (limit < c.depth → 1 ≤ markers (component requested level c)) := by
  intro limit marker
  have hlimit : 1 ≤ limit := one_le_nestingLimit requested
  have hmarkers : markers (component requested level c) = (c.groupsAt limit).length :=
    markers_component requested level c
  refine ⟨⟨frame level limit c, gaps_frame c level limit, ?_, component_at_limit requested level c,
    fun larger h => component_above_limit hlimit h level c⟩, ?_, hmarkers, ?_, ?_⟩
  · intro t ht
    exact (unmarked_frame c level limit _ ht).markers_eq
  · intro f hf
    rw [component_at_limit, component_at_limit]
    change filled _ (frame level limit (c.regroup f limit)) = filled _ (frame level limit c)
    rw [frame_regroup hf, filled_regroup]
  · intro hdepth
    refine ⟨?_, fun other hother => ?_⟩
    · rw [hmarkers, (Component.groupsAt_eq_nil_iff _ c hlimit).mpr hdepth, List.length_nil]
    · rw [component_of_depth_le hother, component_of_depth_le hdepth]
  · intro hdepth
    rw [hmarkers]
    apply List.length_pos_iff.mpr
    intro hnil
    have hle := (Component.groupsAt_eq_nil_iff _ c hlimit).mp hnil
    omega

end AppScaffold.Render

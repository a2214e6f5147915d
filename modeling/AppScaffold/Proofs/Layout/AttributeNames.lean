import AppScaffold.Proofs.Layout.Element
import AppScaffold.Proofs.Layout.Nesting
import AppScaffold.Proofs.Xml.Comment
import Mathlib.Data.List.Nodup

/-!
# Names of attributes in a layout

A start tag may carry every attribute name at most once. The start tags of a component tree are
those of the components above the nesting limit, in document order, and only an image can repeat a
name: a given width or height stands behind the usual one. Main statement:
`attribute_names_once_iff`.
-/

set_option autoImplicit false

/-! ## The components that are shown -/

namespace AppScaffold.App.Component

mutual

/-- The components of a tree down to depth `n`, in document order; the first is the tree itself. -/
def shown (n : Nat) : Component → List Component
  | .container p children =>
    .container p children :: if n ≤ 1 then [] else shownAll (n - 1) children
  | c => [c]

def shownAll (n : Nat) : List Component → List Component
  | [] => []
  | c :: rest => c.shown n ++ shownAll n rest

end

end AppScaffold.App.Component

/-! ## Start tags -/

namespace AppScaffold.Xml

def NamesOnce (attributes : List Attribute) : Prop := (attributes.map Attribute.name).Nodup

def Token.attributes? : Token → Option (List Attribute)
  | .startTag _ attributes => some attributes
  | .emptyTag _ attributes => some attributes
  | _ => none

mutual

def Markup.startTags : Markup → List (List Attribute)
  | .comment _ => []
  | .leaf _ attributes => [attributes]
  | .group _ attributes body => attributes :: Markup.startTagsAll body

def Markup.startTagsAll : List Markup → List (List Attribute)
  | [] => []
  | m :: rest => m.startTags ++ Markup.startTagsAll rest

end

theorem Markup.startTagsAll_append (ms ns : List Markup) :
    Markup.startTagsAll (ms ++ ns) = Markup.startTagsAll ms ++ Markup.startTagsAll ns := by
  induction ms with
  | nil => rfl
  | cons m ms ih => rw [List.cons_append, Markup.startTagsAll, Markup.startTagsAll, ih,
      List.append_assoc]

mutual

theorem Markup.attributes?_tokens :
    ∀ m : Markup, m.tokens.filterMap Token.attributes? = m.startTags
  | .comment _ => rfl
  | .leaf _ _ => rfl
  | .group tag attributes body => by
    have hbody := Markup.attributes?_tokensAll body
    simp [Markup.tokens, Markup.startTags, Token.attributes?, hbody]

theorem Markup.attributes?_tokensAll :
    ∀ ms : List Markup, (Markup.tokensAll ms).filterMap Token.attributes? = Markup.startTagsAll ms
  | [] => rfl
  | m :: rest => by
    rw [Markup.tokensAll, List.filterMap_append, m.attributes?_tokens,
      Markup.attributes?_tokensAll rest, Markup.startTagsAll]

end

theorem sublist_android? (name : String) (value : Option String) :
    ((android? name value).map Attribute.name).Sublist ["android:" ++ name] := by
  cases value with
  | none => exact List.nil_sublist _
  | some v => exact List.Sublist.refl _

/-- Attributes are apart when their names are taken, in order, from names that are apart. -/
theorem namesOnce_of_sublist {attributes : List Attribute} {keys : List String}
    (h : (attributes.map Attribute.name).Sublist (keys.map ("android:" ++ ·)))
    (hkeys : keys.Nodup) : NamesOnce attributes :=
  h.nodup (List.Nodup.map (fun _ _ heq => (String.append_right_inj _).mp heq) hkeys)

theorem not_namesOnce_append {name : String} {as bs : List Attribute}
    (ha : name ∈ as.map Attribute.name) (hb : name ∈ bs.map Attribute.name) :
    ¬ NamesOnce (as ++ bs) := by
  intro h
  rw [NamesOnce, List.map_append] at h
  exact List.disjoint_of_nodup_append h ha hb

end AppScaffold.Xml

namespace AppScaffold.Render

open App (Component NavItem)
open Xml (Attribute Markup NamesOnce Token android android?)

def ownTags : Component → List (List Attribute)
  | .navigation p => navigationAttributes :: Markup.startTagsAll (navButtons 0 p.effective)
  | c => [attributes c]

mutual

theorem startTagsAll_markup (limit : Nat) : ∀ (depth n : Nat) (c : Component),
    limit + 1 = depth + n → 1 ≤ n →
      Markup.startTagsAll (markup limit depth c) = (c.shown n).flatMap ownTags
  | depth, n, .container p children, hdepth, hn => by
    have hbody : Markup.startTagsAll
        (if limit ≤ depth then if children.isEmpty then [] else [omission limit]
          else markupAll limit (depth + 1) children) =
        (if n ≤ 1 then [] else Component.shownAll (n - 1) children).flatMap ownTags := by
      by_cases hlast : n ≤ 1
      · rw [if_pos hlast, if_pos (by omega)]
        split <;> rfl
      · rw [if_neg hlast, if_neg (by omega)]
        exact startTagsAll_markupAll limit (depth + 1) (n - 1) children (by omega) (by omega)
    simp only [markup, Markup.startTagsAll, Markup.startTags, List.append_nil, hbody,
      Component.shown, List.flatMap_cons]
    rfl
  | _, _, .text _, _, _ | _, _, .button _, _, _ | _, _, .input _, _, _ | _, _, .image _, _, _
  | _, _, .list _, _, _ | _, _, .webview _, _, _ | _, _, .unknown _, _, _ => rfl
  | _, _, .navigation p, _, _ => by
    simp [markup, Markup.startTagsAll, Markup.startTags, Component.shown, ownTags]

theorem startTagsAll_markupAll (limit : Nat) : ∀ (depth n : Nat) (cs : List Component),
    limit + 1 = depth + n → 1 ≤ n →
      Markup.startTagsAll (markupAll limit depth cs) = (Component.shownAll n cs).flatMap ownTags
  | _, _, [], _, _ => rfl
  | depth, n, c :: rest, hdepth, hn => by
    rw [markupAll, Markup.startTagsAll_append, startTagsAll_markup limit depth n c hdepth hn,
      startTagsAll_markupAll limit depth n rest hdepth hn, Component.shownAll,
      List.flatMap_append]

end

/-! ## Names of one start tag -/

/-- The names an element may use, in the order in which it uses them. -/
def ownKeys : Component → List String
  | .text _ => ["layout_width", "layout_height", "text", "gravity", "textSize", "textStyle",
      "textColor", "layout_margin"]
  | .button _ => ["layout_width", "layout_height", "text", "backgroundTint", "textColor",
      "layout_margin"]
  | .container _ _ => ["layout_width", "layout_height", "orientation", "padding", "background",
      "layout_margin"]
  | .input _ => ["layout_width", "layout_height", "hint", "inputType", "layout_margin"]
  | .image _ => ["layout_width", "layout_height", "layout_gravity", "src", "contentDescription",
      "layout_margin"]
  | .list _ => ["layout_width", "layout_height", "layout_margin"]
  | .webview _ => ["layout_width", "layout_height", "layout_margin"]
  | .navigation _ => ["layout_width", "layout_height", "orientation", "background", "padding"]
  | .unknown _ => ["layout_width", "layout_height", "text"]

theorem nodup_ownKeys (c : Component) : (ownKeys c).Nodup := by
  cases c <;> simp [ownKeys]

/-- Only the given width and height of an image stand outside of this order. -/
theorem names_sublist (c : Component)
    (h : ∀ p, c = .image p → p.width = none ∧ p.height = none) :
    ((attributes c).map Attribute.name).Sublist ((ownKeys c).map ("android:" ++ ·)) := by
  have hsize (width height : String) : ((size width height).map Attribute.name).Sublist
      (["layout_width", "layout_height"].map ("android:" ++ ·)) := List.Sublist.refl _
  have hone (name value : String) :
      ([android name value].map Attribute.name).Sublist ["android:" ++ name] := List.Sublist.refl _
  have hgiven := Xml.sublist_android?
  cases c with
  | text p =>
    have hbold : ((if p.isBold then [android "textStyle" "bold"] else []).map
        Attribute.name).Sublist ["android:textStyle"] := by
      split
      · exact List.Sublist.refl _
      · exact List.nil_sublist _
    simp only [attributes, textAttributes, List.map_append]
    exact ((((((hsize _ _).append (hone _ _)).append (hgiven _ _)).append (hgiven _ _)).append
      hbold).append (hgiven _ _)).append (hgiven _ _)
  | button p =>
    simp only [attributes, buttonAttributes, List.map_append]
    exact ((((hsize _ _).append (hone _ _)).append (hgiven _ _)).append (hgiven _ _)).append
      (hgiven _ _)
  | container p children =>
    simp only [attributes, containerAttributes, List.map_append]
    exact ((((hsize _ _).append (hone _ _)).append (hgiven _ _)).append (hgiven _ _)).append
      (hgiven _ _)
  | input p =>
    simp only [attributes, inputAttributes, List.map_append]
    exact ((hsize _ _).append (List.Sublist.refl _)).append (hgiven _ _)
  | image p =>
    obtain ⟨hwidth, hheight⟩ := h p rfl
    simp only [attributes, imageAttributes, List.map_append, hwidth, hheight, android?,
      List.append_nil]
    exact ((hsize _ _).append (List.Sublist.refl _)).append (hgiven _ _)
  | list p =>
    simp only [attributes, listAttributes, List.map_append]
    exact (hsize _ _).append (hgiven _ _)
  | webview p =>
    simp only [attributes, webViewAttributes, List.map_append]
    exact (hsize _ _).append (hgiven _ _)
  | navigation p => exact List.Sublist.refl _
  | unknown kind => exact List.Sublist.refl _

theorem not_namesOnce_image {p : App.ImageProps} (h : ¬ (p.width = none ∧ p.height = none)) :
    ¬ NamesOnce (imageAttributes p) := by
  -- The usual size stands first, so a width or height that comes behind repeats a name of it.
  have hsplit : imageAttributes p = size "wrap_content" "wrap_content" ++
      ([android "layout_gravity" "center", android "src" placeholderDrawable,
        android "contentDescription" (p.alt.getD "Image")] ++ android? "layout_margin" p.margin ++
        android? "layout_width" p.width ++ android? "layout_height" p.height) := by
    simp only [imageAttributes, List.append_assoc]
  have husual : ∀ name ∈ ["android:layout_width", "android:layout_height"],
      name ∈ (size "wrap_content" "wrap_content").map Attribute.name := fun _ hname => hname
  rw [hsplit]
  cases hwidth : p.width with
  | some width =>
    exact Xml.not_namesOnce_append (husual "android:layout_width" (by simp))
      (by simp [android?, android])
  | none =>
    obtain ⟨height, hheight⟩ := Option.ne_none_iff_exists'.mp fun hnone => h ⟨hwidth, hnone⟩
    exact Xml.not_namesOnce_append (husual "android:layout_height" (by simp))
      (by simp [hheight, android?, android])

theorem namesOnce_navButtons (items : List NavItem) (index : Nat) :
    ∀ attributes ∈ Markup.startTagsAll (navButtons index items), NamesOnce attributes := by
  induction items generalizing index with
  | nil => simp [navButtons, Markup.startTagsAll]
  | cons item rest ih =>
    rw [navButtons, Markup.startTagsAll, List.forall_mem_append]
    refine ⟨List.forall_mem_singleton.mpr ?_, ih (index + 1)⟩
    simp [NamesOnce, size, android]

theorem namesOnce_ownTags_iff (c : Component) :
    (∀ attributes ∈ ownTags c, NamesOnce attributes) ↔
      ∀ p, c = .image p → p.width = none ∧ p.height = none := by
  constructor
  · rintro h p rfl
    by_contra hgiven
    exact not_namesOnce_image hgiven (h (imageAttributes p) List.mem_cons_self)
  · intro h
    have hself : NamesOnce (attributes c) :=
      Xml.namesOnce_of_sublist (names_sublist c h) (nodup_ownKeys c)
    cases c with
    | navigation p =>
      exact List.forall_mem_cons.mpr ⟨hself, namesOnce_navButtons p.effective 0⟩
    | _ => exact List.forall_mem_singleton.mpr hself

/-! ## Names in the whole text -/

theorem startTags_component (requested : Nat) (c : Component) :
    Markup.startTagsAll (markup (nestingLimit requested) 1 c) =
      (c.shown (nestingLimit requested)).flatMap ownTags :=
  startTagsAll_markup (nestingLimit requested) 1 (nestingLimit requested) c (Nat.add_comm _ 1)
    (one_le_nestingLimit requested)

/-- What a reader finds in the text of a component are the start tags of its markup. -/
theorem attributes?_tokens_component (requested level : Nat) {c : Component}
    (h : PlainKinds c.unknownKinds) :
    ∃ tokens, Token.ofText? (component requested level c) = some tokens ∧
      tokens.filterMap Token.attributes? =
        Markup.startTagsAll (markup (nestingLimit requested) 1 c) :=
  ⟨_, (Markup.readsAs_printAll level _ (readable_markup _ 1 c h)).ofText?,
    Markup.attributes?_tokensAll _⟩

/-- All start tags of a component tree carry each name once exactly when no image above the nesting
limit is given a width or a height; these start tags are the ones that stand in the text. -/
theorem attribute_names_once_iff (requested level : Nat) (c : Component) :
    ((∀ attributes ∈ Markup.startTagsAll (markup (nestingLimit requested) 1 c),
        NamesOnce attributes) ↔
      ∀ p, .image p ∈ c.shown (nestingLimit requested) → p.width = none ∧ p.height = none) ∧
    (PlainKinds c.unknownKinds →
      ∃ tokens, Token.ofText? (component requested level c) = some tokens ∧
        tokens.filterMap Token.attributes? =
          Markup.startTagsAll (markup (nestingLimit requested) 1 c)) := by
  refine ⟨?_, attributes?_tokens_component requested level⟩
  rw [startTags_component]
  constructor
  · intro h p hp
    have htags : ∀ attributes ∈ ownTags (.image p), NamesOnce attributes :=
      fun attributes hmem => h attributes (List.mem_flatMap.mpr ⟨_, hp, hmem⟩)
    exact (namesOnce_ownTags_iff (.image p)).mp htags p rfl
  · intro h attributes hmem
    obtain ⟨d, hd, hown⟩ := List.mem_flatMap.mp hmem
    have hplain : ∀ p, d = .image p → p.width = none ∧ p.height = none := by
      rintro p rfl
      exact h p hd
    exact (namesOnce_ownTags_iff d).mpr hplain attributes hown

def iconBar : Component :=
  .container {} [.image { margin := some "4dp" }, .navigation {}]

theorem attribute_names_once_iconBar :
    PlainKinds iconBar.unknownKinds ∧
      ∃ tokens, Token.ofText? (component defaultLimit 0 iconBar) = some tokens ∧
        tokens.filterMap Token.attributes? =
          Markup.startTagsAll (markup (nestingLimit defaultLimit) 1 iconBar) := by
  have hplain : PlainKinds iconBar.unknownKinds := List.forall_mem_nil _
  exact ⟨hplain, (attribute_names_once_iff defaultLimit 0 iconBar).2 hplain⟩

def wideImage : Component := .image { width := some "120dp" }

theorem width_twice_in_wideImage :
    ¬ ∀ (requested level : Nat) (c : Component) (tokens : List Token),
      Token.ofText? (component requested level c) = some tokens →
        ∀ attributes ∈ tokens.filterMap Token.attributes?, NamesOnce attributes := by
  intro h
  obtain ⟨tokens, hread, htags⟩ :=
    attributes?_tokens_component defaultLimit 0 (c := wideImage) (List.forall_mem_nil _)
  have hmem : attributes wideImage ∈ tokens.filterMap Token.attributes? := by
    rw [htags]
    exact List.mem_cons_self
  exact not_namesOnce_image (p := { width := some "120dp" }) (by simp)
    (h defaultLimit 0 wideImage tokens hread _ hmem)

end AppScaffold.Render

import AppScaffold.Proofs.App.Conversion

/-!
# What a kind does not use

An unknown kind uses neither properties nor children, and no kind but a container uses children. Of
what it does not use a component is made as if it were not there, but it has to be readable all the
same: it is read before the kind is looked at. Main statement: `unused_parts_must_be_readable`.
-/

set_option autoImplicit false

namespace AppScaffold.App

open Json (Node)

/-- There are no children, or they are null or an array of components. -/
def ChildrenReadable (w : Option Json) : Prop := ∃ cs, ChildrenOf w cs

def PropertiesReadable (w : Option Json) : Prop := ∃ ps, propertiesOf w = some ps

def withoutChildren (ms : List (String × Json)) : List (String × Json) :=
  ms.filter fun e => e.1 != "children"

theorem formed_withoutChildren {ms : List (String × Json)} (h : (Json.object ms).Formed) :
    (Json.object (withoutChildren ms)).Formed := by
  refine .object (h.ordered.sublist List.filter_sublist) fun e he => ?_
  exact h.members e (List.mem_of_mem_filter he)

theorem Finishes.of_ne_container {props : Node} {cs cs' : List Component} {kind : String}
    {c : Component} (h : Finishes props cs kind c) (hkind : kind ≠ "container") :
    Finishes props cs' kind c := by
  cases h with
  | container _ => exact absurd rfl hkind
  | _ hread =>
    constructor
    exact hread

theorem finishes_iff_of_unknown {props : Node} {cs : List Component} {kind : String}
    {c : Component} (hkind : kind ∉ knownKinds) :
    Finishes props cs kind c ↔ c = .unknown kind := by
  constructor
  · intro h
    cases h with
    | unknown _ => rfl
    | _ _ => exact absurd (by decide) hkind
  · rintro rfl
    exact .unknown hkind

theorem ofJson_eq_ok_iff_of_kind {ms : List (String × Json)} (hms : (Json.object ms).Formed)
    {kind : String} (htype : ms.lookup "type" = some (.text kind)) {c : Component} :
    Component.ofJson (.object ms) = .ok c ↔ ∃ ps cs,
      propertiesOf (ms.lookup "properties") = some ps ∧ ChildrenOf (ms.lookup "children") cs ∧
        Finishes (.ofJson (.object ps)) cs kind c := by
  rw [Component.ofJson_object_eq_ok_iff hms, htype]
  constructor
  · rintro ⟨_, ps, cs, hkind, h⟩
    cases hkind
    exact ⟨ps, cs, h⟩
  · rintro ⟨ps, cs, h⟩
    exact ⟨kind, ps, cs, rfl, h⟩

theorem ofJson_eq_ok_iff_of_unknown {ms : List (String × Json)} (hms : (Json.object ms).Formed)
    {kind : String} (htype : ms.lookup "type" = some (.text kind)) (hkind : kind ∉ knownKinds)
    {c : Component} : Component.ofJson (.object ms) = .ok c ↔ c = .unknown kind ∧
      PropertiesReadable (ms.lookup "properties") ∧ ChildrenReadable (ms.lookup "children") := by
  rw [ofJson_eq_ok_iff_of_kind hms htype]
  constructor
  · rintro ⟨ps, cs, hps, hcs, hfinish⟩
    exact ⟨(finishes_iff_of_unknown hkind).mp hfinish, ⟨ps, hps⟩, cs, hcs⟩
  · rintro ⟨rfl, ⟨ps, hps⟩, cs, hcs⟩
    exact ⟨ps, cs, hps, hcs, .unknown hkind⟩

theorem ofJson_eq_ok_iff_of_leaf {ms ms' : List (String × Json)} (hms : (Json.object ms).Formed)
    (hms' : (Json.object ms').Formed) (hsame : ∀ key ≠ "children", ms'.lookup key = ms.lookup key)
    {kind : String} (htype : ms.lookup "type" = some (.text kind)) (hkind : kind ≠ "container")
    {c : Component} : Component.ofJson (.object ms') = .ok c ↔
      Component.ofJson (.object (withoutChildren ms)) = .ok c ∧
        ChildrenReadable (ms'.lookup "children") := by
  have hother {key : String} (hkey : key ≠ "children") :
      (withoutChildren ms).lookup key = ms.lookup key := by
    rw [withoutChildren, Keyed.lookup_filter_ne, if_neg hkey]
  have hchildren : (withoutChildren ms).lookup "children" = none := by
    rw [withoutChildren, Keyed.lookup_filter_ne, if_pos rfl]
  have htype' : ms'.lookup "type" = some (.text kind) := (hsame _ (by decide)).trans htype
  have hbare : (withoutChildren ms).lookup "type" = some (.text kind) :=
    (hother (by decide)).trans htype
  rw [ofJson_eq_ok_iff_of_kind hms' htype',
    ofJson_eq_ok_iff_of_kind (formed_withoutChildren hms) hbare, hother (by decide), hchildren,
    hsame _ (by decide)]
  constructor
  · rintro ⟨ps, cs, hps, hcs, hfinish⟩
    exact ⟨⟨ps, [], hps, .absent, hfinish.of_ne_container hkind⟩, cs, hcs⟩
  · rintro ⟨⟨ps, _, hps, _, hfinish⟩, cs, hcs⟩
    exact ⟨ps, cs, hps, hcs, hfinish.of_ne_container hkind⟩

/-- An object of an unknown kind is converted to that kind exactly when its properties and its
children, if there are any, can be read. An object of a known kind other than a container is
converted, whatever its children are replaced by, as the object without children exactly when the
children can be read, and not at all otherwise. -/
theorem unused_parts_must_be_readable {ms : List (String × Json)} (hms : (Json.object ms).Formed)
    {kind : String} (htype : ms.lookup "type" = some (.text kind)) :
    (kind ∉ knownKinds → ∀ c, Component.ofJson (.object ms) = .ok c ↔ c = .unknown kind ∧
      PropertiesReadable (ms.lookup "properties") ∧ ChildrenReadable (ms.lookup "children")) ∧
    (kind ∈ knownKinds → kind ≠ "container" → ∀ ms', (Json.object ms').Formed →
      (∀ key ≠ "children", ms'.lookup key = ms.lookup key) → ∀ c,
      (Component.ofJson (.object ms') = .ok c ↔
        Component.ofJson (.object (withoutChildren ms)) = .ok c ∧
          ChildrenReadable (ms'.lookup "children"))) := by
  constructor
  · intro hkind c
    exact ofJson_eq_ok_iff_of_unknown hms htype hkind
  · intro _ hkind ms' hms' hsame c
    exact ofJson_eq_ok_iff_of_leaf hms hms' hsame htype hkind

def textWithButton : List (String × Json) :=
  [("children", .array [.object [("type", .text "button")]]), ("type", .text "text")]

theorem formed_textWithButton : (Json.object textWithButton).Formed := by
  refine Json.formed_pair (by decide) (.array ?_) (.text _)
  exact List.forall_mem_singleton.mpr (Json.formed_single (.text _))

/-- The button of a text is read and left out. -/
theorem textWithButton_is_text : Component.ofJson (.object textWithButton) = .ok (.text {}) := by
  refine ((unused_parts_must_be_readable formed_textWithButton rfl).2 (by decide) (by decide)
    textWithButton formed_textWithButton (fun _ _ => rfl) _).mpr ⟨rfl, [.button {}], ?_⟩
  exact .array (.cons rfl .nil)

/-- Unknown kinds whose properties or children are a number, and a text whose children are one, are
not converted, though none of them uses what is wrong with it. -/
theorem unused_number_is_refused :
    Component.ofJson (.object [("type", .text "text")]) = .ok (.text {}) ∧
    (∀ c, Component.ofJson (.object [("children", Json.nat 5), ("type", .text "text")]) ≠ .ok c) ∧
    (∀ c, Component.ofJson (.object [("children", Json.nat 5), ("type", .text "carousel")]) ≠
      .ok c) ∧
    ∀ c, Component.ofJson (.object [("properties", Json.nat 3), ("type", .text "carousel")]) ≠
      .ok c := by
  refine ⟨rfl, fun c h => ?_, fun c h => ?_, fun c h => ?_⟩ <;> cases h

end AppScaffold.App

import AppScaffold.Proofs.App.Conversion
import AppScaffold.Proofs.App.Navigation

/-!
# The spelling of scalars

A scalar may be spelt in several ways: an absent one as null or as the empty text too, and a number
or a truth value as a text. A value and the same value with scalars spelt otherwise, in any of the
components in it, are converted to the same component. Main statement: `spelling_is_ignored`.
-/

set_option autoImplicit false

namespace AppScaffold.App

open Json (Node Read Reads ofValue)
open List (Forall₂)

/-! ## Spellings -/

/-- What an object says of a scalar in one spelling and in another. -/
inductive SameScalar : Option Json → Option Json → Prop
  | refl (w : Option Json) : SameScalar w w
  | symm {w w' : Option Json} : SameScalar w w' → SameScalar w' w
  | trans {w w' w'' : Option Json} : SameScalar w w' → SameScalar w' w'' → SameScalar w w''
  | null : SameScalar none (some .null)
  | empty : SameScalar none (some (.text ""))
  | number (n : Json.Number) : SameScalar (some (.number n)) (some (.text n.toText))
  | bool (b : Bool) : SameScalar (some (.bool b)) (some (.text (toString b)))

theorem SameScalar.readPart_eq {w w' : Option Json} (h : SameScalar w w') :
    readPart w = readPart w' := by
  induction h with
  | symm _ ih => exact ih.symm
  | trans _ _ ih ih' => exact ih.trans ih'
  | refl | null | empty | number | bool => rfl

def scalarKeys : String → List String
  | "text" => TextProps.record.keys
  | "button" => ButtonProps.record.keys
  | "container" => ContainerProps.record.keys
  | "input" => InputProps.record.keys
  | "image" => ImageProps.record.keys
  | "list" => ListProps.record.keys
  | "webview" => WebViewProps.record.keys
  | _ => []

inductive RespelledEntry : Json → Json → Prop
  | same (v : Json) : RespelledEntry v v
  | object {ms ms' : List (String × Json)} :
      SameScalar (ms.lookup "label") (ms'.lookup "label") →
      SameScalar (ms.lookup "screen") (ms'.lookup "screen") →
      (∀ key, key ≠ "label" → key ≠ "screen" → ms.lookup key = ms'.lookup key) →
      RespelledEntry (.object ms) (.object ms')

inductive RespelledProperty : String → String → Option Json → Option Json → Prop
  | same (kind key : String) (w : Option Json) : RespelledProperty kind key w w
  | scalar {kind key : String} {w w' : Option Json} : key ∈ scalarKeys kind → SameScalar w w' →
      RespelledProperty kind key w w'
  | entries {es es' : List Json} : Forall₂ RespelledEntry es es' →
      RespelledProperty "navigation" "items" (some (.array es)) (some (.array es'))

/-- The properties of a component of some type in one spelling and in another; without properties
all of them are absent. -/
inductive RespelledProperties : Option Json → Option Json → Option Json → Prop
  | same (type w : Option Json) : RespelledProperties type w w
  | respelled {kind : String} {w w' : Option Json} {ps ps' : List (String × Json)} :
      propertiesOf w = some ps → propertiesOf w' = some ps' →
      (∀ key, RespelledProperty kind key (ps.lookup key) (ps'.lookup key)) →
      RespelledProperties (some (.text kind)) w w'

mutual

/-- A component, as an object or as an array of its parts, in which properties are spelt otherwise,
its own and those of components in it. -/
inductive Respelled : Json → Json → Prop
  | same (v : Json) : Respelled v v
  | object {ms ms' : List (String × Json)} :
      RespelledProperties (ms.lookup "type") (ms.lookup "properties") (ms'.lookup "properties") →
      RespelledChildren (ms.lookup "children") (ms'.lookup "children") →
      (∀ key, key ≠ "properties" → key ≠ "children" → ms.lookup key = ms'.lookup key) →
      Respelled (.object ms) (.object ms')
  | array {vs vs' : List Json} : RespelledProperties vs[0]? vs[1]? vs'[1]? →
      RespelledChildren vs[2]? vs'[2]? → vs[0]? = vs'[0]? → vs.drop 3 = vs'.drop 3 →
      Respelled (.array vs) (.array vs')

inductive RespelledChildren : Option Json → Option Json → Prop
  | same (w : Option Json) : RespelledChildren w w
  | array {vs vs' : List Json} : RespelledAll vs vs' →
      RespelledChildren (some (.array vs)) (some (.array vs'))

inductive RespelledAll : List Json → List Json → Prop
  | nil : RespelledAll [] []
  | cons {v v' : Json} {vs vs' : List Json} : Respelled v v' → RespelledAll vs vs' →
      RespelledAll (v :: vs) (v' :: vs')

end

/-! ## Optional texts -/

mutual

def Component.optionalTexts : Component → List (Option String)
  | .text p => [p.content, p.textAlign, p.fontSize, p.fontWeight, p.color, p.margin]
  | .button p => [p.content, p.backgroundColor, p.color, p.margin]
  | .container p children =>
    [p.padding, p.backgroundColor, p.margin] ++ Component.optionalTextsAll children
  | .input p => [p.placeholder, p.margin]
  | .image p => [p.alt, p.margin, p.width, p.height]
  | .list p => [p.margin]
  | .webview p => [p.url, p.margin]
  | .navigation p => (p.items.getD []).map (·.screen)
  | .unknown _ => []

def Component.optionalTextsAll : List Component → List (Option String)
  | [] => []
  | c :: rest => c.optionalTexts ++ Component.optionalTextsAll rest

end

/-! ## Properties -/

theorem RespelledProperty.readPart_eq {kind key : String} {w w' : Option Json}
    (h : RespelledProperty kind key w w') (hkind : kind ≠ "navigation") :
    readPart w = readPart w' := by
  cases h with
  | same => rfl
  | scalar _ hsame => exact hsame.readPart_eq
  | entries _ => exact absurd rfl hkind

/-! ## Entries of a navigation bar -/

theorem RespelledEntry.ofJson?_eq {e e' : Json} (h : RespelledEntry e e') :
    NavItem.ofJson? e = NavItem.ofJson? e' := by
  cases h with
  | same => rfl
  | object hlabel hscreen _ =>
    rw [NavItem.ofJson?, NavItem.ofJson?, NavItem.ofMembers?_eq, NavItem.ofMembers?_eq,
      hlabel.readPart_eq, hscreen.readPart_eq]

namespace NavigationProps

theorem readItems_iff_of_respelled {es es' : List Json} (hes : (Json.array es).Formed)
    (hes' : (Json.array es').Formed) (h : Forall₂ RespelledEntry es es')
    {items : Option (List NavItem)} :
    readItems (.ofJson (.array es)) = .ok items ↔ readItems (.ofJson (.array es')) = .ok items := by
  have hentry : ∀ e ∈ es, ∀ e' ∈ es', RespelledEntry e e' → ∀ item,
      Reads (ofValue NavItem.read) e item ↔ Reads (ofValue NavItem.read) e' item ∧ True := by
    intro e he e' he' hrespelled item
    rw [and_true, Reads, Reads, ofValue, ofValue, NavItem.read_ofJson (hes.items e he),
      NavItem.read_ofJson (hes'.items e' he'), hrespelled.ofJson?_eq]
  have hlist {as : List NavItem} : Node.readList NavItem.read (.ofJson (.array es)) = .ok as ↔
      Node.readList NavItem.read (.ofJson (.array es')) = .ok as := by
    rw [Node.readList_ofJson_eq_ok_iff, Node.readList_ofJson_eq_ok_iff]
    refine (Json.forall₂_iff_of_parts h hentry).trans ?_
    exact and_iff_left fun _ _ => trivial
  change some <$> _ = _ ↔ some <$> _ = _
  simp only [map_eq_ok_iff, hlist]

theorem read_iff_of_respelled {ps ps' : List (String × Json)} (hps : (Json.object ps).Formed)
    (hps' : (Json.object ps').Formed)
    (h : RespelledProperty "navigation" "items" (ps.lookup "items") (ps'.lookup "items"))
    {p : NavigationProps} : NavigationProps.read (.ofJson (.object ps)) = .ok p ↔
      NavigationProps.read (.ofJson (.object ps')) = .ok p := by
  rw [read_ofJson_eq_ok_iff hps, read_ofJson_eq_ok_iff hps']
  generalize hw : ps.lookup "items" = w at h
  generalize hw' : ps'.lookup "items" = w' at h
  cases h with
  | same => rfl
  | scalar hkey _ => exact absurd hkey List.not_mem_nil
  | entries hes =>
    exact readItems_iff_of_respelled (hps.of_lookup hw) (hps'.of_lookup hw') hes

end NavigationProps

/-! ## Kinds -/

theorem RespelledEntry.symm {e e' : Json} (h : RespelledEntry e e') : RespelledEntry e' e := by
  cases h with
  | same => exact .same _
  | object hlabel hscreen hother =>
    exact .object hlabel.symm hscreen.symm fun key hl hs => (hother key hl hs).symm

theorem RespelledProperty.symm {kind key : String} {w w' : Option Json}
    (h : RespelledProperty kind key w w') : RespelledProperty kind key w' w := by
  cases h with
  | same => exact .same _ _ _
  | scalar hkey hsame => exact .scalar hkey hsame.symm
  | entries hes => exact .entries (hes.flip.imp fun _ _ h => h.symm)

theorem Finishes.of_respelled {kind : String} {ps ps' : List (String × Json)}
    (hps : (Json.object ps).Formed) (hps' : (Json.object ps').Formed)
    (h : ∀ key, RespelledProperty kind key (ps.lookup key) (ps'.lookup key))
    {cs : List Component} {c : Component} (hfinish : Finishes (.ofJson (.object ps)) cs kind c) :
    Finishes (.ofJson (.object ps')) cs kind c := by
  -- All kinds but a navigation bar hold scalars only.
  have hscalars {σ : Type} {read : Node → Read σ} {r : ScalarRecord σ} (hr : read = r.read) {p : σ}
      (hkind : kind ≠ "navigation") (hread : read (.ofJson (.object ps)) = .ok p) :
      read (.ofJson (.object ps')) = .ok p := by
    subst hr
    refine (r.read_iff_of_readPart_eq hps hps' fun key => ?_).mp hread
    exact (h key).readPart_eq hkind
  cases hfinish with
  | text hread => exact .text (hscalars TextProps.read_eq (by decide) hread)
  | button hread => exact .button (hscalars ButtonProps.read_eq (by decide) hread)
  | container hread => exact .container (hscalars ContainerProps.read_eq (by decide) hread)
  | input hread => exact .input (hscalars InputProps.read_eq (by decide) hread)
  | image hread => exact .image (hscalars ImageProps.read_eq (by decide) hread)
  | list hread => exact .list (hscalars ListProps.read_eq (by decide) hread)
  | webview hread => exact .webview (hscalars WebViewProps.read_eq (by decide) hread)
  | navigation hread =>
    exact .navigation ((NavigationProps.read_iff_of_respelled hps hps' (h "items")).mp hread)
  | unknown hkind => exact .unknown hkind

/-! ## Components -/

theorem RespelledProperties.symm {type w w' : Option Json} (h : RespelledProperties type w w') :
    RespelledProperties type w' w := by
  cases h with
  | same => exact .same _ _
  | respelled hps hps' h => exact .respelled hps' hps fun key => (h key).symm

theorem MadeOf.of_respelled {type w w' u u' : Option Json} (hw : ∀ v, w = some v → v.Formed)
    (hw' : ∀ v, w' = some v → v.Formed) (hprops : RespelledProperties type w w')
    (hchildren : ∀ cs, ChildrenOf u cs → ChildrenOf u' cs) {c : Component}
    (h : MadeOf type w u c) : MadeOf type w' u' c := by
  obtain ⟨kind, ps, cs, hkind, hps, hcs, hfinish⟩ := h
  cases hprops with
  | same => exact ⟨kind, ps, cs, hkind, hps, hchildren cs hcs, hfinish⟩
  | @respelled _ _ _ qs qs' hqs hqs' h =>
    cases hkind
    cases hps.symm.trans hqs
    refine ⟨kind, qs', cs, rfl, hqs', hchildren cs hcs, ?_⟩
    exact hfinish.of_respelled (formed_of_propertiesOf hw hqs) (formed_of_propertiesOf hw' hqs') h

mutual

theorem Respelled.ofJson_iff : ∀ {v v' : Json}, Respelled v v' → v.Formed → v'.Formed →
    ∀ {c : Component}, Component.ofJson v = .ok c ↔ Component.ofJson v' = .ok c
  | _, _, .same _, _, _, _ => Iff.rfl
  | .object ms, .object ms', .object hprops hchildren hother, hv, hv', c => by
    have htype := hother "type" (by decide) (by decide)
    have hcs := hchildren.childrenOf_iff (fun _ => hv.of_lookup) fun _ => hv'.of_lookup
    rw [Component.ofJson_object_eq_ok_iff hv, Component.ofJson_object_eq_ok_iff hv', ← htype]
    constructor
    · exact .of_respelled (fun _ => hv.of_lookup) (fun _ => hv'.of_lookup) hprops
        fun cs => (hcs cs).mp
    · exact .of_respelled (fun _ => hv'.of_lookup) (fun _ => hv.of_lookup) hprops.symm
        fun cs => (hcs cs).mpr
  | .array vs, .array vs', .array hprops hchildren htype hdrop, hv, hv', c => by
    have hitem {i : Nat} : ∀ w, vs[i]? = some w → w.Formed :=
      fun w hw => hv.items w (List.mem_of_getElem? hw)
    have hitem' {i : Nat} : ∀ w, vs'[i]? = some w → w.Formed :=
      fun w hw => hv'.items w (List.mem_of_getElem? hw)
    have hcs := hchildren.childrenOf_iff hitem hitem'
    rw [Component.ofJson_array_eq_ok_iff hv, Component.ofJson_array_eq_ok_iff hv', ← htype, hdrop]
    refine and_congr_right fun _ => ⟨?_, ?_⟩
    · exact .of_respelled hitem hitem' hprops fun cs => (hcs cs).mp
    · exact .of_respelled hitem' hitem hprops.symm fun cs => (hcs cs).mpr

theorem RespelledChildren.childrenOf_iff : ∀ {u u' : Option Json}, RespelledChildren u u' →
    (∀ v, u = some v → v.Formed) → (∀ v, u' = some v → v.Formed) →
      ∀ cs, ChildrenOf u cs ↔ ChildrenOf u' cs
  | _, _, .same _, _, _, _ => Iff.rfl
  | _, _, .array hall, hu, hu', cs => by
    have hcs := hall.forall₂_iff (hu _ rfl).items (hu' _ rfl).items cs
    constructor
    · intro h
      cases h with
      | array h => exact .array (hcs.mp h)
    · intro h
      cases h with
      | array h => exact .array (hcs.mpr h)

theorem RespelledAll.forall₂_iff : ∀ {vs vs' : List Json}, RespelledAll vs vs' →
    (∀ v ∈ vs, v.Formed) → (∀ v ∈ vs', v.Formed) → ∀ cs,
      Forall₂ (fun v c => Component.ofJson v = .ok c) vs cs ↔
        Forall₂ (fun v c => Component.ofJson v = .ok c) vs' cs
  | _, _, .nil, _, _, _ => Iff.rfl
  | _, _, .cons hhead htail, hvs, hvs', cs => by
    obtain ⟨hv, hvs⟩ := List.forall_mem_cons.mp hvs
    obtain ⟨hv', hvs'⟩ := List.forall_mem_cons.mp hvs'
    cases cs with
    | nil => exact ⟨nofun, nofun⟩
    | cons c cs =>
      rw [List.forall₂_cons, List.forall₂_cons, hhead.ofJson_iff hv hv',
        htail.forall₂_iff hvs hvs']

end

/-! ## Optional texts of what is read -/

theorem mem_optionalTextsAll {cs : List Component} {s : Option String} :
    s ∈ Component.optionalTextsAll cs ↔ ∃ c ∈ cs, s ∈ c.optionalTexts := by
  induction cs with
  | nil => simp [Component.optionalTextsAll]
  | cons c cs ih => simp [Component.optionalTextsAll, ih]

theorem Finishes.empty_notMem {kind : String} {ps : List (String × Json)}
    (hps : (Json.object ps).Formed) {cs : List Component}
    (hcs : some "" ∉ Component.optionalTextsAll cs) {c : Component}
    (h : Finishes (.ofJson (.object ps)) cs kind c) : some "" ∉ c.optionalTexts := by
  have hscalars {σ : Type} {read : Node → Read σ} {r : ScalarRecord σ} (hr : read = r.read) {p : σ}
      (hread : read (.ofJson (.object ps)) = .ok p) :
      ∃ texts, (∀ key, some "" ≠ texts key) ∧ r.make texts = p := by
    subst hr
    exact r.exists_texts hps hread
  cases h with
  | text hread =>
    obtain ⟨texts, htexts, rfl⟩ := hscalars TextProps.read_eq hread
    simp [Component.optionalTexts, TextProps.record, htexts]
  | button hread =>
    obtain ⟨texts, htexts, rfl⟩ := hscalars ButtonProps.read_eq hread
    simp [Component.optionalTexts, ButtonProps.record, htexts]
  | container hread =>
    obtain ⟨texts, htexts, rfl⟩ := hscalars ContainerProps.read_eq hread
    simp [Component.optionalTexts, ContainerProps.record, htexts, hcs]
  | input hread =>
    obtain ⟨texts, htexts, rfl⟩ := hscalars InputProps.read_eq hread
    simp [Component.optionalTexts, InputProps.record, htexts]
  | image hread =>
    obtain ⟨texts, htexts, rfl⟩ := hscalars ImageProps.read_eq hread
    simp [Component.optionalTexts, ImageProps.record, htexts]
  | list hread =>
    obtain ⟨texts, htexts, rfl⟩ := hscalars ListProps.read_eq hread
    simp [Component.optionalTexts, ListProps.record, htexts]
  | webview hread =>
    obtain ⟨texts, htexts, rfl⟩ := hscalars WebViewProps.read_eq hread
    simp [Component.optionalTexts, WebViewProps.record, htexts]
  | navigation hread => exact NavigationProps.screens_ne_empty hps hread
  | unknown _ => exact List.not_mem_nil

/-- Every component that a value is converted to holds no text that is present but empty. -/
def Filled (v : Json) : Prop := ∀ c, Component.ofJson v = .ok c → some "" ∉ c.optionalTexts

def itemsOf : Json → List Json
  | .array vs => vs
  | _ => []

theorem MadeOf.empty_notMem {type w u : Option Json} (hw : ∀ v, w = some v → v.Formed)
    (hu : ∀ v, u = some v → ∀ x ∈ itemsOf v, Filled x) {c : Component} (h : MadeOf type w u c) :
    some "" ∉ c.optionalTexts := by
  obtain ⟨kind, ps, cs, _, hps, hcs, hfinish⟩ := h
  refine hfinish.empty_notMem (formed_of_propertiesOf hw hps) fun hmem => ?_
  obtain ⟨child, hchild, hempty⟩ := mem_optionalTextsAll.mp hmem
  cases hcs with
  | absent | null => exact List.not_mem_nil hchild
  | array hread =>
    obtain ⟨x, hx, hread⟩ := Json.exists_of_mem_right hread hchild
    exact hu _ rfl x hx child hread hempty

theorem filled_of_formed {v : Json} (hv : v.Formed) : Filled v := by
  -- The children are the items of a part, so the induction carries the items along.
  suffices h : Filled v ∧ ∀ x ∈ itemsOf v, Filled x from h.1
  induction hv with
  | null | bool | number | text =>
    refine ⟨fun c h => ?_, List.forall_mem_nil _⟩
    cases h
  | array hitems ih =>
    refine ⟨fun c h => ?_, fun x hx => (ih x hx).1⟩
    obtain ⟨_, hmade⟩ := (Component.ofJson_array_eq_ok_iff (.array hitems)).mp h
    refine hmade.empty_notMem (fun w hw => hitems w (List.mem_of_getElem? hw)) fun u hu => ?_
    exact (ih u (List.mem_of_getElem? hu)).2
  | object hordered hmembers ih =>
    refine ⟨fun c h => ?_, List.forall_mem_nil _⟩
    have hformed : (Json.object _).Formed := .object hordered hmembers
    have hmade := (Component.ofJson_object_eq_ok_iff hformed).mp h
    refine hmade.empty_notMem (fun _ => hformed.of_lookup) fun u hu => ?_
    exact (ih _ ((Keyed.lookup_eq_some_iff hordered).mp hu)).2

/-- A value and the same value with scalars spelt otherwise, at any depth, are both refused or are
converted to the same component; and no optional text of a component that is converted is present
but empty. -/
theorem spelling_is_ignored {v : Json} (hv : v.Formed) :
    (∀ v', v'.Formed → Respelled v v' →
      (Component.ofJson v).toOption = (Component.ofJson v').toOption) ∧
    ∀ c, Component.ofJson v = .ok c → some "" ∉ c.optionalTexts := by
  refine ⟨fun v' hv' h => Option.ext fun c => ?_, filled_of_formed hv⟩
  rw [toOption_eq_some_iff, toOption_eq_some_iff]
  exact h.ofJson_iff hv hv'

def sentCard : Json :=
  .object [("children", .array [
    .object [("properties", .object [("content", .null), ("fontSize", Json.nat 18)]),
      ("type", .text "text")],
    .object [("properties", .object [("items", .array [
        .object [("label", .bool true), ("screen", .text "")]])]),
      ("type", .text "navigation")]]), ("type", .text "container")]

def plainCard : Json :=
  .object [("children", .array [
    .object [("properties", .object [("fontSize", .text "18")]), ("type", .text "text")],
    .object [("properties", .object [("items", .array [.object [("label", .text "true")]])]),
      ("type", .text "navigation")]]), ("type", .text "container")]

theorem respelled_card : Respelled sentCard plainCard := by
  have htext (key : String) : RespelledProperty "text" key
      ([("content", Json.null), ("fontSize", Json.nat 18)].lookup key)
      ([("fontSize", Json.text "18")].lookup key) := by
    by_cases hcontent : key = "content"
    · subst hcontent
      exact .scalar (by decide) SameScalar.null.symm
    · by_cases hsize : key = "fontSize"
      · subst hsize
        exact .scalar (by decide) (.number (.natural 18))
      · simp only [Keyed.lookup_cons_eq, if_neg hcontent, if_neg hsize]
        exact .same _ _ _
  have hentry : RespelledEntry (.object [("label", .bool true), ("screen", .text "")])
      (.object [("label", .text "true")]) := by
    refine .object (.bool true) SameScalar.empty.symm fun key hlabel hscreen => ?_
    simp only [Keyed.lookup_cons_eq, if_neg hlabel, if_neg hscreen]
  have hbar (key : String) : RespelledProperty "navigation" key
      ([("items", Json.array [.object [("label", .bool true), ("screen", .text "")]])].lookup key)
      ([("items", Json.array [.object [("label", .text "true")]])].lookup key) := by
    by_cases hitems : key = "items"
    · subst hitems
      exact .entries (.cons hentry .nil)
    · simp only [Keyed.lookup_cons_eq, if_neg hitems]
      exact .same _ _ _
  refine .object (.same _ _) (.array (.cons ?_ (.cons ?_ .nil))) fun key _ hkey => ?_
  · refine .object (.respelled rfl rfl htext) (.same _) fun key hkey _ => ?_
    simp only [Keyed.lookup_cons_eq, if_neg hkey]
  · refine .object (.respelled rfl rfl hbar) (.same _) fun key hkey _ => ?_
    simp only [Keyed.lookup_cons_eq, if_neg hkey]
  · simp only [Keyed.lookup_cons_eq, if_neg hkey]

theorem formed_sentCard : sentCard.Formed := by
  refine Json.formed_pair (by decide) (.array ?_) (.text _)
  refine List.forall_mem_cons.mpr ⟨?_, List.forall_mem_singleton.mpr ?_⟩
  · refine Json.formed_pair (by decide) ?_ (.text _)
    exact Json.formed_pair (by decide) .null (.number _)
  · refine Json.formed_pair (by decide) (Json.formed_single (.array ?_)) (.text _)
    exact List.forall_mem_singleton.mpr (Json.formed_pair (by decide) (.bool _) (.text _))

theorem formed_plainCard : plainCard.Formed := by
  refine Json.formed_pair (by decide) (.array ?_) (.text _)
  refine List.forall_mem_cons.mpr ⟨?_, List.forall_mem_singleton.mpr ?_⟩
  · exact Json.formed_pair (by decide) (Json.formed_single (.text _)) (.text _)
  · refine Json.formed_pair (by decide) (Json.formed_single (.array ?_)) (.text _)
    exact List.forall_mem_singleton.mpr (Json.formed_single (.text _))

theorem cards_are_converted_alike :
    sentCard.Formed ∧ (∃ c, Component.ofJson sentCard = .ok c) ∧
      (Component.ofJson sentCard).toOption = (Component.ofJson plainCard).toOption ∧
      ∀ c, Component.ofJson sentCard = .ok c → some "" ∉ c.optionalTexts := by
  obtain ⟨halike, hfilled⟩ := spelling_is_ignored formed_sentCard
  exact ⟨formed_sentCard, ⟨_, rfl⟩, halike plainCard formed_plainCard respelled_card, hfilled⟩

/-- The items of a navigation bar are kept as they are declared, also when there are none. -/
theorem declared_items_may_be_empty : ∃ p : NavigationProps, Component.ofJson
    (.object [("properties", .object [("items", .array [])]), ("type", .text "navigation")]) =
      .ok (.navigation p) ∧ p.items = some [] :=
  ⟨⟨some []⟩, rfl, rfl⟩

end AppScaffold.App

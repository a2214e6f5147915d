import AppScaffold.Proofs.App.Reading
import AppScaffold.Proofs.Json.Fields

/-!
# Components of values

What a value is converted to, by the parts of it that a component has: its kind, its properties and
its children. Main statement: `Component.ofJson_eq_ok_iff`.
-/

set_option autoImplicit false

namespace AppScaffold.App

open Json (Node Read Shape)
open List (Forall₂)

/-! ## Kinds -/

/-- The kinds that have properties of their own. -/
def knownKinds : List String :=
  ["text", "button", "container", "input", "image", "list", "webview", "navigation"]

inductive Finishes (props : Node) (children : List Component) : String → Component → Prop
  | text {p : TextProps} : TextProps.read props = .ok p → Finishes props children "text" (.text p)
  | button {p : ButtonProps} :
      ButtonProps.read props = .ok p → Finishes props children "button" (.button p)
  | container {p : ContainerProps} : ContainerProps.read props = .ok p →
      Finishes props children "container" (.container p children)
  | input {p : InputProps} :
      InputProps.read props = .ok p → Finishes props children "input" (.input p)
  | image {p : ImageProps} :
      ImageProps.read props = .ok p → Finishes props children "image" (.image p)
  | list {p : ListProps} : ListProps.read props = .ok p → Finishes props children "list" (.list p)
  | webview {p : WebViewProps} :
      WebViewProps.read props = .ok p → Finishes props children "webview" (.webview p)
  | navigation {p : NavigationProps} :
      NavigationProps.read props = .ok p → Finishes props children "navigation" (.navigation p)
  | unknown {kind : String} : kind ∉ knownKinds → Finishes props children kind (.unknown kind)

theorem Finishes.of_finish {d : Draft} {c : Component} (h : d.finish = .ok c) :
    Finishes (.ofJson (.object (d.properties.getD []))) (d.children.getD [])
      (d.kind.getD "unspecified") c := by
  simp only [Draft.finish] at h
  split at h
  case h_9 =>
    cases h
    refine .unknown fun hknown => ?_
    simp only [knownKinds, List.mem_cons, List.not_mem_nil, or_false] at hknown
    rcases hknown with h | h | h | h | h | h | h | h <;> contradiction
  all_goals
    rename_i heq
    rw [heq]
    split at h
    · cases h
      constructor
      assumption
    · cases h

theorem Finishes.finish_eq {d : Draft} {c : Component}
    (h : Finishes (.ofJson (.object (d.properties.getD []))) (d.children.getD [])
      (d.kind.getD "unspecified") c) : d.finish = .ok c := by
  unfold Draft.finish
  generalize d.kind.getD "unspecified" = kind at h ⊢
  cases h with
  | unknown hkind =>
    simp only [knownKinds, List.mem_cons, List.not_mem_nil, or_false, not_or] at hkind
    simp [hkind]
  | _ hread => simp only [hread]

/-! ## Parts -/

def kindOf : Option Json → Option String
  | none | some .null => some "unspecified"
  | some (.text kind) => some kind
  | some _ => none

def propertiesOf : Option Json → Option (List (String × Json))
  | none | some .null => some []
  | some (.object members) => some members
  | some _ => none

inductive ChildrenOf : Option Json → List Component → Prop
  | absent : ChildrenOf none []
  | null : ChildrenOf (some .null) []
  | array {vs : List Json} {cs : List Component} :
      Forall₂ (fun v c => Component.ofJson v = .ok c) vs cs → ChildrenOf (some (.array vs)) cs

def MadeOf (type properties children : Option Json) (c : Component) : Prop :=
  ∃ kind ps cs, kindOf type = some kind ∧ propertiesOf properties = some ps ∧
    ChildrenOf children cs ∧ Finishes (.ofJson (.object ps)) cs kind c

theorem readKind_iff {w : Option Json} {kind : String} :
    (∃ k, (Node.ofJson (Json.orNull w)).readOption Node.readText = .ok k ∧
      k.getD "unspecified" = kind) ↔ kindOf w = some kind := by
  rcases w with _ | w
  · simp [Json.orNull, Node.ofJson, Node.readOption, kindOf]
  · cases w <;>
      simp [Json.orNull, Node.ofJson, Node.readOption, kindOf, Node.readText]

theorem readProperties_iff {w : Option Json} (hw : (Json.orNull w).Formed)
    {ms : List (String × Json)} :
    (∃ ps, (Node.ofJson (Json.orNull w)).readOption Draft.readProperties = .ok ps ∧
      ps.getD [] = ms) ↔ propertiesOf w = some ms := by
  rcases w with _ | w
  · simp [Json.orNull, Node.ofJson, Node.readOption, propertiesOf]
  · cases w with
    | null => simp [Json.orNull, Node.ofJson, Node.readOption, propertiesOf]
    | object members =>
      have hvalue : (Node.ofJson (.object members)).value = .ok (.object members) :=
        hw.value_ofJson
      have hread {ps : List (String × Json)} :
          Draft.readProperties (.ofJson (.object members)) = .ok ps ↔ members = ps := by
        rw [readProperties_eq_ok_iff, hvalue]
        simp
      change (∃ ps, some <$> Draft.readProperties (.ofJson (.object members)) = .ok ps ∧ _) ↔ _
      simp [map_eq_ok_iff, hread, propertiesOf]
    | _ =>
      simp [Json.orNull, Node.ofJson, Node.readOption, propertiesOf, Draft.readProperties]

theorem formed_of_propertiesOf {w : Option Json} (hw : ∀ v, w = some v → v.Formed)
    {ps : List (String × Json)} (h : propertiesOf w = some ps) : (Json.object ps).Formed := by
  have hempty : (Json.object []).Formed := .object .nil (List.forall_mem_nil _)
  rcases w with _ | v
  · cases h
    exact hempty
  · cases v with
    | null =>
      cases h
      exact hempty
    | object members =>
      cases h
      exact hw _ rfl
    | _ => cases h

theorem readChildren_iff {w : Option Json} {cs : List Component} :
    (∃ children, Component.readChildren (.ofJson (Json.orNull w)) = .ok children ∧
      children.getD [] = cs) ↔ ChildrenOf w cs := by
  simp only [readChildren_eq]
  rcases w with _ | w
  · constructor
    · rintro ⟨_, h, rfl⟩
      cases h
      exact .absent
    · rintro ⟨⟩
      exact ⟨none, rfl, rfl⟩
  · cases w with
    | null =>
      constructor
      · rintro ⟨_, h, rfl⟩
        cases h
        exact .null
      · rintro ⟨⟩
        exact ⟨none, rfl, rfl⟩
    | array vs =>
      constructor
      · rintro ⟨_, h, rfl⟩
        obtain ⟨cs, hcs, rfl⟩ := map_eq_ok_iff.mp h
        exact .array (Node.readList_ofJson_eq_ok_iff.mp hcs)
      · rintro (_ | _ | hcs)
        exact ⟨some cs, map_eq_ok_iff.mpr ⟨cs, Node.readList_ofJson_eq_ok_iff.mpr hcs, rfl⟩, rfl⟩
    | _ =>
      constructor
      · rintro ⟨_, h, _⟩
        cases h
      · intro h
        cases h

/-! ## Values -/

theorem Draft.neutral : Json.Neutral shape read {} := by
  intro key hkey
  rw [shape, knows_looseShape] at hkey
  simp only [List.mem_cons, List.not_mem_nil, or_false] at hkey
  rcases hkey with rfl | rfl | rfl <;> rfl

theorem Draft.readAll_parts_eq_ok_iff {v : Json} {d : Draft} :
    Json.readAll Draft.read {} (v.parts shape) = .ok d ↔
      (Node.ofJson (Json.orNull (v.part? shape "type"))).readOption Node.readText = .ok d.kind ∧
      (Node.ofJson (Json.orNull (v.part? shape "properties"))).readOption readProperties =
        .ok d.properties ∧
      Component.readChildren (.ofJson (Json.orNull (v.part? shape "children"))) =
        .ok d.children := by
  have hparts : v.parts shape = [v.part shape "type", v.part shape "properties",
      v.part shape "children"] := rfl
  have hnil {d d' : Draft} : Json.readAll Draft.read d [] = .ok d' ↔ d = d' := by
    simp [Json.readAll, pure, Except.pure]
  rw [hparts]
  simp only [Json.readAll_cons_eq_ok_iff, hnil, Json.part, Draft.fieldWise.read_eq, Draft.change,
    String.reduceEq, if_true, if_false, map_eq_ok_iff]
  constructor
  · rintro ⟨_, ⟨_, ⟨kind, hkind, rfl⟩, rfl⟩, _, ⟨_, ⟨properties, hproperties, rfl⟩, rfl⟩, _,
      ⟨_, ⟨children, hchildren, rfl⟩, rfl⟩, rfl⟩
    exact ⟨hkind, hproperties, hchildren⟩
  · rintro ⟨hkind, hproperties, hchildren⟩
    exact ⟨_, ⟨_, ⟨d.kind, hkind, rfl⟩, rfl⟩, _, ⟨_, ⟨d.properties, hproperties, rfl⟩, rfl⟩, _,
      ⟨_, ⟨d.children, hchildren, rfl⟩, rfl⟩, rfl⟩

/-- A value is converted by its kind, its properties and its children, and nothing else. -/
theorem Component.ofJson_eq_ok_iff {v : Json} (hv : v.Formed) {c : Component} :
    Component.ofJson v = .ok c ↔ (Node.ofJson v).HasForm Draft.shape ∧
      MadeOf (v.part? Draft.shape "type") (v.part? Draft.shape "properties")
        (v.part? Draft.shape "children") c := by
  have hproperties := hv.orNull Draft.fieldWise.nodup "properties"
  rw [Component.ofJson, read_eq_readRecord, bind_eq_ok_iff]
  simp only [Draft.fieldWise.readRecord_ofJson_eq_ok_iff Draft.neutral hv, and_assoc,
    exists_and_left, Draft.readAll_parts_eq_ok_iff]
  refine and_congr_right fun _ => ?_
  constructor
  · rintro ⟨d, hkind, hprops, hchildren, hfinish⟩
    exact ⟨_, _, _, readKind_iff.mp ⟨_, hkind, rfl⟩, (readProperties_iff hproperties).mp
      ⟨_, hprops, rfl⟩, readChildren_iff.mp ⟨_, hchildren, rfl⟩, Finishes.of_finish hfinish⟩
  · rintro ⟨kind, ps, cs, hkind, hps, hcs, hfinish⟩
    obtain ⟨k, hk, rfl⟩ := readKind_iff.mpr hkind
    obtain ⟨properties, hprops, rfl⟩ := (readProperties_iff hproperties).mpr hps
    obtain ⟨children, hchildren, rfl⟩ := readChildren_iff.mpr hcs
    exact ⟨⟨k, properties, children⟩, hk, hprops, hchildren, hfinish.finish_eq⟩

theorem Component.ofJson_object_eq_ok_iff {ms : List (String × Json)}
    (hms : (Json.object ms).Formed) {c : Component} : Component.ofJson (.object ms) = .ok c ↔
      MadeOf (ms.lookup "type") (ms.lookup "properties") (ms.lookup "children") c := by
  rw [ofJson_eq_ok_iff hms, Json.part?_object (by decide), Json.part?_object (by decide),
    Json.part?_object (by decide)]
  exact and_iff_right trivial

/-- The array form of a component names its parts by their places. -/
theorem Component.ofJson_array_eq_ok_iff {vs : List Json} (hvs : (Json.array vs).Formed)
    {c : Component} : Component.ofJson (.array vs) = .ok c ↔
      vs.drop 3 = [] ∧ MadeOf vs[0]? vs[1]? vs[2]? c := by
  have hparts : (Json.array vs).part? Draft.shape "type" = vs[0]? ∧
      (Json.array vs).part? Draft.shape "properties" = vs[1]? ∧
      (Json.array vs).part? Draft.shape "children" = vs[2]? := by
    rcases vs with _ | ⟨type, _ | ⟨properties, _ | ⟨children, rest⟩⟩⟩ <;>
      exact ⟨rfl, rfl, rfl⟩
  rw [ofJson_eq_ok_iff hvs, hparts.1, hparts.2.1, hparts.2.2, Json.hasForm_array,
    List.drop_eq_nil_iff]
  rfl

end AppScaffold.App

import AppScaffold.Proofs.App.Scalars

/-!
# Navigation bars

The entries of a navigation bar as they are read from values: each is a label, or an object whose
label and screen are scalars. Main statement: `NavigationProps.read_ofJson_eq_ok_iff`.
-/

set_option autoImplicit false

namespace AppScaffold.App

open Json (FieldWise Node Read Shape)

/-! ## Entries -/

theorem NavItem.read_ofJson {v : Json} (hv : v.Formed) {item : NavItem} :
    NavItem.read (.ofJson v) = .ok item ↔ NavItem.ofJson? v = some item := by
  rw [NavItem.read, bind_eq_ok_iff, hv.value_ofJson]
  simp only [Except.ok.injEq, exists_eq_left']
  cases NavItem.ofJson? v with
  | none => simp
  | some other => simp [pure, Except.pure]

theorem NavItem.ofMembers?_eq (ms : List (String × Json)) :
    NavItem.ofMembers? ms = (readPart (ms.lookup "label")).toOption.bind fun label =>
      (readPart (ms.lookup "screen")).toOption.map fun screen => ⟨label.getD "", screen⟩ := by
  simp only [NavItem.ofMembers?, readPart, Json.orNull]
  cases ms.lookup "label" with
  | none =>
    cases ms.lookup "screen" with
    | none => rfl
    | some screen =>
      dsimp only [Option.getD_some]
      cases readScalar (.ofJson screen) <;> rfl
  | some label =>
    cases ms.lookup "screen" with
    | none =>
      dsimp only [Option.getD_some]
      cases readScalar (.ofJson label) <;> rfl
    | some screen =>
      dsimp only [Option.getD_some]
      cases readScalar (.ofJson label) <;> cases readScalar (.ofJson screen) <;> rfl

theorem NavItem.screen_ne_empty {v : Json} {item : NavItem} (h : NavItem.ofJson? v = some item) :
    some "" ≠ item.screen := by
  cases v with
  | text label =>
    cases h
    exact nofun
  | object ms =>
    rw [NavItem.ofJson?, NavItem.ofMembers?_eq] at h
    obtain ⟨label, _, h⟩ := Option.bind_eq_some_iff.mp h
    obtain ⟨screen, hscreen, rfl⟩ := Option.map_eq_some_iff.mp h
    exact (ne_empty_of_readScalar (toOption_eq_some_iff.mp hscreen)).symm
  | _ => cases h

/-! ## Bars -/

namespace NavigationProps

def shape : Shape := looseShape "NavigationProps" ["items"]

def readItems : Node → Read (Option (List NavItem)) := Node.readOption (Node.readList NavItem.read)

def readField (_ : String) (n : Node) (p : NavigationProps) : Read NavigationProps := do
  return { p with items := ← readItems n }

def change (_ : String) (n : Node) : Read (NavigationProps → NavigationProps) :=
  (fun items _ => ⟨items⟩) <$> readItems n

theorem fieldWise : FieldWise shape readField change where
  loose := loose_looseShape _ _
  nodup := by decide
  read_eq _ n p := by
    rw [readField, change]
    cases readItems n <;> rfl
  comm {key₁ key₂ _ _ _ _} h₁ h₂ hne _ _ _ := by
    rw [shape, knows_looseShape, List.mem_singleton] at h₁ h₂
    exact absurd (h₁.trans h₂.symm) hne

theorem read_ofJson_eq_ok_iff {ms : List (String × Json)} (hms : (Json.object ms).Formed)
    {p : NavigationProps} : NavigationProps.read (.ofJson (.object ms)) = .ok p ↔
      readItems (.ofJson (Json.orNull (ms.lookup "items"))) = .ok p.items := by
  have hneutral : Json.Neutral shape readField {} := fun _ _ => rfl
  have hitems : (Json.object ms).part? shape "items" = ms.lookup "items" :=
    Json.part?_object (by decide)
  have hpart : (Json.object ms).parts shape =
      [("items", Node.ofJson (Json.orNull (ms.lookup "items")))] := by
    rw [← hitems]
    rfl
  refine (fieldWise.readRecord_ofJson_eq_ok_iff hneutral hms).trans ?_
  rw [hpart, Json.readAll_cons_eq_ok_iff]
  refine (and_iff_right (show (Node.ofJson (.object ms)).HasForm shape from trivial)).trans ?_
  obtain ⟨items⟩ := p
  unfold readField
  cases readItems (.ofJson (Json.orNull (ms.lookup "items"))) with
  | error f => exact ⟨nofun, nofun⟩
  | ok other => simp [Json.readAll, pure, Except.pure, bind, Except.bind]

theorem screens_ne_empty {ps : List (String × Json)}
    (hps : (Json.object ps).Formed) {p : NavigationProps}
    (h : NavigationProps.read (.ofJson (.object ps)) = .ok p) :
    some "" ∉ (p.items.getD []).map (·.screen) := by
  rw [read_ofJson_eq_ok_iff hps] at h
  intro hmem
  obtain ⟨item, hitem, hscreen⟩ := List.mem_map.mp hmem
  generalize hw : ps.lookup "items" = w at h
  rcases w with _ | w
  · rw [← Except.ok.inj h] at hitem
    exact List.not_mem_nil hitem
  · cases w with
    | null =>
      rw [← Except.ok.inj h] at hitem
      exact List.not_mem_nil hitem
    | array es =>
      obtain ⟨items, hitems, heq⟩ := map_eq_ok_iff.mp h
      rw [← heq] at hitem
      obtain ⟨e, he, hread⟩ :=
        Json.exists_of_mem_right (Node.readList_ofJson_eq_ok_iff.mp hitems) hitem
      have hformed := (hps.of_lookup hw).items e he
      exact NavItem.screen_ne_empty ((NavItem.read_ofJson hformed).mp hread) hscreen.symm
    | _ => cases h

end NavigationProps

end AppScaffold.App

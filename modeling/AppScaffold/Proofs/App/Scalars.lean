import AppScaffold.Proofs.App.Reading
import AppScaffold.Proofs.Json.Fields
import Mathlib.Logic.Function.Basic

/-!
# Records of scalars

The properties of all kinds but a navigation bar are records whose fields are scalars. Such a record
is made of the texts that the scalars stand for, a field that is not there counting as null, so two
objects whose scalars stand for the same texts are read as the same record. Main statement:
`ScalarRecord.read_ofJson_eq_ok_iff`.
-/

set_option autoImplicit false

namespace AppScaffold.App

open Json (FieldWise Node Read Shape)

/-! ## Scalars -/

def readPart (w : Option Json) : Read (Option String) := readScalar (.ofJson (Json.orNull w))

theorem present_ne_empty (s : String) : present s ≠ some "" := by
  unfold present
  split
  · exact nofun
  · intro heq
    obtain rfl := Option.some.inj heq
    contradiction

theorem ne_empty_of_readScalar {n : Node} {s : Option String} (h : readScalar n = .ok s) :
    s ≠ some "" := by
  unfold readScalar at h
  split at h
  · cases h
    exact nofun
  · obtain ⟨v, _, h⟩ := bind_eq_ok_iff.mp h
    split at h
    · cases h
      exact present_ne_empty _
    · cases h

/-! ## Records -/

/-- A record whose fields are scalars: it is made of the texts of its fields, and setting a field
changes the text of this field. -/
structure ScalarRecord (σ : Type) where
  name : String
  keys : List String
  make : (String → Option String) → σ
  get : σ → String → Option String
  set : String → Option String → σ → σ
  nodup : keys.Nodup
  make_get : ∀ p, make (get p) = p
  set_make : ∀ key ∈ keys, ∀ s texts,
    set key s (make texts) = make (Function.update texts key s)

namespace ScalarRecord

variable {σ : Type} (r : ScalarRecord σ)

def shape : Shape := looseShape r.name r.keys

def readField (key : String) (n : Node) (p : σ) : Read σ := (fun s => r.set key s p) <$> readScalar n

def change (key : String) (n : Node) : Read (σ → σ) := r.set key <$> readScalar n

def empty : σ := r.make fun _ => none

def read : Node → Read σ := Node.readRecord r.readField r.shape r.empty

theorem read_congr {field : String → Node → σ → Read σ}
    (h : ∀ key n p, field key n p = r.readField key n p) :
    Node.readRecord field r.shape r.empty = r.read := by
  have hfield : field = r.readField := funext fun key => funext fun n => funext fun p => h key n p
  rw [hfield, read]

theorem knows_iff {key : String} : r.shape.knows key ↔ key ∈ r.keys := knows_looseShape

theorem set_comm {key₁ key₂ : String} (h₁ : key₁ ∈ r.keys) (h₂ : key₂ ∈ r.keys) (hne : key₁ ≠ key₂)
    (s₁ s₂ : Option String) (p : σ) :
    r.set key₁ s₁ (r.set key₂ s₂ p) = r.set key₂ s₂ (r.set key₁ s₁ p) := by
  rw [← r.make_get p, r.set_make key₂ h₂, r.set_make key₁ h₁, r.set_make key₁ h₁,
    r.set_make key₂ h₂, Function.update_comm hne]

theorem fieldWise : FieldWise r.shape r.readField r.change where
  loose := loose_looseShape _ _
  nodup := by
    rw [shape, keys_looseShape]
    exact r.nodup
  read_eq key n p := by
    rw [readField, change]
    cases readScalar n <;> rfl
  comm {key₁ key₂ n₁ n₂ f g} h₁ h₂ hne hf hg p := by
    obtain ⟨s₁, _, rfl⟩ := map_eq_ok_iff.mp hf
    obtain ⟨s₂, _, rfl⟩ := map_eq_ok_iff.mp hg
    exact r.set_comm (r.knows_iff.mp h₁) (r.knows_iff.mp h₂) hne s₁ s₂ p

theorem neutral : Json.Neutral r.shape r.readField r.empty := by
  intro key hkey
  rw [readField, readScalar, empty]
  change Except.ok (r.set key none (r.make fun _ => none)) = _
  rw [r.set_make key (r.knows_iff.mp hkey), Function.update_eq_self key fun _ => none]

theorem readAll_eq_ok_iff (node : String → Node) {keys : List String} (hkeys : keys ⊆ r.keys)
    (hnodup : keys.Nodup) {texts : String → Option String} {p : σ} :
    Json.readAll r.readField (r.make texts) (keys.map fun key => (key, node key)) = .ok p ↔
      ∃ texts', (∀ key ∈ keys, readScalar (node key) = .ok (texts' key)) ∧
        (∀ key ∉ keys, texts' key = texts key) ∧ r.make texts' = p := by
  -- The texts of the fields that were read are in `texts`, the induction is on those that follow.
  induction keys generalizing texts with
  | nil =>
    constructor
    · intro h
      cases h
      exact ⟨texts, List.forall_mem_nil _, fun _ _ => rfl, rfl⟩
    · rintro ⟨texts', _, hsame, rfl⟩
      obtain rfl : texts' = texts := funext fun key => hsame key List.not_mem_nil
      rfl
  | cons key keys ih =>
    obtain ⟨hkey, hkeys⟩ := List.cons_subset.mp hkeys
    obtain ⟨hnew, hnodup⟩ := List.nodup_cons.mp hnodup
    rw [List.map_cons, Json.readAll_cons_eq_ok_iff]
    constructor
    · rintro ⟨acc, hacc, hrest⟩
      obtain ⟨s, hs, rfl⟩ := map_eq_ok_iff.mp hacc
      rw [r.set_make key hkey, ih hkeys hnodup] at hrest
      obtain ⟨texts', hread, hsame, rfl⟩ := hrest
      refine ⟨texts', List.forall_mem_cons.mpr ⟨?_, hread⟩, fun other hother => ?_, rfl⟩
      · rw [hs, hsame key hnew, Function.update_self]
      · obtain ⟨hne, hother⟩ := not_or.mp (mt List.mem_cons.mpr hother)
        rw [hsame other hother, Function.update_of_ne hne]
    · rintro ⟨texts', hread, hsame, rfl⟩
      obtain ⟨hs, hread⟩ := List.forall_mem_cons.mp hread
      refine ⟨_, map_eq_ok_iff.mpr ⟨_, hs, rfl⟩, ?_⟩
      rw [r.set_make key hkey, ih hkeys hnodup]
      refine ⟨texts', hread, fun other hother => ?_, rfl⟩
      by_cases heq : other = key
      · rw [heq, Function.update_self]
      · rw [Function.update_of_ne heq]
        exact hsame other fun hmem => (List.mem_cons.mp hmem).elim heq hother

theorem read_ofJson_eq_ok_iff {ms : List (String × Json)} (hms : (Json.object ms).Formed) {p : σ} :
    r.read (.ofJson (.object ms)) = .ok p ↔
      ∃ texts, (∀ key ∈ r.keys, readPart (ms.lookup key) = .ok (texts key)) ∧
        (∀ key ∉ r.keys, texts key = none) ∧ r.make texts = p := by
  have hkeys : r.shape.fields.map (·.1) = r.keys := keys_looseShape _ _
  rw [read, r.fieldWise.readRecord_ofJson_eq_ok_iff r.neutral hms,
    and_iff_right (show (Node.ofJson (.object ms)).HasForm r.shape from trivial), Json.parts, hkeys]
  refine (r.readAll_eq_ok_iff (fun key => ((Json.object ms).part r.shape key).2) (fun _ h => h)
    r.nodup).trans ?_
  refine exists_congr fun texts => and_congr_left fun _ => forall₂_congr fun key hkey => ?_
  rw [Json.part, Json.part?_object (r.knows_iff.mpr hkey), readPart]

theorem read_iff_of_readPart_eq {ps ps' : List (String × Json)} (hps : (Json.object ps).Formed)
    (hps' : (Json.object ps').Formed)
    (h : ∀ key, readPart (ps.lookup key) = readPart (ps'.lookup key)) {p : σ} :
    r.read (.ofJson (.object ps)) = .ok p ↔ r.read (.ofJson (.object ps')) = .ok p := by
  simp only [r.read_ofJson_eq_ok_iff hps, r.read_ofJson_eq_ok_iff hps', h]

theorem exists_texts {ps : List (String × Json)}
    (hps : (Json.object ps).Formed) {p : σ} (h : r.read (.ofJson (.object ps)) = .ok p) :
    ∃ texts, (∀ key, some "" ≠ texts key) ∧ r.make texts = p := by
  obtain ⟨texts, hread, hother, hp⟩ := (r.read_ofJson_eq_ok_iff hps).mp h
  refine ⟨texts, fun key heq => ?_, hp⟩
  by_cases hkey : key ∈ r.keys
  · exact ne_empty_of_readScalar (hread key hkey) heq.symm
  · rw [hother key hkey] at heq
    cases heq

end ScalarRecord

/-! ## The kinds -/

def TextProps.record : ScalarRecord TextProps where
  name := "TextProps"
  keys := ["content", "textAlign", "fontSize", "fontWeight", "color", "margin"]
  make t := ⟨t "content", t "textAlign", t "fontSize", t "fontWeight", t "color", t "margin"⟩
  get p
    | "content" => p.content
    | "textAlign" => p.textAlign
    | "fontSize" => p.fontSize
    | "fontWeight" => p.fontWeight
    | "color" => p.color
    | _ => p.margin
  set key s p :=
    match key with
    | "content" => { p with content := s }
    | "textAlign" => { p with textAlign := s }
    | "fontSize" => { p with fontSize := s }
    | "fontWeight" => { p with fontWeight := s }
    | "color" => { p with color := s }
    | _ => { p with margin := s }
  nodup := by decide
  make_get _ := rfl
  set_make := by simp [Function.update_apply]

theorem TextProps.read_eq : TextProps.read = record.read := by
  refine record.read_congr fun key n p => ?_
  simp only [bind_pure_comp, ScalarRecord.readField, record]
  split <;> simp only [*]

def ButtonProps.record : ScalarRecord ButtonProps where
  name := "ButtonProps"
  keys := ["content", "backgroundColor", "color", "margin"]
  make t := ⟨t "content", t "backgroundColor", t "color", t "margin"⟩
  get p
    | "content" => p.content
    | "backgroundColor" => p.backgroundColor
    | "color" => p.color
    | _ => p.margin
  set key s p :=
    match key with
    | "content" => { p with content := s }
    | "backgroundColor" => { p with backgroundColor := s }
    | "color" => { p with color := s }
    | _ => { p with margin := s }
  nodup := by decide
  make_get _ := rfl
  set_make := by simp [Function.update_apply]

theorem ButtonProps.read_eq : ButtonProps.read = record.read := by
  refine record.read_congr fun key n p => ?_
  simp only [bind_pure_comp, ScalarRecord.readField, record]
  split <;> simp only [*]

def ContainerProps.record : ScalarRecord ContainerProps where
  name := "ContainerProps"
  keys := ["layout", "padding", "backgroundColor", "margin"]
  make t := ⟨Orientation.ofName? (t "layout"), t "padding", t "backgroundColor", t "margin"⟩
  get p
    | "layout" => some p.layout.name
    | "padding" => p.padding
    | "backgroundColor" => p.backgroundColor
    | _ => p.margin
  set key s p :=
    match key with
    | "layout" => { p with layout := Orientation.ofName? s }
    | "padding" => { p with padding := s }
    | "backgroundColor" => { p with backgroundColor := s }
    | _ => { p with margin := s }
  nodup := by decide
  make_get p := by
    obtain ⟨layout, _, _, _⟩ := p
    cases layout <;> rfl
  set_make := by simp [Function.update_apply]

theorem ContainerProps.read_eq : ContainerProps.read = record.read := by
  refine record.read_congr fun key n p => ?_
  simp only [bind_pure_comp, ScalarRecord.readField, record]
  split <;> simp only [*]

def InputKind.spelt : InputKind → String
  | .email => "email"
  | .password => "password"
  | .number => "number"
  | .phone => "phone"
  | .text => "text"

def InputProps.record : ScalarRecord InputProps where
  name := "InputProps"
  keys := ["placeholder", "inputType", "margin"]
  make t := ⟨t "placeholder", InputKind.ofName? (t "inputType"), t "margin"⟩
  get p
    | "placeholder" => p.placeholder
    | "inputType" => some p.inputType.spelt
    | _ => p.margin
  set key s p :=
    match key with
    | "placeholder" => { p with placeholder := s }
    | "inputType" => { p with inputType := InputKind.ofName? s }
    | _ => { p with margin := s }
  nodup := by decide
  make_get p := by
    obtain ⟨_, kind, _⟩ := p
    cases kind <;> rfl
  set_make := by simp [Function.update_apply]

theorem InputProps.read_eq : InputProps.read = record.read := by
  refine record.read_congr fun key n p => ?_
  simp only [bind_pure_comp, ScalarRecord.readField, record]
  split <;> simp only [*]

def ImageProps.record : ScalarRecord ImageProps where
  name := "ImageProps"
  keys := ["alt", "margin", "width", "height"]
  make t := ⟨t "alt", t "margin", t "width", t "height"⟩
  get p
    | "alt" => p.alt
    | "margin" => p.margin
    | "width" => p.width
    | _ => p.height
  set key s p :=
    match key with
    | "alt" => { p with alt := s }
    | "margin" => { p with margin := s }
    | "width" => { p with width := s }
    | _ => { p with height := s }
  nodup := by decide
  make_get _ := rfl
  set_make := by simp [Function.update_apply]

theorem ImageProps.read_eq : ImageProps.read = record.read := by
  refine record.read_congr fun key n p => ?_
  simp only [bind_pure_comp, ScalarRecord.readField, record]
  split <;> simp only [*]

def ListProps.record : ScalarRecord ListProps where
  name := "ListProps"
  keys := ["margin"]
  make t := ⟨t "margin"⟩
  get p _ := p.margin
  set _ s _ := ⟨s⟩
  nodup := by decide
  make_get _ := rfl
  set_make := by simp [Function.update_apply]

theorem ListProps.read_eq : ListProps.read = record.read := by
  refine record.read_congr fun key n p => ?_
  rw [bind_pure_comp]
  rfl

def WebViewProps.record : ScalarRecord WebViewProps where
  name := "WebViewProps"
  keys := ["url", "margin"]
  make t := ⟨t "url", t "margin"⟩
  get p
    | "url" => p.url
    | _ => p.margin
  set key s p :=
    match key with
    | "url" => { p with url := s }
    | _ => { p with margin := s }
  nodup := by decide
  make_get _ := rfl
  set_make := by simp [Function.update_apply]

theorem WebViewProps.read_eq : WebViewProps.read = record.read := by
  refine record.read_congr fun key n p => ?_
  simp only [bind_pure_comp, ScalarRecord.readField, record]
  split <;> simp only [*]

end AppScaffold.App

import AppScaffold.Proofs.Json.Record

/-!
# Records of values

What a value says of the fields of a record: an object says them by their names, an array in their
order. A record whose fields are read each for itself is made of what the value says of each of
them, where a field that is not said counts as null. Main statement:
`FieldWise.readRecord_ofJson_eq_ok_iff`.
-/

set_option autoImplicit false

namespace AppScaffold.Json

/-! ## Values as they are held -/

/-- The keys of every object stand in order, each once. -/
inductive Formed : Json → Prop
  | null : Formed .null
  | bool (b : Bool) : Formed (.bool b)
  | number (n : Number) : Formed (.number n)
  | text (s : String) : Formed (.text s)
  | array {items : List Json} : (∀ v ∈ items, Formed v) → Formed (.array items)
  | object {members : List (String × Json)} : Keyed.Ordered members →
      (∀ e ∈ members, Formed e.2) → Formed (.object members)

theorem Formed.value_ofJson {v : Json} (h : v.Formed) : (Node.ofJson v).value = .ok v := by
  induction h with
  | null | bool | number | text => rfl
  | array _ ih => exact Node.value_ofJson_array ih
  | object hordered _ ih => exact Node.value_ofJson_object hordered ih

theorem Formed.items {vs : List Json} (h : (Json.array vs).Formed) : ∀ v ∈ vs, v.Formed := by
  cases h with
  | array h => exact h

theorem Formed.ordered {ms : List (String × Json)} (h : (Json.object ms).Formed) :
    Keyed.Ordered ms := by
  cases h with
  | object hordered _ => exact hordered

theorem Formed.members {ms : List (String × Json)} (h : (Json.object ms).Formed) :
    ∀ e ∈ ms, e.2.Formed := by
  cases h with
  | object _ h => exact h

theorem formed_single {key : String} {v : Json} (hv : v.Formed) :
    (Json.object [(key, v)]).Formed :=
  .object (List.pairwise_singleton _ _) (List.forall_mem_singleton.mpr hv)

theorem formed_pair {key key' : String} {v v' : Json} (hlt : key < key') (hv : v.Formed)
    (hv' : v'.Formed) : (Json.object [(key, v), (key', v')]).Formed :=
  .object (List.pairwise_pair.mpr hlt)
    (List.forall_mem_cons.mpr ⟨hv, List.forall_mem_singleton.mpr hv'⟩)

theorem Formed.of_lookup {ms : List (String × Json)} (h : (Json.object ms).Formed) {key : String}
    {w : Json} (hw : ms.lookup key = some w) : w.Formed :=
  h.members (key, w) ((Keyed.lookup_eq_some_iff h.ordered).mp hw)

/-! ## What a value says of a field -/

def fields (shape : Shape) : Json → List (String × Json)
  | .object members => members.filter fun e => shape.knows e.1
  | .array items => (shape.fields.map (·.1)).zip items
  | _ => []

def part? (shape : Shape) (key : String) (v : Json) : Option Json := (v.fields shape).lookup key

def orNull (w : Option Json) : Json := w.getD .null

variable {shape : Shape} {v : Json}

theorem fields_nodup (hshape : (shape.fields.map (·.1)).Nodup) (hv : v.Formed) :
    ((v.fields shape).map (·.1)).Nodup := by
  cases hv with
  | null | bool | number | text => exact .nil
  | array _ => exact (keys_zip_sublist _ _).nodup hshape
  | object hordered _ =>
    refine hordered.nodup_keys.sublist (List.Sublist.map _ ?_)
    exact List.filter_sublist

theorem mem_keys_of_mem_fields {e : String × Json} (h : e ∈ v.fields shape) :
    e.1 ∈ shape.fields.map (·.1) := by
  cases v with
  | object members => exact Shape.knows_iff.mp (List.mem_filter.mp h).2
  | array items => exact (List.of_mem_zip h).1
  | _ => exact absurd h List.not_mem_nil

theorem Formed.of_mem_fields {e : String × Json} (hv : v.Formed) (h : e ∈ v.fields shape) :
    e.2.Formed := by
  cases hv with
  | null | bool | number | text => exact absurd h List.not_mem_nil
  | array hitems => exact hitems e.2 (List.of_mem_zip h).2
  | object _ hmembers => exact hmembers e (List.mem_of_mem_filter h)

theorem part?_eq_some_iff (hshape : (shape.fields.map (·.1)).Nodup) (hv : v.Formed) {key : String}
    {w : Json} : v.part? shape key = some w ↔ (key, w) ∈ v.fields shape :=
  Keyed.lookup_eq_some_iff_of_nodup (fields_nodup hshape hv)

theorem Formed.orNull (hshape : (shape.fields.map (·.1)).Nodup) (hv : v.Formed) (key : String) :
    (orNull (v.part? shape key)).Formed := by
  cases hpart : v.part? shape key with
  | none => exact .null
  | some w => exact hv.of_mem_fields ((part?_eq_some_iff hshape hv).mp hpart)

theorem fields_ofJson_eq (v : Json) :
    (Node.ofJson v).fields shape = (v.fields shape).map fun e => (e.1, Node.ofJson e.2) := by
  cases v with
  | object members =>
    rw [Node.ofJson, Node.fields, Members.entries_ofJson, List.filter_map]
    rfl
  | array items =>
    rw [Node.ofJson, Node.fields, Items.nodes_ofJson, List.zip_map_right]
    rfl
  | _ => rfl

theorem part?_object {ms : List (String × Json)} {key : String} (h : shape.knows key) :
    (Json.object ms).part? shape key = ms.lookup key := by
  rw [part?, fields]
  induction ms with
  | nil => rfl
  | cons e ms ih =>
    rw [List.filter_cons, Keyed.lookup_cons_eq]
    by_cases hkey : key = e.1
    · subst hkey
      rw [if_pos h, Keyed.lookup_cons_eq]
      rw [if_pos rfl, if_pos rfl]
    · rw [if_neg hkey, ← ih]
      split
      · rw [Keyed.lookup_cons_eq, if_neg hkey]
      · rfl

theorem hasForm_array {xs : List Json} :
    (Node.ofJson (.array xs)).HasForm shape ↔ xs.length ≤ shape.fields.length := by
  rw [Node.ofJson, Node.HasForm, Items.nodes_ofJson, List.length_map]

/-! ## Reading the parts -/

def part (shape : Shape) (v : Json) (key : String) : String × Node :=
  (key, Node.ofJson (orNull (v.part? shape key)))

/-- All fields of the record, those that are not said too. -/
def parts (shape : Shape) (v : Json) : List (String × Node) :=
  (shape.fields.map (·.1)).map (v.part shape)

theorem unsaid_append_fields_perm (hshape : (shape.fields.map (·.1)).Nodup) (hv : v.Formed) :
    (((shape.fields.map (·.1)).filter fun key => (v.part? shape key).isNone).map (v.part shape) ++
      (Node.ofJson v).fields shape).Perm (v.parts shape) := by
  have hsaid : (Node.ofJson v).fields shape = ((v.fields shape).map (·.1)).map (v.part shape) := by
    rw [fields_ofJson_eq, List.map_map]
    refine List.map_congr_left fun e he => ?_
    have hpart : v.part? shape e.1 = some e.2 := (part?_eq_some_iff hshape hv).mpr he
    change (e.1, Node.ofJson e.2) = (e.1, Node.ofJson (orNull (v.part? shape e.1)))
    rw [hpart]
    rfl
  -- Both sides say the same of the same keys, so the keys alone are compared.
  rw [hsaid, ← List.map_append, parts]
  refine List.Perm.map _ ((List.perm_ext_iff_of_nodup ?_ hshape).mpr fun key => ?_)
  · refine List.nodup_append'.mpr ⟨hshape.filter _, fields_nodup hshape hv, ?_⟩
    intro key hunsaid hsaid
    obtain ⟨e, he, rfl⟩ := List.mem_map.mp hsaid
    have hpart := (part?_eq_some_iff hshape hv).mpr he
    simp [hpart] at hunsaid
  · rw [List.mem_append, List.mem_filter]
    constructor
    · rintro (⟨hkey, _⟩ | hsaid)
      · exact hkey
      · obtain ⟨e, he, rfl⟩ := List.mem_map.mp hsaid
        exact mem_keys_of_mem_fields he
    · intro hkey
      cases hpart : v.part? shape key with
      | none => exact Or.inl ⟨hkey, rfl⟩
      | some w =>
        have hmem := (part?_eq_some_iff hshape hv).mp hpart
        exact Or.inr (List.mem_map.mpr ⟨_, hmem, rfl⟩)

section

variable {σ : Type} {read : String → Node → σ → Read σ} {change : String → Node → Read (σ → σ)}
  {empty a : σ}

/-- A field that is null leaves the record as it is at first. -/
def Neutral (shape : Shape) (read : String → Node → σ → Read σ) (empty : σ) : Prop :=
  ∀ key, shape.knows key → read key (.null none) empty = .ok empty

theorem readAll_append_of_neutral {es es' : List (String × Node)}
    (h : ∀ e ∈ es, read e.1 e.2 empty = .ok empty) :
    readAll read empty (es ++ es') = readAll read empty es' := by
  induction es with
  | nil => rfl
  | cons e es ih =>
    obtain ⟨hhead, htail⟩ := List.forall_mem_cons.mp h
    rw [List.cons_append, readAll, List.foldlM_cons, hhead]
    exact ih htail

/-- A record is read from what the value says of each of its fields. -/
theorem FieldWise.readRecord_ofJson_eq_ok_iff (h : FieldWise shape read change)
    (hneutral : Neutral shape read empty) (hv : v.Formed) :
    Node.readRecord read shape empty (.ofJson v) = .ok a ↔
      (Node.ofJson v).HasForm shape ∧ readAll read empty (v.parts shape) = .ok a := by
  have hperm := unsaid_append_fields_perm h.nodup hv
  have hnodup : ((v.parts shape).map (·.1)).Nodup := by
    rw [parts, List.map_map]
    exact h.nodup.map fun _ _ heq => heq
  have hknown : ∀ e ∈ v.parts shape, shape.knows e.1 := by
    intro e he
    obtain ⟨key, hkey, rfl⟩ := List.mem_map.mp he
    exact Shape.knows_iff.mpr hkey
  have hfields : (((Node.ofJson v).fields shape).map (·.1)).Nodup := by
    rw [fields_ofJson_eq, List.map_map]
    exact fields_nodup h.nodup hv
  -- The fields that are not said go first: there each of them is read into a record that is empty.
  have hunsaid {a : σ} : readAll read empty ((Node.ofJson v).fields shape) = .ok a ↔
      readAll read empty (((shape.fields.map (·.1)).filter fun key =>
        (v.part? shape key).isNone).map (v.part shape) ++ (Node.ofJson v).fields shape) = .ok a := by
    rw [readAll_append_of_neutral]
    intro e he
    obtain ⟨key, hkey, rfl⟩ := List.mem_map.mp he
    obtain ⟨hmem, hnone⟩ := List.mem_filter.mp hkey
    rw [part, Option.isNone_iff_eq_none.mp hnone]
    exact hneutral key (Shape.knows_iff.mpr hmem)
  rw [readRecord_eq_ok_iff read h.loose h.nodup hv.value_ofJson (Node.strict_ofJson v),
    and_iff_right hfields, hunsaid, h.readAll_eq_ok_iff, h.readAll_eq_ok_iff]
  refine and_congr_right fun _ => ⟨fun hes => ?_, fun hes => ?_⟩
  · refine h.exists_changes_of_perm hperm ?_ (fun e he => hknown e (hperm.subset he)) hes
    exact (hperm.map (·.1)).nodup_iff.mpr hnodup
  · exact h.exists_changes_of_perm hperm.symm hnodup hknown hes

end

end AppScaffold.Json

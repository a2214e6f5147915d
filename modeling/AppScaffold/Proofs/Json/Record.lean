import AppScaffold.Proofs.Json.Agreement
import Mathlib.Data.List.Nodup

/-!
# Records

What a record is read from: the known members of an object, or the items of an array under the names
of the fields. A reader that reads each field for itself makes the same record of the fields in any
order, so it agrees on a node and its value when no field is said twice.
-/

set_option autoImplicit false

namespace AppScaffold.Json

open Keyed (SameKey)
open List (Forall₂)

variable {σ : Type} {shape : Shape}

/-! ## Fields -/

def Node.fields (shape : Shape) : Node → List (String × Node)
  | .object _ _ members => members.entries.filter fun e => shape.knows e.1
  | .array _ _ items => (shape.fields.map (·.1)).zip items.nodes
  | _ => []

/-- An object, or an array of no more items than there are fields. -/
def Node.HasForm (shape : Shape) : Node → Prop
  | .object .. => True
  | .array _ _ items => items.nodes.length ≤ shape.fields.length
  | _ => False

theorem Shape.knows_iff {key : String} : shape.knows key ↔ key ∈ shape.fields.map (·.1) := by
  simp [Shape.knows]

theorem Node.knows_of_mem_fields {n : Node} {e : String × Node} (h : e ∈ n.fields shape) :
    shape.knows e.1 := by
  cases n with
  | object limit start members => exact (List.mem_filter.mp h).2
  | array limit start items => exact Shape.knows_iff.mpr (List.of_mem_zip h).1
  | _ => exact absurd h List.not_mem_nil

theorem Node.mem_parts_of_mem_fields {n : Node} {e : String × Node} (h : e ∈ n.fields shape) :
    e ∈ n.entries ∨ e.2 ∈ n.items := by
  cases n with
  | object limit start members => exact Or.inl (List.mem_of_mem_filter h)
  | array limit start items => exact Or.inr (List.of_mem_zip h).2
  | _ => exact absurd h List.not_mem_nil

theorem Node.Strict.fields {n : Node} (h : n.Strict) : ∀ e ∈ n.fields shape, e.2.Strict := by
  intro e he
  rcases Node.mem_parts_of_mem_fields he with he | he
  · exact h.entries e he
  · exact h.items e.2 he

theorem keys_zip_sublist {β : Type} (keys : List String) (xs : List β) :
    ((keys.zip xs).map (·.1)).Sublist keys := by
  induction keys generalizing xs with
  | nil => exact .slnil
  | cons k keys ih =>
    cases xs with
    | nil => exact List.nil_sublist _
    | cons x xs => exact (ih xs).cons_cons k

theorem forall₂_zip {β γ : Type} {R : β → γ → Prop} (keys : List String) {xs : List β}
    {ys : List γ} (h : Forall₂ R xs ys) : Forall₂ (SameKey R) (keys.zip xs) (keys.zip ys) := by
  induction h generalizing keys with
  | nil => simp
  | cons hhead _ ih =>
    cases keys with
    | nil => exact .nil
    | cons k keys => exact .cons ⟨rfl, hhead⟩ (ih keys)

/-- The fields of a node have values; those that the node of its value says are the same, when no
field is said twice. -/
theorem fields_ofJson {n : Node} {v : Json} (hv : n.value = .ok v)
    (hshape : (shape.fields.map (·.1)).Nodup) :
    ((Node.ofJson v).HasForm shape ↔ n.HasForm shape) ∧
    (((Node.ofJson v).fields shape).map (·.1)).Nodup ∧
    ∃ ws, Forall₂ (SameKey (Reads Node.value)) (n.fields shape) ws ∧
      (((n.fields shape).map (·.1)).Nodup →
        ((Node.ofJson v).fields shape).Perm (ws.map fun w => (w.1, Node.ofJson w.2))) := by
  cases Node.stands_of_value hv with
  | null | bool | number | text => exact ⟨Iff.rfl, .nil, [], .nil, fun _ => .refl _⟩
  | @array start items vs hwhole hparts =>
    have hform : (Node.ofJson (.array vs)).HasForm shape ↔
        (Node.array none start items).HasForm shape := by
      rw [Node.ofJson, Node.HasForm, Node.HasForm, Items.nodes_ofJson, List.length_map,
        hparts.length_eq]
    have hfields : (Node.ofJson (.array vs)).fields shape =
        ((shape.fields.map (·.1)).zip vs).map fun w => (w.1, Node.ofJson w.2) := by
      rw [Node.ofJson, Node.fields, Items.nodes_ofJson, List.zip_map_right]
      rfl
    exact ⟨hform, (keys_zip_sublist _ _).nodup hshape, _, forall₂_zip _ hparts,
      fun _ => .of_eq hfields⟩
  | @object start members vs hwhole hparts =>
    have hfields : (Node.ofJson (.object (Keyed.ofList vs))).fields shape =
        (Keyed.ofList (vs.filter fun e => shape.knows e.1)).map
          fun w => (w.1, Node.ofJson w.2) := by
      rw [Node.ofJson, Node.fields, Members.entries_ofJson, List.filter_map, ← Keyed.filter_ofList]
      rfl
    have hknown : Forall₂ (SameKey (Reads Node.value))
        (members.entries.filter fun e => shape.knows e.1)
        (vs.filter fun e => shape.knows e.1) := by
      -- An entry and its value have the same key, so both pass the filter or neither does.
      refine List.rel_filter (fun e w hew => ?_) hparts
      exact Iff.of_eq (congrArg (fun key => shape.knows key = true) hew.1)
    refine ⟨Iff.rfl, ?_, _, hknown, fun hnodup => ?_⟩
    · rw [hfields, List.map_map]
      exact (Keyed.ordered_ofList _).nodup_keys
    · rw [hfields]
      refine (Keyed.ofList_perm ?_).map _
      rwa [← Keyed.keys_eq_of_forall₂ hknown]

/-! ## Reading fields -/

section

variable (read : String → Node → σ → Read σ)

def readAll (acc : σ) (es : List (String × Node)) : Read σ :=
  es.foldlM (fun acc e => read e.1 e.2 acc) acc

theorem readAll_cons_eq_ok_iff {e : String × Node} {es : List (String × Node)} {acc a : σ} :
    readAll read acc (e :: es) = .ok a ↔
      ∃ acc', read e.1 e.2 acc = .ok acc' ∧ readAll read acc' es = .ok a := by
  rw [readAll, List.foldlM_cons, bind_eq_ok_iff]
  rfl

def Shape.Loose (s : Shape) : Prop := ∀ f ∈ s.fields, f.2 = .filled

theorem Shape.missing?_eq_none {seen : List String}
    (h : ∀ f ∈ shape.fields, f.2 = .refused → f.1 ∈ seen) : shape.missing? seen = none := by
  rw [Shape.missing?, Option.map_eq_none_iff, List.find?_eq_none]
  intro f hf hmissing
  obtain ⟨hrefused, hunseen⟩ := Bool.and_eq_true_iff.mp hmissing
  have hseen := List.contains_iff_mem.mpr (h f hf (eq_of_beq hrefused))
  rw [hseen] at hunseen
  cases hunseen

theorem Shape.missing?_of_loose (h : shape.Loose) (seen : List String) :
    shape.missing? seen = none := by
  apply Shape.missing?_eq_none
  intro f hf hrefused
  cases (h f hf).symm.trans hrefused

theorem Members.readFields_eq_ok_iff {a : σ} : ∀ (ms : Members) (acc : σ) (seen : List String),
    ms.Whole → ms.skip = .ok () → (ms.readFields read shape acc seen = .ok a ↔
      ((ms.entries.filter fun e => shape.knows e.1).map (·.1)).Nodup ∧
      (∀ e ∈ ms.entries.filter fun e => shape.knows e.1, e.1 ∉ seen) ∧
      shape.missing? (((ms.entries.filter fun e => shape.knows e.1).map (·.1)).reverse ++ seen) =
        none ∧
      readAll read acc (ms.entries.filter fun e => shape.knows e.1) = .ok a)
  | .closed stop, acc, seen, _, _ => by
    rw [readFields, entries, List.filter_nil, List.map_nil, List.reverse_nil, List.nil_append]
    cases shape.missing? seen with
    | none =>
      exact ⟨fun h => ⟨List.nodup_nil, List.forall_mem_nil _, rfl, h⟩, fun h => h.2.2.2⟩
    | some field =>
      apply iff_of_false
      · intro h
        cases h
      · rintro ⟨-, -, h, -⟩
        cases h
  | .broken .., _, _, hwhole, _ => hwhole.elim
  | .member (.error _) .., _, _, hwhole, _ => hwhole.elim
  | .member (.ok key) places value resume rest, acc, seen, hwhole, hskip => by
    cases hvalue : value.skip with
    | error f =>
      rw [Members.skip, hvalue] at hskip
      cases hskip
    | ok _ =>
      rw [Members.skip, hvalue] at hskip
      rw [readFields, entries, List.filter_cons]
      by_cases hknown : shape.knows key
      · rw [if_pos hknown, if_pos hknown, List.map_cons, List.nodup_cons, List.forall_mem_cons,
          readAll_cons_eq_ok_iff, List.reverse_cons, List.append_assoc, List.singleton_append]
        by_cases hseen : seen.contains key
        · rw [if_pos hseen]
          refine iff_of_false (fun h => ?_) fun h => h.2.1.1 (List.contains_iff_mem.mp hseen)
          cases h
        · rw [if_neg hseen]
          cases hread : read key value acc with
          | error f =>
            constructor
            · intro h
              cases h
            · rintro ⟨_, _, _, _, h, _⟩
              cases h
          | ok acc' =>
            have hrest := readFields_eq_ok_iff (a := a) rest acc' (key :: seen) hwhole hskip
            have hseen : key ∉ seen := fun hmem => hseen (List.contains_iff_mem.mpr hmem)
            simp only [hrest, List.mem_map, not_exists, not_and, List.mem_cons, not_or,
              Except.ok.injEq, exists_eq_left']
            constructor
            · rintro ⟨hnodup, hnew, hall⟩
              exact ⟨⟨fun e he => (hnew e he).1, hnodup⟩, ⟨hseen, fun e he => (hnew e he).2⟩, hall⟩
            · rintro ⟨⟨hkey, hnodup⟩, ⟨_, hnew⟩, hall⟩
              exact ⟨hnodup, fun e he => ⟨hkey e he, hnew e he⟩, hall⟩
      · rw [if_neg hknown, if_neg hknown, hvalue]
        exact readFields_eq_ok_iff rest acc seen hwhole hskip

theorem Items.readFields_eq_ok_iff {a : σ} : ∀ (items : Items) {fields : List (String × Absent)}
    {index : Nat} {acc : σ}, (∀ f ∈ fields, f.2 = .filled) → items.Whole → items.Strict →
      (items.readFields read shape index fields acc = .ok a ↔
        items.nodes.length ≤ fields.length ∧
        readAll read acc ((fields.map (·.1)).zip items.nodes) = .ok a)
  | .closed stop, fields, index, acc, hfilled, _, _ => by
    induction fields generalizing index with
    | nil => exact (and_iff_right (Nat.le_refl 0)).symm
    | cons f fields ih =>
      obtain ⟨name, absent⟩ := f
      obtain ⟨rfl, hrest⟩ := List.forall_mem_cons.mp hfilled
      rw [readFields, ih (index + 1) hrest, nodes, List.zip_nil_right, List.zip_nil_right]
      exact and_congr_left fun _ => iff_of_true (Nat.zero_le _) (Nat.zero_le _)
  | .broken .., _, _, _, _, hwhole, _ => hwhole.elim
  | .item finish value resume rest, [], index, acc, _, _, hstrict => by
    obtain ⟨f, hf⟩ := Option.isSome_iff_exists.mp hstrict.1
    unfold readFields
    rw [hf]
    refine iff_of_false (fun h => ?_) fun h => Nat.not_succ_le_zero _ h.1
    cases h
  | .item finish value resume rest, (field, _) :: fields, index, acc, hfilled, hwhole, hstrict => by
    obtain ⟨_, hfilled⟩ := List.forall_mem_cons.mp hfilled
    rw [readFields, nodes, List.map_cons, List.zip_cons_cons, readAll_cons_eq_ok_iff,
      List.length_cons, List.length_cons, Nat.add_le_add_iff_right]
    cases hread : read field value acc with
    | error f =>
      constructor
      · intro h
        cases h
      · rintro ⟨_, _, h, _⟩
        cases h
    | ok acc' =>
      simp only [Except.ok.injEq, exists_eq_left']
      exact readFields_eq_ok_iff rest hfilled hwhole hstrict.2.2

/-- A record is read from the fields that its node says, when none is said twice. -/
theorem readRecord_eq_ok_iff (hloose : shape.Loose) (hshape : (shape.fields.map (·.1)).Nodup)
    {n : Node} {v : Json} (hv : n.value = .ok v) (hstrict : n.Strict) {empty a : σ} :
    Node.readRecord read shape empty n = .ok a ↔ n.HasForm shape ∧
      ((n.fields shape).map (·.1)).Nodup ∧ readAll read empty (n.fields shape) = .ok a := by
  have hskip := Node.skip_of_value hv
  cases Node.stands_of_value hv with
  | null | bool | number | text => exact ⟨nofun, fun h => h.1.elim⟩
  | @array start items vs hwhole hparts =>
    change items.readFields read shape 0 shape.fields empty = .ok a ↔ _
    rw [Items.readFields_eq_ok_iff read items hloose hwhole hstrict]
    exact and_congr_right fun _ =>
      (and_iff_right ((keys_zip_sublist (shape.fields.map (·.1)) items.nodes).nodup hshape)).symm
  | @object start members vs hwhole hparts =>
    change members.readFields read shape empty [] = .ok a ↔ _
    rw [Members.readFields_eq_ok_iff read members empty [] hwhole hskip]
    simp only [Shape.missing?_of_loose hloose, List.not_mem_nil, not_false_eq_true, implies_true,
      true_and]
    exact (and_iff_right trivial).symm

/-- An object that says only fields of a record, each once, and those that have to be there. -/
theorem Node.readRecord_ofJson_object {es : List (String × Json)} (hnodup : (es.map (·.1)).Nodup)
    (hknown : ∀ e ∈ es, shape.knows e.1)
    (hcomplete : ∀ f ∈ shape.fields, f.2 = .refused → f.1 ∈ es.map (·.1)) {empty a : σ} :
    Node.readRecord read shape empty (.ofJson (.object es)) = .ok a ↔
      readAll read empty (es.map fun e => (e.1, Node.ofJson e.2)) = .ok a := by
  have hfields : (es.map fun e => (e.1, Node.ofJson e.2)).filter (fun e => shape.knows e.1) =
      es.map fun e => (e.1, Node.ofJson e.2) := by
    apply List.filter_eq_self.mpr
    intro e he
    obtain ⟨w, hw, rfl⟩ := List.mem_map.mp he
    exact hknown w hw
  have hkeys : (es.map fun e => (e.1, Node.ofJson e.2)).map (·.1) = es.map (·.1) := by
    rw [List.map_map]
    rfl
  change (Members.ofJson es).readFields read shape empty [] = .ok a ↔ _
  rw [Members.readFields_eq_ok_iff read _ _ _ (Members.whole_ofJson es) (Members.skip_ofJson es),
    Members.entries_ofJson, hfields, hkeys, and_iff_right hnodup, and_iff_right fun _ _ => nofun,
    and_iff_right]
  apply Shape.missing?_eq_none
  intro f hf hrefused
  rw [List.append_nil, List.mem_reverse]
  exact hcomplete f hf hrefused

section Invariant

variable {read} {P : Node → Prop} {I : σ → Prop}
  (hread : ∀ key n acc a, P n → I acc → read key n acc = .ok a → I a)
include hread

theorem Members.invariant_readFields {a : σ} : ∀ (ms : Members) {acc : σ} {seen : List String},
    (∀ e ∈ ms.entries, P e.2) → I acc → ms.readFields read shape acc seen = .ok a → I a
  | .closed _, acc, seen, _, hacc, h => by
    rw [readFields] at h
    split at h
    · cases h
    · cases h
      exact hacc
  | .broken .., _, _, _, _, h => by cases h
  | .member (.error _) .., _, _, _, _, h => by cases h
  | .member (.ok key) _ value _ rest, acc, seen, hparts, hacc, h => by
    obtain ⟨hvalue, hrest⟩ := List.forall_mem_cons.mp hparts
    rw [readFields] at h
    split at h
    · split at h
      · cases h
      · split at h
        · cases h
        · rename_i acc' hacc'
          exact rest.invariant_readFields hrest (hread key value acc acc' hvalue hacc hacc') h
    · split at h
      · cases h
      · exact rest.invariant_readFields hrest hacc h

theorem Items.invariant_readFields {a : σ} : ∀ (items : Items)
    {fields : List (String × Absent)} {index : Nat} {acc : σ},
    (∀ n ∈ items.nodes, P n) → I acc → items.readFields read shape index fields acc = .ok a → I a
  | .closed stop, fields, index, acc, _, hacc, h => by
    induction fields generalizing index with
    | nil =>
      cases h
      exact hacc
    | cons f fields ih =>
      obtain ⟨name, filled | null | refused⟩ := f
      · exact ih (index + 1) h
      · cases h
      · cases h
  | .broken .., [], _, _, _, _, h => by cases h
  | .broken .., _ :: _, _, _, _, _, h => by
    rw [readFields] at h
    cases h
  | .item finish _ _ _, [], _, acc, _, hacc, h => by
    cases finish with
    | some f => cases h
    | none =>
      cases h
      exact hacc
  | .item _ value _ rest, (field, _) :: fields, index, acc, hparts, hacc, h => by
    obtain ⟨hvalue, hrest⟩ := List.forall_mem_cons.mp hparts
    rw [readFields] at h
    split at h
    · cases h
    · rename_i acc' hacc'
      exact rest.invariant_readFields hrest (hread field value acc acc' hvalue hacc hacc') h

/-- What holds of the empty record and is kept by every field holds of the record that is read. -/
theorem Node.invariant_readRecord {n : Node} (hitems : ∀ m ∈ n.items, P m)
    (hentries : ∀ e ∈ n.entries, P e.2) {empty a : σ} (hempty : I empty)
    (h : Node.readRecord read shape empty n = .ok a) : I a := by
  cases n with
  | object limit start members =>
    obtain ⟨_, _, h⟩ := bind_eq_ok_iff.mp h
    exact members.invariant_readFields hread hentries hempty h
  | array limit start items =>
    obtain ⟨_, _, h⟩ := bind_eq_ok_iff.mp h
    exact items.invariant_readFields hread hitems hempty h
  | _ => cases h

end Invariant

end

theorem Node.kept_by_readRecord {read : String → Node → σ → Read σ} {I : σ → Prop}
    (hread : ∀ key n acc a, I acc → read key n acc = .ok a → I a) {n : Node} {empty a : σ}
    (hempty : I empty) (h : Node.readRecord read shape empty n = .ok a) : I a := by
  apply Node.invariant_readRecord (P := fun _ => True) _ (fun _ _ => trivial)
    (fun _ _ => trivial) hempty h
  intro key m acc a _ hacc hm
  exact hread key m acc a hacc hm

/-! ## Records and their values -/

/-- Each field is read for itself, into a change of the record, and changes by different fields can
be made in any order. -/
structure FieldWise (shape : Shape) (read : String → Node → σ → Read σ)
    (change : String → Node → Read (σ → σ)) : Prop where
  loose : shape.Loose
  nodup : (shape.fields.map (·.1)).Nodup
  read_eq : ∀ key n acc, read key n acc = (fun f => f acc) <$> change key n
  comm : ∀ {k₁ k₂ : String} {n₁ n₂ : Node} {f g : σ → σ}, shape.knows k₁ → shape.knows k₂ →
    k₁ ≠ k₂ → change k₁ n₁ = .ok f → change k₂ n₂ = .ok g → ∀ s, f (g s) = g (f s)

def applyAll (s : σ) (fs : List (σ → σ)) : σ := fs.foldl (fun s f => f s) s

namespace FieldWise

variable {read : String → Node → σ → Read σ} {change : String → Node → Read (σ → σ)}

def Changes (change : String → Node → Read (σ → σ)) (e : String × Node) (f : σ → σ) : Prop :=
  change e.1 e.2 = .ok f

theorem readAll_eq_ok_iff (h : FieldWise shape read change) {es : List (String × Node)}
    {acc a : σ} : readAll read acc es = .ok a ↔
      ∃ fs, Forall₂ (Changes change) es fs ∧ applyAll acc fs = a := by
  induction es generalizing acc with
  | nil => simp [readAll, applyAll, pure, Except.pure]
  | cons e es ih =>
    rw [readAll_cons_eq_ok_iff]
    simp only [h.read_eq, map_eq_ok_iff, ih, List.forall₂_cons_left_iff]
    constructor
    · rintro ⟨_, ⟨f, hf, rfl⟩, fs, hfs, rfl⟩
      exact ⟨f :: fs, ⟨f, fs, hf, hfs, rfl⟩, rfl⟩
    · rintro ⟨_, ⟨f, fs, hf, hfs, rfl⟩, rfl⟩
      exact ⟨_, ⟨f, hf, rfl⟩, fs, hfs, rfl⟩

/-- The order of the fields does not matter. -/
theorem exists_changes_of_perm (h : FieldWise shape read change) {es es' : List (String × Node)}
    (hperm : es.Perm es') (hnodup : (es.map (·.1)).Nodup) (hknown : ∀ e ∈ es, shape.knows e.1)
    {s a : σ} (hes : ∃ fs, Forall₂ (Changes change) es fs ∧ applyAll s fs = a) :
    ∃ fs, Forall₂ (Changes change) es' fs ∧ applyAll s fs = a := by
  obtain ⟨fs, hfs, rfl⟩ := hes
  obtain ⟨gs, hgs, hgsfs⟩ := List.perm_comp_forall₂ hperm.symm hfs
  refine ⟨gs, hgs, List.Perm.foldl_eq' hgsfs (fun f hf g hg s => ?_) s⟩
  obtain ⟨e₁, he₁, hf⟩ := exists_of_mem_right hfs (hgsfs.subset hf)
  obtain ⟨e₂, he₂, hg⟩ := exists_of_mem_right hfs (hgsfs.subset hg)
  -- Two changes by one field are the same change, since no field comes twice.
  by_cases hkey : e₁.1 = e₂.1
  · obtain rfl := List.inj_on_of_nodup_map hnodup he₁ he₂ hkey
    obtain rfl := Except.ok.inj (hf.symm.trans hg)
    rfl
  · exact (h.comm (hknown e₁ he₁) (hknown e₂ he₂) hkey hf hg s).symm

end FieldWise

/-- A record agrees on a node and its value when all its fields do and none is said twice. -/
theorem Agrees.record {read : String → Node → σ → Read σ}
    {change : String → Node → Read (σ → σ)} (h : FieldWise shape read change)
    {Fit : String → Node → Prop} {empty : σ} {n : Node} (hstrict : n.Strict)
    (hfields : ∀ e ∈ n.fields shape, Agrees (change e.1) (Fit e.1) e.2) :
    Agrees (Node.readRecord read shape empty) (fun n => ((n.fields shape).map (·.1)).Nodup ∧
      ∀ e ∈ n.fields shape, Fit e.1 e.2) n := by
  intro v hv a
  obtain ⟨hform, hnodup', ws, hws, hperm⟩ := fields_ofJson hv h.nodup
  rw [readRecord_eq_ok_iff read h.loose h.nodup hv hstrict,
    readRecord_eq_ok_iff read h.loose h.nodup (Node.value_ofJson hv) (Node.strict_ofJson v),
    hform, and_iff_right hnodup', h.readAll_eq_ok_iff, h.readAll_eq_ok_iff, and_assoc]
  refine and_congr_right fun _ => ?_
  -- Field by field the changes are the same, but the value has its fields in another order.
  have hparts {fs : List (σ → σ)} : Forall₂ (FieldWise.Changes change) (n.fields shape) fs ↔
      Forall₂ (FieldWise.Changes change) (ws.map fun w => (w.1, Node.ofJson w.2)) fs ∧
        ∀ e ∈ n.fields shape, Fit e.1 e.2 := by
    rw [List.forall₂_map_left_iff]
    refine forall₂_iff_of_parts hws fun e he w _ hew f => ?_
    have hread := hfields e he w.2 hew.2 f
    rw [FieldWise.Changes, FieldWise.Changes, hread, hew.1]
  have hknown : ∀ e ∈ (Node.ofJson v).fields shape, shape.knows e.1 :=
    fun _ he => Node.knows_of_mem_fields he
  constructor
  · rintro ⟨hnodup, fs, hfs, ha⟩
    obtain ⟨hvalues, hfit⟩ := hparts.mp hfs
    have hkeys := ((hperm hnodup).map (·.1)).nodup_iff.mp hnodup'
    refine ⟨h.exists_changes_of_perm (hperm hnodup).symm hkeys (fun e he => ?_)
      ⟨fs, hvalues, ha⟩, hnodup, hfit⟩
    exact hknown e ((hperm hnodup).symm.subset he)
  · rintro ⟨hvalues, hnodup, hfit⟩
    obtain ⟨fs, hfs, ha⟩ := h.exists_changes_of_perm (hperm hnodup) hnodup' hknown hvalues
    exact ⟨hnodup, fs, hparts.mpr ⟨hfs, hfit⟩, ha⟩

end AppScaffold.Json

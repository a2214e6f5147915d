import AppScaffold.Json.Decode
import AppScaffold.Proofs.Except
import AppScaffold.Proofs.Keyed.Lookup

/-!
# The form of nodes that have a value

Which items and entries a node has, and what its value says of them. A node that has a value is
whole: nothing in it is broken, and its value is read from the values of its parts. The node of that
value has the value itself. Main statements: `Node.stands_of_value`, `Node.value_ofJson`.
-/

set_option autoImplicit false

namespace AppScaffold.Json

open Keyed (SameKey)
open List (Forall₂)

variable {α : Type}

/-! ## Parts -/

namespace Items

def nodes : Items → List Node
  | .closed _ => []
  | .broken .. => []
  | .item _ value _ rest => value :: rest.nodes

def Whole : Items → Prop
  | .closed _ => True
  | .broken .. => False
  | .item _ _ _ rest => rest.Whole

end Items

namespace Members

/-- The members whose keys can be read. -/
def entries : Members → List (String × Node)
  | .closed _ => []
  | .broken .. => []
  | .member (.ok key) _ value _ rest => (key, value) :: rest.entries
  | .member (.error _) _ _ _ rest => rest.entries

def Whole : Members → Prop
  | .closed _ => True
  | .broken .. => False
  | .member (.ok _) _ _ _ rest => rest.Whole
  | .member (.error _) .. => False

end Members

namespace Node

def items : Node → List Node
  | .array _ _ items => items.nodes
  | _ => []

def entries : Node → List (String × Node)
  | .object _ _ members => members.entries
  | _ => []

end Node

mutual

/-- What holds of a node when it holds of its items and members holds of every node. -/
theorem Node.induction_parts {P : Node → Prop}
    (step : ∀ n : Node, (∀ m ∈ n.items, P m) → (∀ e ∈ n.entries, P e.2) → P n) : ∀ n, P n
  | .array limit start items =>
    step (.array limit start items) (Items.induction_parts step items) (List.forall_mem_nil _)
  | .object limit start members =>
    step (.object limit start members) (List.forall_mem_nil _)
      (Members.induction_parts step members)
  | .null stop => step (.null stop) (List.forall_mem_nil _) (List.forall_mem_nil _)
  | .bool b stop => step (.bool b stop) (List.forall_mem_nil _) (List.forall_mem_nil _)
  | .number n start stop =>
    step (.number n start stop) (List.forall_mem_nil _) (List.forall_mem_nil _)
  | .text s stop => step (.text s stop) (List.forall_mem_nil _) (List.forall_mem_nil _)
  | .foreign found place =>
    step (.foreign found place) (List.forall_mem_nil _) (List.forall_mem_nil _)
  | .broken read skip => step (.broken read skip) (List.forall_mem_nil _) (List.forall_mem_nil _)

theorem Items.induction_parts {P : Node → Prop}
    (step : ∀ n : Node, (∀ m ∈ n.items, P m) → (∀ e ∈ n.entries, P e.2) → P n) :
    ∀ items : Items, ∀ m ∈ items.nodes, P m
  | .closed _ => List.forall_mem_nil _
  | .broken .. => List.forall_mem_nil _
  | .item _ value _ rest =>
    List.forall_mem_cons.mpr ⟨Node.induction_parts step value, Items.induction_parts step rest⟩

theorem Members.induction_parts {P : Node → Prop}
    (step : ∀ n : Node, (∀ m ∈ n.items, P m) → (∀ e ∈ n.entries, P e.2) → P n) :
    ∀ ms : Members, ∀ e ∈ ms.entries, P e.2
  | .closed _ => List.forall_mem_nil _
  | .broken .. => List.forall_mem_nil _
  | .member (.ok _) _ value _ rest =>
    List.forall_mem_cons.mpr ⟨Node.induction_parts step value, Members.induction_parts step rest⟩
  | .member (.error _) _ _ _ rest => Members.induction_parts step rest

end

/-! ## Lists and maps -/

def Reads {γ : Type} (read : γ → Read α) (x : γ) (a : α) : Prop := read x = .ok a

theorem Items.readEach_eq_ok_iff {read : Node → Read α} : ∀ (items : Items) {index : Nat}
    {as : List α}, items.readEach read index = .ok as ↔
      items.Whole ∧ Forall₂ (Reads read) items.nodes as
  | .closed _, _, as => by
    simp [readEach, Whole, nodes, eq_comm]
  | .broken .., _, _ => by
    simp [readEach, Whole]
  | .item _ value _ rest, index, as => by
    simp only [readEach, Whole, nodes, bind_eq_ok_iff, mapError_eq_ok_iff,
      readEach_eq_ok_iff rest, List.forall₂_cons_left_iff]
    constructor
    · rintro ⟨a, ha, as, ⟨hwhole, has⟩, heq⟩
      exact ⟨hwhole, a, as, ha, has, (Except.ok.inj heq).symm⟩
    · rintro ⟨hwhole, a, as, ha, has, rfl⟩
      exact ⟨a, ha, as, ⟨hwhole, has⟩, rfl⟩

theorem Members.readMap_eq_ok_iff {read : Node → Read α} : ∀ (ms : Members)
    {known out : List (String × α)}, ms.readMap read known = .ok out ↔
      ms.Whole ∧ ∃ as, Forall₂ (SameKey (Reads read)) ms.entries as ∧
        out = as.foldl (fun acc e => Keyed.insert e.1 e.2 acc) known
  | .closed _, known, out => by
    simp [readMap, Whole, entries, eq_comm]
  | .broken .., _, _ => by
    simp [readMap, Whole]
  | .member (.error _) .., _, _ => by
    simp [readMap, Whole]
  | .member (.ok key) _ value _ rest, known, out => by
    simp only [readMap, Whole, entries, bind_eq_ok_iff, mapError_eq_ok_iff,
      readMap_eq_ok_iff rest, List.forall₂_cons_left_iff]
    constructor
    · rintro ⟨a, ha, hwhole, as, has, rfl⟩
      exact ⟨hwhole, _, ⟨(key, a), as, ⟨rfl, ha⟩, has, rfl⟩, rfl⟩
    · rintro ⟨hwhole, _, ⟨⟨_, a⟩, as, ⟨rfl, ha⟩, has, rfl⟩, rfl⟩
      exact ⟨a, ha, hwhole, as, has, rfl⟩

/-! ## Values -/

theorem Items.values_eq_ok_iff : ∀ (items : Items) {index : Nat} {vs : List Json},
    items.values index = .ok vs ↔ items.readEach Node.value index = .ok vs
  | .closed _, _, _ => Iff.rfl
  | .broken .., _, _ => Iff.rfl
  | .item _ _ _ rest, index, vs => by
    simp only [values, readEach, bind_eq_ok_iff, mapError_eq_ok_iff, values_eq_ok_iff rest]

theorem Members.values_eq_ok_iff : ∀ (ms : Members) {known out : List (String × Json)},
    ms.values known = .ok out ↔ ms.readMap Node.value known = .ok out
  | .closed _, _, _ => Iff.rfl
  | .broken .., _, _ => by simp [values, readMap]
  | .member (.error _) .., _, _ => by simp [values, readMap]
  | .member (.ok _) _ _ _ rest, known, out => by
    simp only [values, readMap, bind_eq_ok_iff, mapError_eq_ok_iff, values_eq_ok_iff rest]

/-- The value of a node, by its form and the values of its parts. -/
inductive Stands : Node → Json → Prop
  | null (stop : Option Place) : Stands (.null stop) .null
  | bool (b : Bool) (stop : Option Place) : Stands (.bool b stop) (.bool b)
  | number (n : Number) (start stop : Option Place) :
      Stands (.number (.ok n) start stop) (.number n)
  | text (s : String) (stop : Option Place) : Stands (.text (.ok s) stop) (.text s)
  | array (start : Option Place) {items : Items} {vs : List Json} : items.Whole →
      Forall₂ (Reads Node.value) items.nodes vs →
      Stands (.array none start items) (.array vs)
  | object (start : Option Place) {members : Members} {vs : List (String × Json)} :
      members.Whole → Forall₂ (SameKey (Reads Node.value)) members.entries vs →
      Stands (.object none start members) (.object (Keyed.ofList vs))

theorem enter_eq_ok_iff {limit : Option Fault} : enter limit = .ok () ↔ limit = none := by
  cases limit <;> simp [enter]

theorem Node.stands_of_value {n : Node} {v : Json} (h : n.value = .ok v) : Stands n v := by
  cases n with
  | null stop =>
    cases h
    exact .null stop
  | bool b stop =>
    cases h
    exact .bool b stop
  | number k start stop =>
    cases k with
    | error f => cases h
    | ok k =>
      cases h
      exact .number k start stop
  | text s stop =>
    cases s with
    | error f => cases h
    | ok s =>
      cases h
      exact .text s stop
  | array limit start items =>
    -- An array that is nested too deeply is not entered, and so has no value.
    obtain ⟨_, hlimit, h⟩ := bind_eq_ok_iff.mp h
    obtain ⟨vs, hvs, heq⟩ := bind_eq_ok_iff.mp h
    obtain rfl := enter_eq_ok_iff.mp hlimit
    obtain ⟨hwhole, hparts⟩ := (Items.readEach_eq_ok_iff _).mp ((Items.values_eq_ok_iff _).mp hvs)
    cases heq
    exact .array start hwhole hparts
  | object limit start members =>
    obtain ⟨_, hlimit, h⟩ := bind_eq_ok_iff.mp h
    obtain ⟨out, hout, heq⟩ := bind_eq_ok_iff.mp h
    obtain rfl := enter_eq_ok_iff.mp hlimit
    obtain ⟨hwhole, vs, hparts, rfl⟩ :=
      (Members.readMap_eq_ok_iff _).mp ((Members.values_eq_ok_iff _).mp hout)
    cases heq
    exact .object start hwhole hparts
  | foreign found place => cases h
  | broken read skip => cases h

mutual

theorem Node.skip_of_value : ∀ {n : Node} {v : Json}, n.value = .ok v → n.skip = .ok ()
  | .null _, _, _ | .bool _ _, _, _ | .number _ _ _, _, _ | .text _ _, _, _
  | .foreign _ _, _, _ => rfl
  | .broken .., _, h => nomatch h
  | .array limit start items, v, h => by
    obtain ⟨_, _, h⟩ := bind_eq_ok_iff.mp h
    obtain ⟨vs, hvs, _⟩ := bind_eq_ok_iff.mp h
    exact Items.skip_of_values hvs
  | .object limit start members, v, h => by
    obtain ⟨_, _, h⟩ := bind_eq_ok_iff.mp h
    obtain ⟨out, hout, _⟩ := bind_eq_ok_iff.mp h
    exact Members.skip_of_values hout

theorem Items.skip_of_values : ∀ {items : Items} {index : Nat} {vs : List Json},
    items.values index = .ok vs → items.skip = .ok ()
  | .closed _, _, _, _ => rfl
  | .broken .., _, _, h => nomatch h
  | .item _ value _ rest, index, vs, h => by
    obtain ⟨v, hv, h⟩ := bind_eq_ok_iff.mp h
    obtain ⟨vs, hvs, _⟩ := bind_eq_ok_iff.mp h
    rw [Items.skip, Node.skip_of_value (mapError_eq_ok_iff.mp hv)]
    exact Items.skip_of_values hvs

theorem Members.skip_of_values : ∀ {ms : Members} {known out : List (String × Json)},
    ms.values known = .ok out → ms.skip = .ok ()
  | .closed _, _, _, _ => rfl
  | .broken .., _, _, h => nomatch h
  | .member (.error _) .., _, _, h => nomatch h
  | .member (.ok _) _ value _ rest, known, out, h => by
    obtain ⟨v, hv, h⟩ := bind_eq_ok_iff.mp h
    rw [Members.skip, Node.skip_of_value (mapError_eq_ok_iff.mp hv)]
    exact Members.skip_of_values h

end

/-! ## The node of a value -/

theorem Items.nodes_ofJson (count : Nat) (vs : List Json) :
    (Items.ofJson count vs).nodes = vs.map Node.ofJson := by
  induction vs with
  | nil => rfl
  | cons v vs ih => rw [ofJson, nodes, ih, List.map_cons]

theorem Items.whole_ofJson (count : Nat) (vs : List Json) : (Items.ofJson count vs).Whole := by
  induction vs with
  | nil => trivial
  | cons v vs ih => exact ih

theorem Members.entries_ofJson (vs : List (String × Json)) :
    (Members.ofJson vs).entries = vs.map fun e => (e.1, Node.ofJson e.2) := by
  induction vs with
  | nil => rfl
  | cons e vs ih => rw [ofJson, entries, ih, List.map_cons]

theorem Members.whole_ofJson (vs : List (String × Json)) : (Members.ofJson vs).Whole := by
  induction vs with
  | nil => trivial
  | cons e vs ih => exact ih

mutual

theorem Node.skip_ofJson : ∀ v, (Node.ofJson v).skip = .ok ()
  | .null | .bool _ | .number _ | .text _ => rfl
  | .array vs => Items.skip_ofJson vs.length vs
  | .object es => Members.skip_ofJson es

theorem Items.skip_ofJson (count : Nat) : ∀ vs, (Items.ofJson count vs).skip = .ok ()
  | [] => rfl
  | v :: vs => by
    rw [Items.ofJson, Items.skip, Node.skip_ofJson v]
    exact Items.skip_ofJson count vs

theorem Members.skip_ofJson : ∀ es, (Members.ofJson es).skip = .ok ()
  | [] => rfl
  | (_, v) :: es => by
    rw [Members.ofJson, Members.skip, Node.skip_ofJson v]
    exact Members.skip_ofJson es

end

theorem exists_of_mem_right {α β : Type} {R : α → β → Prop} {xs : List α} {ys : List β}
    (h : Forall₂ R xs ys) {y : β} (hy : y ∈ ys) : ∃ x ∈ xs, R x y := by
  induction h with
  | nil => exact absurd hy List.not_mem_nil
  | cons hhead _ ih =>
    rcases List.mem_cons.mp hy with rfl | hy
    · exact ⟨_, List.mem_cons_self, hhead⟩
    · obtain ⟨x, hx, hxy⟩ := ih hy
      exact ⟨x, List.mem_cons_of_mem _ hx, hxy⟩

theorem exists_of_mem_left {α β : Type} {R : α → β → Prop} {xs : List α} {ys : List β}
    (h : Forall₂ R xs ys) {x : α} (hx : x ∈ xs) : ∃ y ∈ ys, R x y :=
  exists_of_mem_right (R := flip R) h.flip hx

theorem Node.exists_of_mem_readList {read : Node → Read α} {n : Node} {as : List α}
    (h : n.readList read = .ok as) {a : α} (ha : a ∈ as) : ∃ m ∈ n.items, read m = .ok a := by
  cases n with
  | array limit start items =>
    obtain ⟨_, _, hitems⟩ := bind_eq_ok_iff.mp h
    exact exists_of_mem_right ((Items.readEach_eq_ok_iff items).mp hitems).2 ha
  | _ => cases h

theorem Node.exists_of_mem_readMap {read : Node → Read α} {n : Node} {es : List (String × α)}
    (h : n.readMap read = .ok es) {e : String × α} (he : e ∈ es) :
    ∃ m ∈ n.entries, m.1 = e.1 ∧ read m.2 = .ok e.2 := by
  cases n with
  | object limit start members =>
    obtain ⟨_, _, hmembers⟩ := bind_eq_ok_iff.mp h
    obtain ⟨_, as, has, rfl⟩ := (Members.readMap_eq_ok_iff members).mp hmembers
    exact exists_of_mem_right has (Keyed.mem_of_mem_ofList he)
  | _ => cases h

theorem Node.value_ofJson_array {vs : List Json}
    (h : ∀ v ∈ vs, (Node.ofJson v).value = .ok v) :
    (Node.ofJson (.array vs)).value = .ok (.array vs) := by
  have hvalues : (Items.ofJson vs.length vs).values 0 = .ok vs := by
    rw [Items.values_eq_ok_iff, Items.readEach_eq_ok_iff, Items.nodes_ofJson,
      List.forall₂_map_left_iff, List.forall₂_same]
    exact ⟨Items.whole_ofJson _ vs, h⟩
  rw [ofJson, value, hvalues]
  rfl

theorem Node.value_ofJson_object {es : List (String × Json)} (hordered : Keyed.Ordered es)
    (h : ∀ e ∈ es, (Node.ofJson e.2).value = .ok e.2) :
    (Node.ofJson (.object es)).value = .ok (.object es) := by
  have hvalues : (Members.ofJson es).values [] = .ok es := by
    rw [Members.values_eq_ok_iff, Members.readMap_eq_ok_iff, Members.entries_ofJson]
    refine ⟨Members.whole_ofJson _, es, ?_, ?_⟩
    · rw [List.forall₂_map_left_iff, List.forall₂_same]
      exact fun e he => ⟨rfl, h e he⟩
    · exact (Keyed.ofList_of_ordered hordered).symm
  rw [ofJson, value, hvalues]
  rfl

theorem Node.value_ofJson {n : Node} {v : Json} (h : n.value = .ok v) :
    (Node.ofJson v).value = .ok v := by
  revert v
  refine Node.induction_parts (P := fun n => ∀ {v}, n.value = .ok v → (Node.ofJson v).value = .ok v)
    (fun n hitems hentries v h => ?_) n
  cases Node.stands_of_value h with
  | null | bool | number | text => rfl
  | @array start items vs hwhole hparts =>
    have hsame : ∀ v ∈ vs, (Node.ofJson v).value = .ok v := by
      intro v hv
      obtain ⟨m, hm, hvalue⟩ := exists_of_mem_right hparts hv
      exact hitems m hm hvalue
    exact Node.value_ofJson_array hsame
  | @object start members vs hwhole hparts =>
    have hsame : ∀ e ∈ Keyed.ofList vs, (Node.ofJson e.2).value = .ok e.2 := by
      intro e he
      obtain ⟨m, hm, _, hvalue⟩ := exists_of_mem_right hparts (Keyed.mem_of_mem_ofList he)
      exact hentries m hm hvalue
    exact Node.value_ofJson_object (Keyed.ordered_ofList vs) hsame

end AppScaffold.Json

import AppScaffold.Proofs.Json.Strict

/-!
# Reading a node and reading its value

A reader agrees with itself on a node that has a value when it reads the same from the node and from
the node of the value, up to what the value no longer shows. Readers that are put together from
readers that agree do so too. What a value no longer shows is how often a key was there: a record
refuses a field that is said twice, and a map reads all values of a key.
-/

set_option autoImplicit false

namespace AppScaffold.Json

open Keyed (SameKey)
open List (Forall₂)

variable {α β : Type}

/-- Reading the node gives what reading its value gives, provided that the node is fit. -/
def Agrees (read : Node → Read α) (Fit : Node → Prop) (n : Node) : Prop :=
  ∀ v, n.value = .ok v → ∀ a, read n = .ok a ↔ read (.ofJson v) = .ok a ∧ Fit n

variable {read : Node → Read α} {Fit : Node → Prop} {n : Node}

namespace Agrees

theorem congr {read' : Node → Read α} {Fit' : Node → Prop} (h : Agrees read Fit n)
    (hread : ∀ m, read' m = read m) (hfit : Fit' n ↔ Fit n) : Agrees read' Fit' n := by
  intro v hv a
  rw [hread, hread, hfit]
  exact h v hv a

theorem map (f : α → β) (h : Agrees read Fit n) : Agrees (fun m => f <$> read m) Fit n := by
  intro v hv b
  simp only [map_eq_ok_iff, h v hv]
  constructor
  · rintro ⟨a, ⟨ha, hfit⟩, hb⟩
    exact ⟨⟨a, ha, hb⟩, hfit⟩
  · rintro ⟨⟨a, ha, hb⟩, hfit⟩
    exact ⟨a, ⟨ha, hfit⟩, hb⟩

theorem bind (f : α → Read β) (h : Agrees read Fit n) :
    Agrees (fun m => read m >>= f) Fit n := by
  intro v hv b
  simp only [bind_eq_ok_iff, h v hv]
  constructor
  · rintro ⟨a, ⟨ha, hfit⟩, hb⟩
    exact ⟨⟨a, ha, hb⟩, hfit⟩
  · rintro ⟨⟨a, ha, hb⟩, hfit⟩
    exact ⟨a, ⟨ha, hfit⟩, hb⟩

theorem option (h : Agrees read Fit n) (hnull : ∀ stop, Fit (.null stop)) :
    Agrees (Node.readOption read) Fit n := by
  intro v hv a
  have hsome := h.map some v hv a
  cases Node.stands_of_value hv with
  | null stop => exact ⟨fun ha => ⟨ha, hnull stop⟩, fun ha => ha.1⟩
  | bool | number | text | array | object => exact hsome

theorem text : Agrees Node.readText (fun _ => True) n := by
  intro v hv a
  cases Node.stands_of_value hv with
  | text s stop => exact ⟨fun h => ⟨h, trivial⟩, fun h => h.1⟩
  | null | bool | number | array | object => exact ⟨nofun, nofun⟩

end Agrees

/-! ## Lists and maps -/

theorem forall₂_iff_of_parts {γ δ ε : Type} {R : γ → δ → Prop} {S : γ → ε → Prop}
    {T : δ → ε → Prop} {Fit : γ → Prop} {xs : List γ} {ys : List δ} (hxy : Forall₂ R xs ys)
    (h : ∀ x ∈ xs, ∀ y ∈ ys, R x y → ∀ z, S x z ↔ T y z ∧ Fit x) {zs : List ε} :
    Forall₂ S xs zs ↔ Forall₂ T ys zs ∧ ∀ x ∈ xs, Fit x := by
  induction hxy generalizing zs with
  | nil => simp
  | @cons x y xs ys hhead _ ih =>
    have hparts := h x List.mem_cons_self y List.mem_cons_self hhead
    have hrest : ∀ x ∈ xs, ∀ y ∈ ys, R x y → ∀ z, S x z ↔ T y z ∧ Fit x :=
      fun x hx y hy => h x (List.mem_cons_of_mem _ hx) y (List.mem_cons_of_mem _ hy)
    rw [List.forall_mem_cons]
    cases zs with
    | nil => exact ⟨nofun, fun hfit => nomatch hfit.1⟩
    | cons z zs =>
      rw [List.forall₂_cons, List.forall₂_cons, hparts, ih hrest]
      exact and_and_and_comm

def ofValue (read : Node → Read α) (v : Json) : Read α := read (.ofJson v)

theorem Node.readList_ofJson_eq_ok_iff {vs : List Json} {as : List α} :
    Node.readList read (.ofJson (.array vs)) = .ok as ↔ Forall₂ (Reads (ofValue read)) vs as := by
  change (Items.ofJson vs.length vs).readEach read 0 = .ok as ↔ _
  rw [Items.readEach_eq_ok_iff, Items.nodes_ofJson, List.forall₂_map_left_iff,
    and_iff_right (Items.whole_ofJson _ vs)]
  rfl

theorem Agrees.list (h : ∀ m ∈ n.items, Agrees read Fit m) :
    Agrees (Node.readList read) (fun n => ∀ m ∈ n.items, Fit m) n := by
  intro v hv as
  cases Node.stands_of_value hv with
  | null | bool | number | text | object => exact ⟨nofun, nofun⟩
  | @array start items vs hwhole hparts =>
    have hleft : Node.readList read (.array none start items) = .ok as ↔
        Forall₂ (Reads read) items.nodes as := by
      change items.readEach read 0 = .ok as ↔ _
      rw [Items.readEach_eq_ok_iff, and_iff_right hwhole]
    rw [hleft, Node.readList_ofJson_eq_ok_iff]
    exact forall₂_iff_of_parts hparts fun m hm v _ hmv => h m hm v hmv

theorem exists_forall₂ {γ δ : Type} {R : γ → δ → Prop} {xs : List γ}
    (h : ∀ x ∈ xs, ∃ y, R x y) : ∃ ys, Forall₂ R xs ys := by
  induction xs with
  | nil => exact ⟨[], .nil⟩
  | cons x xs ih =>
    obtain ⟨⟨y, hy⟩, hxs⟩ := List.forall_mem_cons.mp h
    obtain ⟨ys, hys⟩ := ih hxs
    exact ⟨y :: ys, .cons hy hys⟩

theorem eq_of_sameKey_reads {γ : Type} {f : γ → Read α} {xs : List (String × γ)}
    {as bs : List (String × α)} (ha : Forall₂ (SameKey (Reads f)) xs as)
    (hb : Forall₂ (SameKey (Reads f)) xs bs) : as = bs := by
  refine List.right_unique_forall₂' (fun x a b hxa hxb => Prod.ext ?_ ?_) ha hb
  · exact hxa.1.symm.trans hxb.1
  · exact Except.ok.inj (hxa.2.symm.trans hxb.2)

/-- What is read of a map of values, from the entries of a text in which keys may be repeated. -/
theorem forall₂_ofList_iff {es : List (String × Node)} {vs : List (String × Json)}
    (hvs : Forall₂ (SameKey (Reads Node.value)) es vs) (h : ∀ e ∈ es, Agrees read Fit e.2)
    {out : List (String × α)} :
    (∃ as, Forall₂ (SameKey (Reads read)) es as ∧ out = Keyed.ofList as) ↔
      Forall₂ (SameKey (Reads (ofValue read))) (Keyed.ofList vs) out ∧
        (∀ e ∈ es, Fit e.2) ∧ ∀ e ∈ Keyed.replaced es, ∃ a, read e.2 = .ok a := by
  have hparts {as : List (String × α)} : Forall₂ (SameKey (Reads read)) es as ↔
      Forall₂ (SameKey (Reads (ofValue read))) vs as ∧ ∀ e ∈ es, Fit e.2 := by
    refine forall₂_iff_of_parts hvs fun e he v _ hev a => ?_
    have hread := h e he v.2 hev.2 a.2
    rw [SameKey, SameKey, hev.1, and_assoc]
    exact and_congr_right fun _ => hread
  constructor
  · rintro ⟨as, has, rfl⟩
    obtain ⟨hvalues, hfit⟩ := hparts.mp has
    refine ⟨Keyed.forall₂_ofList hvalues, hfit, fun e he => ?_⟩
    obtain ⟨a, _, _, ha⟩ := exists_of_mem_left has (Keyed.mem_of_mem_replaced he)
    exact ⟨a.2, ha⟩
  · rintro ⟨hout, hfit, hreplaced⟩
    -- An entry is read by hypothesis when it is replaced, and otherwise from the map of values.
    have hall : ∀ e ∈ es, ∃ a, SameKey (Reads read) e a := by
      intro e he
      rcases Keyed.mem_replaced_or_mem_ofList hvs he with hmem | ⟨w, hw, hmem⟩
      · obtain ⟨a, ha⟩ := hreplaced e hmem
        exact ⟨(e.1, a), rfl, ha⟩
      · obtain ⟨a, _, _, ha⟩ := exists_of_mem_left hout hmem
        exact ⟨(e.1, a.2), rfl, (h e he w hw a.2).mpr ⟨ha, hfit e he⟩⟩
    obtain ⟨as, has⟩ := exists_forall₂ hall
    exact ⟨as, has, eq_of_sameKey_reads hout (Keyed.forall₂_ofList (hparts.mp has).1)⟩

theorem Agrees.entries (h : ∀ e ∈ n.entries, Agrees read Fit e.2) :
    Agrees (Node.readMap read) (fun n => (∀ e ∈ n.entries, Fit e.2) ∧
      ∀ e ∈ Keyed.replaced n.entries, ∃ a, read e.2 = .ok a) n := by
  intro v hv out
  cases Node.stands_of_value hv with
  | null | bool | number | text | array => exact ⟨nofun, nofun⟩
  | @object start members vs hwhole hparts =>
    have hleft : Node.readMap read (.object none start members) = .ok out ↔
        ∃ as, Forall₂ (SameKey (Reads read)) members.entries as ∧ out = Keyed.ofList as := by
      change members.readMap read [] = .ok out ↔ _
      rw [Members.readMap_eq_ok_iff, and_iff_right hwhole]
      rfl
    have hright : Node.readMap read (.ofJson (.object (Keyed.ofList vs))) = .ok out ↔
        Forall₂ (SameKey (Reads (ofValue read))) (Keyed.ofList vs) out := by
      change (Members.ofJson (Keyed.ofList vs)).readMap read [] = .ok out ↔ _
      rw [Members.readMap_eq_ok_iff, and_iff_right (Members.whole_ofJson _),
        Members.entries_ofJson]
      simp only [List.forall₂_map_left_iff]
      constructor
      · rintro ⟨as, has, rfl⟩
        have hvalues : Forall₂ (SameKey (Reads (ofValue read))) (Keyed.ofList vs) as := has
        have hordered := Keyed.ordered_of_forall₂ hvalues (Keyed.ordered_ofList vs)
        change Forall₂ _ _ (Keyed.ofList as)
        rwa [Keyed.ofList_of_ordered hordered]
      · intro hout
        have hordered := Keyed.ordered_of_forall₂ hout (Keyed.ordered_ofList vs)
        exact ⟨out, hout, (Keyed.ofList_of_ordered hordered).symm⟩
    rw [hleft, hright]
    exact forall₂_ofList_iff hparts h

end AppScaffold.Json

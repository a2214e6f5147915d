import Mathlib.Algebra.Group.Int.Defs
import Mathlib.Algebra.Group.Nat.Defs
import AppScaffold.Proofs.Json.Form
import AppScaffold.Toml.Document

/-!
# Integers of documents

No integer of a document goes beyond 64 bits with a sign. The reader of numbers sees to that, and
what headers and dotted keys do to tables only moves values about. Main statement:
`bounded_ofText?`.
-/

set_option autoImplicit false

namespace AppScaffold.Toml

inductive Value.Bounded : Value → Prop where
  | text {p : Json.Place} {s : String} : Bounded (.text p s)
  | integer {p : Json.Place} {n : Int} (h : n < 2 ^ 63) : Bounded (.integer p n)
  | float {p : Json.Place} {d : Number.Double} : Bounded (.float p d)
  | bool {p : Json.Place} {b : Bool} : Bounded (.bool p b)
  | dateTime {p : Json.Place} : Bounded (.dateTime p)
  | array {p : Json.Place} {items : List Value} (h : ∀ v ∈ items, Bounded v) :
    Bounded (.array p items)
  | table {origin : Origin} {entries : Entries} (h : ∀ e ∈ entries, Bounded e.2) :
    Bounded (.table origin entries)
  | tables {p : Option Json.Place} {elements : List (Origin × Entries)}
    (h : ∀ t ∈ elements, ∀ e ∈ t.2, Bounded e.2) : Bounded (.tables p elements)

/-- The natural numbers in a node are those of 64 bits with a sign. -/
inductive NodeBounded : Json.Node → Prop where
  | intro {n : Json.Node} (natural : ∀ m start stop, n = .number (.ok (.natural m)) start stop →
      m < 2 ^ 63) (items : ∀ m ∈ n.items, NodeBounded m)
    (entries : ∀ e ∈ n.entries, NodeBounded e.2) : NodeBounded n

/-! ## Tables -/

namespace Entries

def Bounded (es : Entries) : Prop := ∀ e ∈ es, e.2.Bounded

variable {es : Entries}

theorem Bounded.find? (h : es.Bounded) {name : String} {v : Value}
    (hfind : es.find? name = some v) : v.Bounded := by
  obtain ⟨e, he, rfl⟩ := Option.map_eq_some_iff.mp hfind
  exact h e (List.mem_of_find?_eq_some he)

theorem Bounded.put (h : es.Bounded) (key : Key) {v : Value} (hv : v.Bounded) :
    (es.put key v).Bounded := by
  induction es with
  | nil => exact List.forall_mem_singleton.mpr hv
  | cons e es ih =>
    obtain ⟨he, hes⟩ := List.forall_mem_cons.mp h
    rw [Entries.put]
    split
    · exact List.forall_mem_cons.mpr ⟨hv, hes⟩
    · exact List.forall_mem_cons.mpr ⟨he, ih hes⟩

theorem Bounded.erase (h : es.Bounded) (name : String) : (es.erase name).Bounded :=
  fun e he => h e (List.mem_filter.mp he).1

end Entries

namespace Table

def Bounded (t : Table) : Prop := t.entries.Bounded

theorem bounded_empty (origin : Origin) : Bounded ⟨origin, []⟩ := List.forall_mem_nil _

def Keeps (change : Table → Option Table) : Prop :=
  ∀ t t', t.Bounded → change t = some t' → t'.Bounded

variable {inline dotted : Bool} {change : Table → Option Table}

theorem keeps_some : Keeps some := by
  intro t t' h heq
  cases heq
  exact h

theorem keeps_update (hchange : Keeps change) (path : List Key) :
    Keeps (update inline dotted change path) := by
  induction path with
  | nil => exact hchange
  | cons key path ih =>
    intro t t' h heq
    rw [update] at heq
    split at heq
    · obtain ⟨child, hchild, heq⟩ := Option.bind_eq_some_iff.mp heq
      cases heq
      exact Entries.Bounded.put h key (.table (ih _ child (bounded_empty _) hchild))
    · rename_i origin entries hfind
      split at heq
      · cases heq
      · obtain ⟨child, hchild, heq⟩ := Option.bind_eq_some_iff.mp heq
        cases heq
        cases h.find? hfind with
        | table hentries => exact h.put key (.table (ih ⟨origin, entries⟩ child hentries hchild))
    · rename_i place elements hfind
      split at heq
      · cases heq
      · rename_i origin entries hlast
        obtain ⟨child, hchild, heq⟩ := Option.bind_eq_some_iff.mp heq
        cases heq
        cases h.find? hfind with
        | tables helements =>
          -- Only the last of several tables is open; the others stay as they are.
          have hopen := helements (origin, entries) (List.mem_of_getLast? hlast)
          have hchild := ih ⟨origin, entries⟩ child hopen hchild
          refine h.put key (.tables fun t ht => ?_)
          rcases List.mem_append.mp ht with ht | ht
          · exact helements t (List.dropLast_subset elements ht)
          · rw [List.mem_singleton.mp ht]
            exact hchild
    · cases heq

theorem keeps_define (path : List Key) {v : Value} (hv : v.Bounded) :
    Keeps (define inline path v) := by
  intro t t' h heq
  unfold define at heq
  split at heq
  · cases heq
  · refine keeps_update ?_ _ t t' h heq
    intro t t' h heq
    dsimp only at heq
    split at heq
    · cases heq
    · cases heq
      exact h.put _ hv

end Table

/-! ## Values -/

theorem lt_of_bounded {n m : Int} (h : bounded n = some m) : m < 2 ^ 63 := by
  unfold bounded at h
  split at h
  · rename_i hbounds
    cases h
    exact hbounds.2
  · cases h

theorem lt_of_readInteger {cs rest : Input} {n : Int} (h : readInteger cs = some (n, rest)) :
    n < 2 ^ 63 := by
  unfold readInteger at h
  dsimp only at h
  split at h <;>
  · obtain ⟨_, _, h⟩ := Option.bind_eq_some_iff.mp h
    obtain ⟨m, hm, h⟩ := Option.bind_eq_some_iff.mp h
    cases h
    exact lt_of_bounded hm

theorem bounded_readScalar {place : Json.Place} {cs rest : Input} {v : Value}
    (h : readScalar place cs = some (v, rest)) : v.Bounded := by
  unfold readScalar at h
  split at h
  · cases h
  split at h
  · obtain ⟨_, _, h⟩ := Option.map_eq_some_iff.mp h
    cases h
    exact .text
  split at h
  · obtain ⟨_, _, h⟩ := Option.map_eq_some_iff.mp h
    cases h
    exact .bool
  split at h
  · obtain ⟨_, _, h⟩ := Option.map_eq_some_iff.mp h
    cases h
    exact .bool
  split at h
  · cases h
    exact .dateTime
  split at h
  · cases h
    exact .float
  · obtain ⟨⟨n, _⟩, hn, h⟩ := Option.map_eq_some_iff.mp h
    cases h
    exact .integer (lt_of_readInteger hn)

/-- What is read with this fuel is bounded, be it a value, items or the pairs of a table. -/
structure BoundedReads (fuel : Nat) : Prop where
  value : ∀ depth cs v rest, readValue fuel depth cs = some (v, rest) → v.Bounded
  items : ∀ depth cs vs rest, readItems fuel depth cs = some (vs, rest) → ∀ v ∈ vs, v.Bounded
  pairs : ∀ depth t cs t' rest, t.Bounded → readPairs fuel depth t cs = some (t', rest) →
    t'.Bounded

section Step

variable {fuel depth : Nat} {cs rest : Input}

theorem BoundedReads.readValue_succ (ih : BoundedReads fuel) {v : Value}
    (h : readValue (fuel + 1) depth cs = some (v, rest)) : v.Bounded := by
  unfold readValue at h
  dsimp only at h
  split at h
  · split at h
    · obtain ⟨⟨vs, _⟩, hvs, h⟩ := Option.map_eq_some_iff.mp h
      cases h
      exact .array (ih.items _ _ vs _ hvs)
    · cases h
  · split at h
    · split at h
      · cases h
        exact .table (List.forall_mem_nil _)
      · obtain ⟨⟨t, _⟩, ht, h⟩ := Option.map_eq_some_iff.mp h
        cases h
        exact .table (ih.pairs _ _ _ t _ (Table.bounded_empty _) ht)
    · cases h
  · exact bounded_readScalar h
  · cases h

theorem BoundedReads.readItems_succ (ih : BoundedReads fuel) {vs : List Value}
    (h : readItems (fuel + 1) depth cs = some (vs, rest)) : ∀ v ∈ vs, v.Bounded := by
  unfold readItems at h
  dsimp only at h
  split at h
  · cases h
  · cases h
    exact List.forall_mem_nil _
  · split at h
    · cases h
    · rename_i v rest' hv
      have hv := ih.value _ _ v rest' hv
      split at h
      · obtain ⟨⟨vs, _⟩, hvs, h⟩ := Option.map_eq_some_iff.mp h
        cases h
        exact List.forall_mem_cons.mpr ⟨hv, ih.items _ _ vs _ hvs⟩
      · cases h
        exact List.forall_mem_singleton.mpr hv
      · cases h

end Step

def Statement.Bounded : Statement → Prop
  | .pair _ v => v.Bounded
  | _ => True

structure Draft.Bounded (d : Draft) : Prop where
  root : d.root.Bounded
  current : d.current.Bounded

theorem Draft.Bounded.close {d : Draft} (h : d.Bounded) {t : Table} (hclose : d.close = some t) :
    t.Bounded := by
  unfold Draft.close at hclose
  split at hclose
  · cases hclose
    exact h.current
  · refine Table.keeps_update ?_ _ d.root t h.root hclose
    intro parent t hparent hchange
    dsimp only at hchange
    split at hchange
    · split at hchange
      · rename_i place elements hfind
        cases hchange
        cases hparent.find? hfind with
        | tables helements =>
          refine hparent.put _ (.tables fun t ht => ?_)
          rcases List.mem_append.mp ht with ht | ht
          · exact helements t ht
          · rw [List.mem_singleton.mp ht]
            exact h.current
      · cases hchange
    · cases hchange
      exact hparent.put _ (.table h.current)

theorem bounded_look {path : List Key} {root : Table} {key : Key} {v : Value}
    (h : root.Bounded) (hlook : openTable.look root path key = some (some v)) : v.Bounded := by
  induction path generalizing root with
  | nil => exact h.find? (Option.some.inj hlook)
  | cons k path ih =>
    rw [openTable.look] at hlook
    split at hlook
    · cases hlook
    · rename_i origin entries hfind
      cases h.find? hfind with
      | table hentries => exact @ih ⟨origin, entries⟩ hentries hlook
    · rename_i elements hfind
      split at hlook
      · rename_i origin entries hlast
        cases h.find? hfind with
        | tables helements =>
          have hentries := helements (origin, entries) (List.mem_of_getLast? hlast)
          exact @ih ⟨origin, entries⟩ hentries hlook
      · cases hlook
    · cases hlook

theorem bounded_openTable {place : Json.Place} {root : Table} {path : List Key} {d : Draft}
    (h : root.Bounded) (hopen : openTable place root path = some d) : d.Bounded := by
  obtain ⟨key, -, hopen⟩ := Option.bind_eq_some_iff.mp hopen
  obtain ⟨known, hknown, hopen⟩ := Option.bind_eq_some_iff.mp hopen
  split at hopen
  · obtain ⟨root', hroot', hopen⟩ := Option.bind_eq_some_iff.mp hopen
    cases hopen
    exact ⟨Table.keeps_update Table.keeps_some _ root root' h hroot', Table.bounded_empty _⟩
  · split at hopen
    · obtain ⟨root', hroot', hopen⟩ := Option.bind_eq_some_iff.mp hopen
      cases hopen
      refine ⟨Table.keeps_update ?_ _ root root' h hroot', ?_⟩
      · intro t t' ht heq
        cases heq
        exact ht.erase key.name
      · cases bounded_look h hknown with
        | table hentries => exact hentries
    · cases hopen
  · cases hopen

theorem bounded_openElement {place : Json.Place} {root : Table} {path : List Key} {d : Draft}
    (h : root.Bounded) (hopen : openElement place root path = some d) : d.Bounded := by
  obtain ⟨key, -, hopen⟩ := Option.bind_eq_some_iff.mp hopen
  obtain ⟨root', hroot', hopen⟩ := Option.bind_eq_some_iff.mp hopen
  cases hopen
  refine ⟨Table.keeps_update ?_ _ root root' h hroot', Table.bounded_empty _⟩
  intro t t' ht heq
  dsimp only at heq
  split at heq
  · cases heq
    exact ht.put key (.tables (List.forall_mem_nil _))
  · cases heq
    exact ht
  · cases heq

theorem Draft.Bounded.add {d d' : Draft} (h : d.Bounded) {s : Statement} (hs : s.Bounded)
    (hadd : d.add s = some d') : d'.Bounded := by
  cases s with
  | pair path v =>
    obtain ⟨t, ht, hadd⟩ := Option.bind_eq_some_iff.mp hadd
    cases hadd
    exact ⟨h.root, Table.keeps_define path hs d.current t h.current ht⟩
  | header path place =>
    obtain ⟨t, ht, hadd⟩ := Option.bind_eq_some_iff.mp hadd
    exact bounded_openTable (h.close ht) hadd
  | arrayHeader path place =>
    obtain ⟨t, ht, hadd⟩ := Option.bind_eq_some_iff.mp hadd
    exact bounded_openElement (h.close ht) hadd

theorem Draft.Bounded.foldlM {ss : List Statement} {d d' : Draft} (h : d.Bounded)
    (hss : ∀ s ∈ ss, s.Bounded) (hfold : ss.foldlM Draft.add d = some d') : d'.Bounded := by
  induction ss generalizing d with
  | nil =>
    cases hfold
    exact h
  | cons s ss ih =>
    obtain ⟨hs, hss⟩ := List.forall_mem_cons.mp hss
    obtain ⟨next, hnext, hfold⟩ := Option.bind_eq_some_iff.mp hfold
    exact ih (h.add hs hnext) hss hfold

theorem nodes_itemNodes (stop : Option Json.Place) (vs : List Value) :
    (itemNodes stop vs).nodes = vs.map Value.toNode := by
  induction vs with
  | nil => rw [itemNodes, Json.Items.nodes, List.map_nil]
  | cons v vs ih => rw [itemNodes, Json.Items.nodes, ih, List.map_cons]

theorem entries_memberNodes (stop : Option Json.Place) (es : Entries) :
    (memberNodes stop es).entries = es.map fun e => (e.1.name, e.2.toNode) := by
  induction es with
  | nil => rw [memberNodes, Json.Members.entries, List.map_nil]
  | cons e es ih => rw [memberNodes, Json.Members.entries, ih, List.map_cons]

theorem nodes_elementNodes (stop : Option Json.Place) (elements : List (Origin × Entries)) :
    (elementNodes stop elements).nodes = elements.map fun t => Table.toNode ⟨t.1, t.2⟩ := by
  induction elements with
  | nil => rw [elementNodes, Json.Items.nodes, List.map_nil]
  | cons t elements ih => rw [elementNodes, Json.Items.nodes, ih, List.map_cons, Table.toNode]

theorem nodeBounded_of_leaf {n : Json.Node} (h : ∀ m start stop,
    n = .number (.ok (.natural m)) start stop → m < 2 ^ 63) (hitems : n.items = [])
    (hentries : n.entries = []) : NodeBounded n :=
  .intro h (by simp [hitems]) (by simp [hentries])

theorem nodeBounded_table (origin : Origin) {es : Entries}
    (h : ∀ e ∈ es, NodeBounded e.2.toNode) : NodeBounded (Table.toNode ⟨origin, es⟩) := by
  refine .intro nofun (List.forall_mem_nil _) ?_
  rw [Table.toNode, Json.Node.entries, entries_memberNodes]
  exact List.forall_mem_map.mpr h

theorem Value.Bounded.toNode {v : Value} (h : v.Bounded) : NodeBounded v.toNode := by
  induction h with
  | text | float | bool =>
    rw [Value.toNode]
    exact nodeBounded_of_leaf nofun rfl rfl
  | @integer p n h =>
    rw [Value.toNode]
    refine nodeBounded_of_leaf (fun m start stop heq => ?_) rfl rfl
    split at heq
    · cases heq
      omega
    · cases heq
  | dateTime =>
    rw [Value.toNode]
    exact .intro nofun (List.forall_mem_nil _)
      (List.forall_mem_singleton.mpr (nodeBounded_of_leaf nofun rfl rfl))
  | array _ ih =>
    rw [Value.toNode]
    refine .intro nofun ?_ (List.forall_mem_nil _)
    rw [Json.Node.items, nodes_itemNodes]
    exact List.forall_mem_map.mpr ih
  | @table origin es _ ih =>
    rw [Value.toNode]
    exact nodeBounded_table origin ih
  | @tables p elements _ ih =>
    rw [Value.toNode]
    refine .intro nofun ?_ (List.forall_mem_nil _)
    rw [Json.Node.items, nodes_elementNodes]
    exact List.forall_mem_map.mpr fun t ht => nodeBounded_table t.1 (ih t ht)

end AppScaffold.Toml

import AppScaffold.Proofs.Json.Record

/-!
# Depth of documents

How many arrays and objects of a document stand in each other. The reader of texts enters none that
is nested too deeply, so every text fits into a room of the same height, and so do the values that
are read from it. What a reader makes of a node depends on its parts only where the node is entered.
-/

set_option autoImplicit false

namespace AppScaffold.Json

namespace Node

def Enterable : Node → Prop
  | .array limit .. => limit = none
  | .object limit .. => limit = none
  | _ => False

/-- No more than so many arrays and objects stand in each other, as far as they are entered. -/
def Fits : Nat → Node → Prop
  | 0, n => ¬ n.Enterable
  | room + 1, n => n.Enterable → (∀ m ∈ n.items, m.Fits room) ∧ ∀ e ∈ n.entries, e.2.Fits room

/-- What is entered leaves less room to its parts. -/
theorem Fits.parts {n : Node} {room : Nat} (h : n.Fits room) (henter : n.Enterable) :
    ∃ rest, room = rest + 1 ∧ (∀ m ∈ n.items, m.Fits rest) ∧ ∀ e ∈ n.entries, e.2.Fits rest := by
  cases room with
  | zero => exact absurd henter h
  | succ rest => exact ⟨rest, rfl, h henter⟩

end Node

/-! ## Texts -/

/-- What is made inside some containers fits into what the limit leaves beyond them. -/
theorem Node.Made.fits {depth room : Nat} {n : Node} (h : n.Made depth)
    (hroom : depthLimit ≤ room + depth + 1) : n.Fits room := by
  induction room generalizing depth n with
  | zero =>
    intro henter
    cases n with
    | array limit start items => exact absurd (h.1 henter) (by omega)
    | object limit start members => exact absurd (h.1 henter) (by omega)
    | _ => cases henter
  | succ room ih =>
    intro henter
    cases n with
    | array limit start items =>
      exact ⟨fun m hm => ih (Items.made_nodes items h.2 m hm) (by omega), List.forall_mem_nil _⟩
    | object limit start members =>
      exact ⟨List.forall_mem_nil _,
        fun e he => ih (Members.made_entries members h.2 e he) (by omega)⟩
    | _ => cases henter

theorem fits_root (s : String) : (Document.ofText s).root.Fits 127 :=
  (made_root s).fits (by decide)

/-! ## Values -/

theorem Node.Fits.ofJson {room : Nat} {n : Node} {v : Json} (h : n.Fits room)
    (hv : n.value = .ok v) : (Node.ofJson v).Fits room := by
  induction room generalizing n v with
  | zero =>
    cases Node.stands_of_value hv with
    | null | bool | number | text => exact id
    | array | object => exact absurd rfl h
  | succ room ih =>
    intro _
    cases Node.stands_of_value hv with
    | null | bool | number | text => exact ⟨List.forall_mem_nil _, List.forall_mem_nil _⟩
    | @array start items vs hwhole hparts =>
      refine ⟨?_, List.forall_mem_nil _⟩
      intro m hm
      rw [Node.ofJson, Node.items, Items.nodes_ofJson] at hm
      obtain ⟨w, hw, rfl⟩ := List.mem_map.mp hm
      obtain ⟨m, hm, hvalue⟩ := exists_of_mem_right hparts hw
      exact ih ((h rfl).1 m hm) hvalue
    | @object start members vs hwhole hparts =>
      refine ⟨List.forall_mem_nil _, ?_⟩
      intro e he
      rw [Node.ofJson, Node.entries, Members.entries_ofJson] at he
      obtain ⟨w, hw, rfl⟩ := List.mem_map.mp he
      obtain ⟨m, hm, -, hvalue⟩ := exists_of_mem_right hparts (Keyed.mem_of_mem_ofList hw)
      exact ih ((h rfl).2 m hm) hvalue

/-! ## Readers of the parts -/

namespace Node

variable {α σ : Type} {n : Node}

theorem enterable_of_readList {read : Node → Read α} {as : List α}
    (h : n.readList read = .ok as) : n.Enterable := by
  cases n with
  | array limit start items =>
    obtain ⟨_, henter, -⟩ := bind_eq_ok_iff.mp h
    exact enter_eq_ok_iff.mp henter
  | _ => cases h

theorem enterable_of_readMap {read : Node → Read α} {es : List (String × α)}
    (h : n.readMap read = .ok es) : n.Enterable := by
  cases n with
  | object limit start members =>
    obtain ⟨_, henter, -⟩ := bind_eq_ok_iff.mp h
    exact enter_eq_ok_iff.mp henter
  | _ => cases h

theorem enterable_of_readRecord {shape : Shape} {read : String → Node → σ → Read σ} {empty a : σ}
    (h : n.readRecord read shape empty = .ok a) : n.Enterable := by
  cases n with
  | array limit start items =>
    obtain ⟨_, henter, -⟩ := bind_eq_ok_iff.mp h
    exact enter_eq_ok_iff.mp henter
  | object limit start members =>
    obtain ⟨_, henter, -⟩ := bind_eq_ok_iff.mp h
    exact enter_eq_ok_iff.mp henter
  | _ => cases h

theorem read_of_readOption {read : Node → Read α} {a : α}
    (h : n.readOption read = .ok (some a)) : read n = .ok a := by
  cases n with
  | null => cases h
  | _ =>
    obtain ⟨_, hread, heq⟩ := map_eq_ok_iff.mp h
    cases heq
    exact hread

end Node

section

variable {α : Type} {read read' : Node → Read α}

theorem Node.readOption_congr {n : Node} (h : read n = read' n) :
    n.readOption read = n.readOption read' := by
  cases n with
  | null => rfl
  | _ => exact congrArg (some <$> ·) h

theorem Items.readEach_congr : ∀ (items : Items) (index : Nat),
    (∀ m ∈ items.nodes, read m = read' m) →
      items.readEach read index = items.readEach read' index
  | .closed _, _, _ => rfl
  | .broken .., _, _ => rfl
  | .item _ value _ rest, index, h => by
    obtain ⟨hvalue, hrest⟩ := List.forall_mem_cons.mp h
    rw [readEach, readEach, hvalue, readEach_congr rest (index + 1) hrest]

theorem Members.readMap_congr : ∀ (ms : Members) (known : List (String × α)),
    (∀ e ∈ ms.entries, read e.2 = read' e.2) → ms.readMap read known = ms.readMap read' known
  | .closed _, _, _ => rfl
  | .broken .., _, _ => rfl
  | .member (.error _) .., _, _ => rfl
  | .member (.ok key) _ value _ rest, known, h => by
    obtain ⟨hvalue, hrest⟩ := List.forall_mem_cons.mp h
    simp only [readMap, hvalue, fun known => readMap_congr rest known hrest]

theorem Node.readList_congr {n : Node} (h : n.Enterable → ∀ m ∈ n.items, read m = read' m) :
    n.readList read = n.readList read' := by
  cases n with
  | array limit start items =>
    cases limit with
    | some f => rfl
    | none => exact Items.readEach_congr items 0 (h rfl)
  | _ => rfl

theorem Node.readMap_congr {n : Node} (h : n.Enterable → ∀ e ∈ n.entries, read e.2 = read' e.2) :
    n.readMap read = n.readMap read' := by
  cases n with
  | object limit start members =>
    cases limit with
    | some f => rfl
    | none => exact Members.readMap_congr members [] (h rfl)
  | _ => rfl

end

section

variable {σ : Type} {shape : Shape} {read read' : String → Node → σ → Read σ}

theorem Members.readFields_congr : ∀ (ms : Members) (acc : σ) (seen : List String),
    (∀ e ∈ ms.entries, ∀ key acc, read key e.2 acc = read' key e.2 acc) →
      ms.readFields read shape acc seen = ms.readFields read' shape acc seen
  | .closed _, _, _, _ => rfl
  | .broken .., _, _, _ => rfl
  | .member (.error _) .., _, _, _ => rfl
  | .member (.ok key) _ value _ rest, acc, seen, h => by
    obtain ⟨hvalue, hrest⟩ := List.forall_mem_cons.mp h
    simp only [readFields, hvalue, fun acc seen => readFields_congr rest acc seen hrest]

theorem Items.readFields_congr : ∀ (items : Items) (index : Nat) (fields : List (String × Absent))
    (acc : σ), (∀ m ∈ items.nodes, ∀ key acc, read key m acc = read' key m acc) →
      items.readFields read shape index fields acc = items.readFields read' shape index fields acc
  | .closed stop, index, fields, acc, h => by
    induction fields generalizing index with
    | nil => rfl
    | cons f fields ih =>
      obtain ⟨name, filled | null | refused⟩ := f
      · exact ih (index + 1)
      · rfl
      · rfl
  | .broken .., _, [], _, _ => rfl
  | .broken .., _, _ :: _, _, _ => by rw [readFields, readFields]
  | .item .., _, [], _, _ => rfl
  | .item _ value _ rest, index, (field, _) :: fields, acc, h => by
    obtain ⟨hvalue, hrest⟩ := List.forall_mem_cons.mp h
    simp only [readFields, hvalue,
      fun acc => readFields_congr rest (index + 1) fields acc hrest]

theorem Node.readRecord_congr {n : Node} {empty : σ}
    (h : n.Enterable → (∀ m ∈ n.items, ∀ key acc, read key m acc = read' key m acc) ∧
      ∀ e ∈ n.entries, ∀ key acc, read key e.2 acc = read' key e.2 acc) :
    n.readRecord read shape empty = n.readRecord read' shape empty := by
  cases n with
  | object limit start members =>
    cases limit with
    | some f => rfl
    | none => exact Members.readFields_congr members empty [] (h rfl).2
  | array limit start items =>
    cases limit with
    | some f => rfl
    | none => exact Items.readFields_congr items 0 shape.fields empty (h rfl).1
  | _ => rfl

end

end AppScaffold.Json

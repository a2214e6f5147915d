import AppScaffold.Proofs.Json.Reading

/-!
# Arrays that do not end early

Behind an item a reader that expects the end of the array meets a fault. Every text reads as a node
whose arrays have this property, and so does the node of every value.
-/

set_option autoImplicit false

namespace AppScaffold.Json

mutual

/-- In no array of the node is there another end than the last one. -/
def Node.Strict : Node → Prop
  | .array _ _ items => items.Strict
  | .object _ _ members => members.Strict
  | _ => True

def Items.Strict : Items → Prop
  | .item finish value _ rest => finish.isSome ∧ value.Strict ∧ rest.Strict
  | _ => True

def Members.Strict : Members → Prop
  | .member _ _ value _ rest => value.Strict ∧ rest.Strict
  | _ => True

end

mutual

theorem Node.strict_ofJson : ∀ v, (Node.ofJson v).Strict
  | .null | .bool _ | .number _ | .text _ => trivial
  | .array items => Items.strict_ofJson items.length items
  | .object members => Members.strict_ofJson members

theorem Items.strict_ofJson (count : Nat) : ∀ vs, (Items.ofJson count vs).Strict
  | [] => trivial
  | v :: rest => ⟨rfl, Node.strict_ofJson v, Items.strict_ofJson count rest⟩

theorem Members.strict_ofJson : ∀ vs, (Members.ofJson vs).Strict
  | [] => trivial
  | (_, v) :: rest => ⟨Node.strict_ofJson v, Members.strict_ofJson rest⟩

end

theorem Items.strict_nodes : ∀ (items : Items), items.Strict → ∀ m ∈ items.nodes, m.Strict
  | .closed _, _ => List.forall_mem_nil _
  | .broken .., _ => List.forall_mem_nil _
  | .item _ _ _ rest, h => List.forall_mem_cons.mpr ⟨h.2.1, strict_nodes rest h.2.2⟩

theorem Members.strict_entries : ∀ (ms : Members), ms.Strict → ∀ e ∈ ms.entries, e.2.Strict
  | .closed _, _ => List.forall_mem_nil _
  | .broken .., _ => List.forall_mem_nil _
  | .member (.ok _) _ _ _ rest, h => List.forall_mem_cons.mpr ⟨h.1, strict_entries rest h.2⟩
  | .member (.error _) _ _ _ rest, h => strict_entries rest h.2

theorem Node.Strict.items {n : Node} (h : n.Strict) : ∀ m ∈ n.items, m.Strict := by
  cases n with
  | array limit start items => exact Items.strict_nodes items h
  | _ => exact List.forall_mem_nil _

theorem Node.Strict.entries {n : Node} (h : n.Strict) : ∀ e ∈ n.entries, e.2.Strict := by
  cases n with
  | object limit start members => exact Members.strict_entries members h
  | _ => exact List.forall_mem_nil _

/-! ## Texts -/

mutual

theorem Node.Made.strict {depth : Nat} : ∀ {n : Node}, n.Made depth → n.Strict
  | .array .., h => Items.Made.strict h.2
  | .object .., h => Members.Made.strict h.2
  | .null _, _ | .bool .., _ | .number .., _ | .text .., _ | .foreign .., _ | .broken .., _ =>
    trivial

theorem Items.Made.strict {depth : Nat} : ∀ {items : Items}, items.Made depth → items.Strict
  | .closed _, _ | .broken .., _ => trivial
  | .item .., ⟨hfinish, hvalue, hrest⟩ =>
    ⟨hfinish, Node.Made.strict hvalue, Items.Made.strict hrest⟩

theorem Members.Made.strict {depth : Nat} :
    ∀ {members : Members}, members.Made depth → members.Strict
  | .closed _, _ | .broken .., _ => trivial
  | .member .., ⟨hvalue, hrest⟩ => ⟨Node.Made.strict hvalue, Members.Made.strict hrest⟩

end

theorem strict_root (s : String) : (Document.ofText s).root.Strict := (made_root s).strict

end AppScaffold.Json

import AppScaffold.Proofs.Json.Form

/-!
# What the reader of texts makes

Every node of a text stands inside a known number of arrays and objects, and what is known of it
there is said once: an array or an object that can be entered does not go beyond the limit, and
behind each item there is a fault for a reader that expects the end. Main statement: `made_root`.
-/

set_option autoImplicit false

namespace AppScaffold.Json

mutual

/-- A node as it is made inside so many arrays and objects. -/
def Node.Made (depth : Nat) : Node → Prop
  | .array limit _ items => (limit = none → depth + 1 < depthLimit) ∧ items.Made (depth + 1)
  | .object limit _ members => (limit = none → depth + 1 < depthLimit) ∧ members.Made (depth + 1)
  | _ => True

def Items.Made (depth : Nat) : Items → Prop
  | .item finish value _ rest => finish.isSome ∧ value.Made depth ∧ rest.Made depth
  | _ => True

def Members.Made (depth : Nat) : Members → Prop
  | .member _ _ value _ rest => value.Made depth ∧ rest.Made depth
  | _ => True

end

variable {depth : Nat}

/-! ## Parts -/

theorem Items.made_nodes :
    ∀ (items : Items), items.Made depth → ∀ m ∈ items.nodes, m.Made depth
  | .closed _, _ => List.forall_mem_nil _
  | .broken .., _ => List.forall_mem_nil _
  | .item _ _ _ rest, h => List.forall_mem_cons.mpr ⟨h.2.1, made_nodes rest h.2.2⟩

theorem Members.made_entries :
    ∀ (members : Members), members.Made depth → ∀ e ∈ members.entries, e.2.Made depth
  | .closed _, _ => List.forall_mem_nil _
  | .broken .., _ => List.forall_mem_nil _
  | .member (.ok _) _ _ _ rest, h => List.forall_mem_cons.mpr ⟨h.1, made_entries rest h.2⟩
  | .member (.error _) _ _ _ rest, h => made_entries rest h.2

/-! ## Readers -/

theorem limitAt_eq_none_iff {c : Cursor} : limitAt depth c = none ↔ depth < depthLimit := by
  unfold limitAt
  split
  · exact iff_of_false nofun (by omega)
  · exact iff_of_true rfl (by omega)

theorem made_readWord {word : List Char} {c : Cursor} {node : Place → Node}
    (h : ∀ p, (node p).Made depth) : (readWord word c node).1.Made depth := by
  induction word generalizing c with
  | nil => exact h c.place
  | cons w word ih =>
    unfold readWord
    split
    · trivial
    · split
      · exact ih
      · trivial

theorem made_readNumber (negative : Bool) (c : Cursor) :
    (readNumber negative c).1.Made depth := by
  unfold readNumber
  dsimp only
  repeat' split
  all_goals trivial

/-- What is read with this fuel has its form, be it a value, items or members. -/
structure MadeReads (fuel : Nat) : Prop where
  value : ∀ depth c, (readValue fuel depth c).1.Made depth
  items : ∀ depth first c, (readItems fuel depth first c).1.Made depth
  members : ∀ depth first c, (readMembers fuel depth first c).1.Made depth

namespace MadeReads

variable {fuel : Nat}

theorem of_readValue_eq {c : Cursor} {v : Node} {after : Option Cursor} (ih : MadeReads fuel)
    (h : readValue fuel depth c = (v, after)) : v.Made depth := by
  have hv := ih.value depth c
  rwa [h] at hv

theorem readValue_succ (ih : MadeReads fuel) (c : Cursor) :
    (readValue (fuel + 1) depth c).1.Made depth := by
  unfold readValue
  dsimp only
  split
  · trivial
  · exact made_readWord fun _ => trivial
  · exact made_readWord fun _ => trivial
  · exact made_readWord fun _ => trivial
  · exact made_readNumber _ _
  · split <;> trivial
  · exact ⟨limitAt_eq_none_iff.mp, ih.items _ _ _⟩
  · exact ⟨limitAt_eq_none_iff.mp, ih.members _ _ _⟩
  · split
    · exact made_readNumber _ _
    · trivial

theorem readItems_succ (ih : MadeReads fuel) (first : Bool) (c : Cursor) :
    (readItems (fuel + 1) depth first c).1.Made depth := by
  unfold readItems
  dsimp only
  repeat' split
  all_goals first
    | trivial
    | exact ⟨rfl, ih.of_readValue_eq ‹_›, trivial⟩
    | exact ⟨rfl, ih.of_readValue_eq ‹_›, ih.items _ _ _⟩

theorem readMembers_succ (ih : MadeReads fuel) (first : Bool) (c : Cursor) :
    (readMembers (fuel + 1) depth first c).1.Made depth := by
  unfold readMembers
  dsimp only
  repeat' split
  all_goals first
    | trivial
    | exact ⟨trivial, trivial⟩
    | exact ⟨ih.of_readValue_eq ‹_›, trivial⟩
    | exact ⟨ih.of_readValue_eq ‹_›, ih.members _ _ _⟩

end MadeReads

theorem madeReads (fuel : Nat) : MadeReads fuel := by
  induction fuel with
  | zero => exact ⟨fun _ _ => trivial, fun _ _ _ => trivial, fun _ _ _ => trivial⟩
  | succ fuel ih =>
    exact ⟨fun _ c => ih.readValue_succ c, fun _ first c => ih.readItems_succ first c,
      fun _ first c => ih.readMembers_succ first c⟩

theorem made_root (s : String) : (Document.ofText s).root.Made 0 := by
  have h := (madeReads (2 * s.toList.length + 2)).value 0 ⟨s.toList, Place.start⟩
  exact h

end AppScaffold.Json

/-!
# Values by key

Lists of keys and values with increasing keys, each key once. `insert` keeps them so; `List.lookup`
finds a value. A `Map` is such a list together with the fact that it is one.
-/

set_option autoImplicit false

namespace AppScaffold.Keyed

variable {α : Type}

/-- Puts a value at the place of its key; the value that had this key is replaced. -/
def insert (key : String) (value : α) : List (String × α) → List (String × α)
  | [] => [(key, value)]
  | (k, v) :: rest =>
    if key < k then (key, value) :: (k, v) :: rest
    else if key == k then (key, value) :: rest
    else (k, v) :: insert key value rest

/-- Replaces the value of a key wherever it stands; a new key goes to its place. -/
def set (key : String) (value : α) (entries : List (String × α)) : List (String × α) :=
  if entries.any (·.1 == key) then entries.map fun e => if e.1 == key then (key, value) else e
  else insert key value entries

/-- Of several values with one key the last one stays. -/
def ofList (entries : List (String × α)) : List (String × α) :=
  entries.foldl (fun acc e => insert e.1 e.2 acc) []

def Ordered (entries : List (String × α)) : Prop := entries.Pairwise fun a b => a.1 < b.1

theorem mem_insert {key : String} {value : α} {entries : List (String × α)} {e : String × α}
    (h : e ∈ insert key value entries) : e = (key, value) ∨ e ∈ entries := by
  induction entries with
  | nil => exact Or.inl (List.mem_singleton.mp h)
  | cons a rest ih =>
    unfold insert at h
    split at h
    · exact List.mem_cons.mp h
    · split at h
      · rcases List.mem_cons.mp h with h | h
        · exact Or.inl h
        · exact Or.inr (List.mem_cons_of_mem a h)
      · rcases List.mem_cons.mp h with h | h
        · exact Or.inr (h ▸ List.mem_cons_self)
        · rcases ih h with h | h
          · exact Or.inl h
          · exact Or.inr (List.mem_cons_of_mem a h)

theorem Ordered.insert {entries : List (String × α)} (h : Ordered entries) (key : String)
    (value : α) : Ordered (insert key value entries) := by
  induction entries with
  | nil => exact List.pairwise_singleton _ _
  | cons a rest ih =>
    obtain ⟨hhead, htail⟩ := List.pairwise_cons.mp h
    unfold Keyed.insert
    split
    · rename_i hlt
      refine List.pairwise_cons.mpr ⟨fun e he => ?_, h⟩
      rcases List.mem_cons.mp he with rfl | he
      · exact hlt
      · exact String.lt_trans hlt (hhead e he)
    · rename_i hlt
      split
      · rename_i heq
        exact List.pairwise_cons.mpr ⟨fun e he => eq_of_beq heq ▸ hhead e he, htail⟩
      · rename_i hne
        refine List.pairwise_cons.mpr ⟨fun e he => ?_, ih htail⟩
        rcases mem_insert he with rfl | he
        · refine Decidable.byContradiction fun hnot => hne (beq_iff_eq.mpr ?_)
          exact String.le_antisymm (String.not_lt.mp hnot) (String.not_lt.mp hlt)
        · exact hhead e he

/-- Values by key, one for a key, in increasing order of the keys. -/
structure Map (α : Type) where
  entries : List (String × α)
  ordered : Ordered entries
deriving Repr

namespace Map

def empty : Map α := ⟨[], .nil⟩

instance : Inhabited (Map α) := ⟨empty⟩

def find? (m : Map α) (key : String) : Option α := m.entries.lookup key

def insert (m : Map α) (key : String) (value : α) : Map α :=
  ⟨Keyed.insert key value m.entries, m.ordered.insert key value⟩

def ofList (entries : List (String × α)) : Map α :=
  entries.foldl (fun m e => m.insert e.1 e.2) empty

def map {β : Type} (m : Map α) (f : String × α → β) : List β := m.entries.map f

def keys (m : Map α) : List String := m.map (·.1)

end Map

end AppScaffold.Keyed

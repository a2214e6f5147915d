import Mathlib.Data.List.Perm.Basic
import AppScaffold.Keyed.Basic

/-!
# Lookup by key

Which entries a map has after an insertion, and which value it gives for a key. Inserting entries
one by one keeps them all when their keys are new and differ from each other.
-/

set_option autoImplicit false

namespace AppScaffold.Keyed

variable {α : Type}

theorem mem_insert_iff {entries : List (String × α)} (h : Ordered entries) {key : String}
    {value : α} {e : String × α} :
    e ∈ insert key value entries ↔ e = (key, value) ∨ e ∈ entries ∧ e.1 ≠ key := by
  induction entries with
  | nil => simp [insert]
  | cons a rest ih =>
    obtain ⟨hhead, htail⟩ := List.pairwise_cons.mp h
    unfold insert
    split
    -- The new key is less than all others, so none of the entries has it.
    · rename_i hlt
      have hnew : e ∈ a :: rest → e.1 ≠ key := by
        intro he heq
        rcases List.mem_cons.mp he with rfl | he
        · exact String.lt_irrefl _ (heq ▸ hlt)
        · exact String.lt_irrefl _ (heq ▸ String.lt_trans hlt (hhead e he))
      rw [List.mem_cons]
      exact or_congr_right ⟨fun he => ⟨he, hnew he⟩, fun he => he.1⟩
    · split
      · rename_i heq
        have heq := eq_of_beq heq
        have hnew : e ∈ rest → e.1 ≠ key := fun he hkey =>
          String.lt_irrefl _ (hkey ▸ heq ▸ hhead e he)
        rw [List.mem_cons, List.mem_cons]
        refine or_congr_right ⟨fun he => ⟨Or.inr he, hnew he⟩, ?_⟩
        rintro ⟨rfl | he, hne⟩
        · exact absurd heq.symm hne
        · exact he
      · rename_i hne
        have hne : a.1 ≠ key := fun heq => hne (beq_iff_eq.mpr heq.symm)
        rw [List.mem_cons, ih htail, List.mem_cons]
        constructor
        · rintro (rfl | rfl | ⟨he, hkey⟩)
          · exact Or.inr ⟨Or.inl rfl, hne⟩
          · exact Or.inl rfl
          · exact Or.inr ⟨Or.inr he, hkey⟩
        · rintro (rfl | ⟨rfl | he, hkey⟩)
          · exact Or.inr (Or.inl rfl)
          · exact Or.inl rfl
          · exact Or.inr (Or.inr ⟨he, hkey⟩)

theorem insert_perm {entries : List (String × α)} {key : String} (value : α)
    (h : ∀ e ∈ entries, e.1 ≠ key) : (insert key value entries).Perm ((key, value) :: entries) := by
  induction entries with
  | nil => exact .refl _
  | cons a rest ih =>
    obtain ⟨ha, hrest⟩ := List.forall_mem_cons.mp h
    unfold insert
    split
    · exact .refl _
    · rw [if_neg fun heq => ha (eq_of_beq heq).symm]
      exact ((ih hrest).cons a).trans (.swap (key, value) a rest)

theorem lookup_cons_eq (e : String × α) (rest : List (String × α)) (key : String) :
    (e :: rest).lookup key = if key = e.1 then some e.2 else rest.lookup key := by
  rw [List.lookup_cons]
  by_cases h : key = e.1
  · rw [if_pos h, beq_iff_eq.mpr h]
  · rw [if_neg h, beq_eq_false_iff_ne.mpr h]

theorem lookup_insert (key : String) (value : α) (entries : List (String × α)) (other : String) :
    (insert key value entries).lookup other =
      if other = key then some value else entries.lookup other := by
  induction entries with
  | nil => exact lookup_cons_eq (key, value) [] other
  | cons a rest ih =>
    unfold insert
    split
    · exact lookup_cons_eq (key, value) (a :: rest) other
    · split
      · rename_i heq
        rw [lookup_cons_eq, lookup_cons_eq, ← eq_of_beq heq]
        split <;> rfl
      · rename_i hne
        rw [lookup_cons_eq, lookup_cons_eq, ih]
        by_cases hhead : other = a.1
        · have hother : other ≠ key := fun h => hne (beq_iff_eq.mpr (h.symm.trans hhead))
          rw [if_pos hhead, if_neg hother, if_pos hhead]
        · rw [if_neg hhead, if_neg hhead]

theorem Ordered.nodup_keys {entries : List (String × α)} (h : Ordered entries) :
    (entries.map (·.1)).Nodup := by
  refine List.pairwise_map.mpr (h.imp ?_)
  intro a b hlt heq
  exact String.lt_irrefl _ (heq ▸ hlt)

theorem lookup_eq_some_iff_of_nodup {entries : List (String × α)}
    (h : (entries.map (·.1)).Nodup) {key : String} {value : α} :
    entries.lookup key = some value ↔ (key, value) ∈ entries := by
  induction entries with
  | nil => simp
  | cons a rest ih =>
    obtain ⟨hhead, htail⟩ := List.nodup_cons.mp h
    rw [List.lookup_cons, List.mem_cons]
    cases hkey : key == a.1 with
    | true =>
      have heq := eq_of_beq hkey
      have hnew : (key, value) ∉ rest := fun he => hhead (List.mem_map.mpr ⟨_, he, heq⟩)
      simp [Prod.ext_iff, heq, eq_comm, heq ▸ hnew]
    | false =>
      have hne : (key, value) ≠ a := fun heq => by simp [← heq] at hkey
      simp [ih htail, hne]

theorem lookup_eq_some_iff {entries : List (String × α)} (h : Ordered entries) {key : String}
    {value : α} : entries.lookup key = some value ↔ (key, value) ∈ entries :=
  lookup_eq_some_iff_of_nodup h.nodup_keys

theorem lookup_map {β : Type} (f : α → β) (entries : List (String × α)) (key : String) :
    (entries.map fun e => (e.1, f e.2)).lookup key = (entries.lookup key).map f := by
  induction entries with
  | nil => rfl
  | cons a rest ih =>
    rw [List.map_cons, lookup_cons_eq, lookup_cons_eq, ih]
    split <;> rfl

theorem lookup_filter_ne (entries : List (String × α)) (key other : String) :
    (entries.filter fun e => e.1 != key).lookup other =
      if other = key then none else entries.lookup other := by
  induction entries with
  | nil => exact (ite_self none).symm
  | cons a rest ih =>
    rw [List.filter_cons, lookup_cons_eq]
    by_cases hhead : a.1 = key
    · rw [if_neg (by simp [hhead]), ih, hhead]
      split <;> rfl
    · rw [if_pos (bne_iff_ne.mpr hhead), lookup_cons_eq, ih]
      by_cases hother : other = a.1
      · have hne : other ≠ key := fun heq => hhead (hother.symm.trans heq)
        rw [if_pos hother, if_pos hother, if_neg hne]
      · rw [if_neg hother, if_neg hother]

/-! ## Entries in order -/

theorem insert_of_forall_lt {entries : List (String × α)} {key : String} (value : α)
    (h : ∀ e ∈ entries, e.1 < key) : insert key value entries = entries ++ [(key, value)] := by
  induction entries with
  | nil => rfl
  | cons a rest ih =>
    obtain ⟨ha, hrest⟩ := List.forall_mem_cons.mp h
    have hne : (key == a.1) = false := by
      rw [beq_eq_false_iff_ne]
      exact fun heq => String.lt_irrefl _ (heq ▸ ha)
    rw [insert, if_neg (String.lt_asymm ha), hne, if_neg Bool.false_ne_true, ih hrest]
    rfl

theorem insert_of_forall_gt {entries : List (String × α)} {key : String} (value : α)
    (h : ∀ e ∈ entries, key < e.1) : insert key value entries = (key, value) :: entries := by
  cases entries with
  | nil => rfl
  | cons a rest => rw [insert, if_pos (h a List.mem_cons_self)]

theorem filter_insert {entries : List (String × α)} (h : Ordered entries) (p : String → Bool)
    (key : String) (value : α) :
    (insert key value entries).filter (fun e => p e.1) =
      if p key then insert key value (entries.filter fun e => p e.1)
      else entries.filter fun e => p e.1 := by
  induction entries with
  | nil => simp only [insert, List.filter_cons, List.filter_nil]
  | cons a rest ih =>
    obtain ⟨hhead, htail⟩ := List.pairwise_cons.mp h
    rw [insert]
    split
    · rename_i hlt
      -- What is left of the entries still begins behind the new key.
      have hall : ∀ e ∈ (a :: rest).filter fun e => p e.1, key < e.1 := by
        intro e he
        rcases List.mem_cons.mp (List.mem_of_mem_filter he) with rfl | he
        · exact hlt
        · exact String.lt_trans hlt (hhead e he)
      rw [List.filter_cons, insert_of_forall_gt value hall]
    · rename_i hlt
      split
      · rename_i heq
        obtain rfl := eq_of_beq heq
        simp only [List.filter_cons]
        split
        · rw [insert, if_neg hlt, if_pos heq]
        · rfl
      · rename_i hne
        simp only [List.filter_cons, ih htail]
        by_cases ha : p a.1
        · rw [if_pos ha, if_pos ha, insert, if_neg hlt, if_neg hne]
          split <;> rfl
        · rw [if_neg ha, if_neg ha]

theorem foldl_insert_of_ordered (before entries : List (String × α))
    (h : Ordered (before ++ entries)) :
    entries.foldl (fun acc e => insert e.1 e.2 acc) before = before ++ entries := by
  induction entries generalizing before with
  | nil => exact (List.append_nil before).symm
  | cons a rest ih =>
    obtain ⟨_, _, hbefore⟩ := List.pairwise_append.mp h
    have hlast := insert_of_forall_lt a.2 fun e he => hbefore e he a List.mem_cons_self
    rw [List.append_cons] at h
    rw [List.foldl_cons, hlast, ih _ h, ← List.append_cons]

theorem ordered_foldl_insert {known : List (String × α)} (h : Ordered known)
    (entries : List (String × α)) :
    Ordered (entries.foldl (fun acc e => insert e.1 e.2 acc) known) := by
  induction entries generalizing known with
  | nil => exact h
  | cons a rest ih => exact ih (h.insert a.1 a.2)

theorem ordered_ofList (entries : List (String × α)) : Ordered (ofList entries) :=
  ordered_foldl_insert .nil entries

theorem mem_foldl_insert {entries known : List (String × α)} {e : String × α}
    (h : e ∈ entries.foldl (fun acc e => insert e.1 e.2 acc) known) : e ∈ entries ∨ e ∈ known := by
  induction entries generalizing known with
  | nil => exact Or.inr h
  | cons a rest ih =>
    rcases ih h with h | h
    · exact Or.inl (List.mem_cons_of_mem a h)
    · rcases mem_insert h with rfl | h
      · exact Or.inl List.mem_cons_self
      · exact Or.inr h

theorem mem_of_mem_ofList {entries : List (String × α)} {e : String × α}
    (h : e ∈ ofList entries) : e ∈ entries :=
  (mem_foldl_insert h).resolve_right List.not_mem_nil

theorem filter_ofList (entries : List (String × α)) (p : String → Bool) :
    (ofList entries).filter (fun e => p e.1) = ofList (entries.filter fun e => p e.1) := by
  have hfold : ∀ known, Ordered known →
      (entries.foldl (fun acc e => insert e.1 e.2 acc) known).filter (fun e => p e.1) =
        (entries.filter fun e => p e.1).foldl (fun acc e => insert e.1 e.2 acc)
          (known.filter fun e => p e.1) := by
    induction entries with
    | nil => exact fun _ _ => rfl
    | cons a rest ih =>
      intro known hknown
      rw [List.foldl_cons, ih _ (hknown.insert a.1 a.2), filter_insert hknown, List.filter_cons]
      split <;> rfl
  exact hfold [] .nil

theorem ofList_of_ordered {entries : List (String × α)} (h : Ordered entries) :
    ofList entries = entries :=
  foldl_insert_of_ordered [] entries h

theorem lookup_foldl_insert_of_ne (entries known : List (String × α)) {key : String}
    (h : ∀ e ∈ entries, e.1 ≠ key) :
    (entries.foldl (fun acc e => insert e.1 e.2 acc) known).lookup key = known.lookup key := by
  induction entries generalizing known with
  | nil => rfl
  | cons a rest ih =>
    obtain ⟨ha, hrest⟩ := List.forall_mem_cons.mp h
    rw [List.foldl_cons, ih _ hrest, lookup_insert, if_neg (Ne.symm ha)]

/-- The entries behind which another entry has the same key. -/
def replaced : List (String × α) → List (String × α)
  | [] => []
  | e :: rest => if rest.any (·.1 == e.1) then e :: replaced rest else replaced rest

theorem mem_of_mem_replaced {entries : List (String × α)} {e : String × α}
    (h : e ∈ replaced entries) : e ∈ entries := by
  induction entries with
  | nil => exact h
  | cons a rest ih =>
    rw [replaced] at h
    split at h
    · rcases List.mem_cons.mp h with rfl | h
      · exact List.mem_cons_self
      · exact List.mem_cons_of_mem a (ih h)
    · exact List.mem_cons_of_mem a (ih h)

/-! ## Two maps side by side -/

section

variable {β : Type} {R : α → β → Prop}

def SameKey (R : α → β → Prop) (a : String × α) (b : String × β) : Prop :=
  a.1 = b.1 ∧ R a.2 b.2

theorem keys_eq_of_forall₂ {xs : List (String × α)} {ys : List (String × β)}
    (h : List.Forall₂ (SameKey R) xs ys) : xs.map (·.1) = ys.map (·.1) := by
  induction h with
  | nil => rfl
  | cons hhead _ ih => rw [List.map_cons, List.map_cons, hhead.1, ih]

theorem ordered_of_forall₂ {xs : List (String × α)} {ys : List (String × β)}
    (h : List.Forall₂ (SameKey R) xs ys) (hordered : Ordered xs) : Ordered ys := by
  have hkeys := List.pairwise_map.mpr hordered
  rw [keys_eq_of_forall₂ h] at hkeys
  exact List.pairwise_map.mp hkeys

theorem forall₂_insert {xs : List (String × α)} {ys : List (String × β)}
    (h : List.Forall₂ (SameKey R) xs ys) (key : String) {x : α} {y : β} (hxy : R x y) :
    List.Forall₂ (SameKey R) (insert key x xs) (insert key y ys) := by
  induction h with
  | nil => exact .cons ⟨rfl, hxy⟩ .nil
  | @cons a b xs ys hhead htail ih =>
    obtain ⟨other, a⟩ := a
    obtain ⟨_, b⟩ := b
    obtain ⟨rfl, hab⟩ := hhead
    unfold insert
    split
    · exact .cons ⟨rfl, hxy⟩ (.cons ⟨rfl, hab⟩ htail)
    · split
      · exact .cons ⟨rfl, hxy⟩ htail
      · exact .cons ⟨rfl, hab⟩ ih

theorem forall₂_ofList {xs : List (String × α)} {ys : List (String × β)}
    (h : List.Forall₂ (SameKey R) xs ys) : List.Forall₂ (SameKey R) (ofList xs) (ofList ys) := by
  have hfold : ∀ known known', List.Forall₂ (SameKey R) known known' →
      List.Forall₂ (SameKey R) (xs.foldl (fun acc e => insert e.1 e.2 acc) known)
        (ys.foldl (fun acc e => insert e.1 e.2 acc) known') := by
    induction h with
    | nil => exact fun _ _ hknown => hknown
    | @cons a b xs ys hhead _ ih =>
      obtain ⟨key, x⟩ := a
      obtain ⟨_, y⟩ := b
      obtain ⟨rfl, hxy⟩ := hhead
      exact fun _ _ hknown => ih _ _ (forall₂_insert hknown key hxy)
  exact hfold [] [] .nil

/-- An entry is replaced, or what it is related to is in the map. -/
theorem mem_replaced_or_mem_ofList {xs : List (String × α)} {ys : List (String × β)}
    (h : List.Forall₂ (SameKey R) xs ys) {x : String × α} (hx : x ∈ xs) :
    x ∈ replaced xs ∨ ∃ y, R x.2 y ∧ (x.1, y) ∈ ofList ys := by
  -- The map that the fold starts from does not matter: what is inserted last for a key stays.
  have hfold : ∀ known, x ∈ replaced xs ∨ ∃ y, R x.2 y ∧
      (ys.foldl (fun acc e => insert e.1 e.2 acc) known).lookup x.1 = some y := by
    induction h with
    | nil => exact absurd hx List.not_mem_nil
    | @cons a b xs ys hhead htail ih =>
      intro known
      rcases List.mem_cons.mp hx with rfl | hx
      · by_cases hlater : xs.any (·.1 == x.1)
        · left
          rw [replaced, if_pos hlater]
          exact List.mem_cons_self
        · right
          refine ⟨b.2, hhead.2, ?_⟩
          have hother : ∀ e ∈ ys, e.1 ≠ x.1 := by
            intro e he heq
            have hkey : e.1 ∈ xs.map (·.1) := by
              rw [keys_eq_of_forall₂ htail]
              exact List.mem_map_of_mem he
            obtain ⟨c, hc, hce⟩ := List.mem_map.mp hkey
            exact hlater (List.any_eq_true.mpr ⟨c, hc, beq_iff_eq.mpr (hce.trans heq)⟩)
          rw [List.foldl_cons, lookup_foldl_insert_of_ne _ _ hother, lookup_insert,
            if_pos hhead.1]
      · rcases ih hx (insert b.1 b.2 known) with hmem | hfound
        · left
          rw [replaced]
          split
          · exact List.mem_cons_of_mem a hmem
          · exact hmem
        · exact Or.inr hfound
  rcases hfold [] with hmem | ⟨y, hxy, hlookup⟩
  · exact Or.inl hmem
  · exact Or.inr ⟨y, hxy, (lookup_eq_some_iff (ordered_ofList ys)).mp hlookup⟩

end

/-! ## Replacing -/

theorem keys_replace (key : String) (value : α) (entries : List (String × α)) :
    (entries.map fun e => if e.1 == key then (key, value) else e).map (·.1) =
      entries.map (·.1) := by
  rw [List.map_map]
  refine List.map_congr_left fun e _ => ?_
  rw [Function.comp_apply]
  split
  · rename_i heq
    exact (eq_of_beq heq).symm
  · rfl

theorem lookup_replace (key : String) (value : α) (entries : List (String × α)) (other : String) :
    (entries.map fun e => if e.1 == key then (key, value) else e).lookup other =
      if other = key ∧ entries.any (·.1 == key) then some value else entries.lookup other := by
  induction entries with
  | nil => simp
  | cons a rest ih =>
    have hkey : (if a.1 == key then (key, value) else a).1 = a.1 := by
      split
      · rename_i heq
        exact (eq_of_beq heq).symm
      · rfl
    rw [List.map_cons, lookup_cons_eq, lookup_cons_eq, hkey, ih]
    by_cases hother : other = a.1
    · rw [if_pos hother, if_pos hother]
      by_cases ha : a.1 = key <;> simp [ha, hother]
    · rw [if_neg hother, if_neg hother]
      by_cases hsame : other = key
      · have ha : (a.1 == key) = false :=
          beq_eq_false_iff_ne.mpr fun ha => hother (hsame.trans ha.symm)
        rw [List.any_cons, ha, Bool.false_or]
      · simp [hsame]

theorem lookup_set (key : String) (value : α) (entries : List (String × α)) (other : String) :
    (set key value entries).lookup other =
      if other = key then some value else entries.lookup other := by
  unfold set
  split
  · rename_i hany
    simp only [lookup_replace, hany, and_true]
  · exact lookup_insert key value entries other

theorem Ordered.set {entries : List (String × α)} (h : Ordered entries) (key : String)
    (value : α) : Ordered (set key value entries) := by
  unfold Keyed.set
  split
  · have hkeys := List.pairwise_map.mpr h
    rw [← keys_replace key value] at hkeys
    exact List.pairwise_map.mp hkeys
  · exact h.insert key value

theorem nodup_keys_set {entries : List (String × α)} (h : (entries.map (·.1)).Nodup) (key : String)
    (value : α) : ((set key value entries).map (·.1)).Nodup := by
  unfold set
  split
  · rwa [keys_replace]
  · rename_i hany
    have hnew : ∀ e ∈ entries, e.1 ≠ key := fun e he heq =>
      hany (List.any_eq_true.mpr ⟨e, he, beq_iff_eq.mpr heq⟩)
    rw [((insert_perm value hnew).map (·.1)).nodup_iff]
    refine List.nodup_cons.mpr ⟨fun hmem => ?_, h⟩
    obtain ⟨e, he, heq⟩ := List.mem_map.mp hmem
    exact hnew e he heq

theorem filter_key_of_mem {entries : List (String × α)} (h : Ordered entries) {key : String}
    {value : α} (he : (key, value) ∈ entries) :
    entries.filter (fun e => e.1 == key) = [(key, value)] := by
  induction entries with
  | nil => exact absurd he List.not_mem_nil
  | cons a rest ih =>
    obtain ⟨hhead, htail⟩ := List.pairwise_cons.mp h
    rcases List.mem_cons.mp he with rfl | he
    · have hrest : ∀ e ∈ rest, ¬ (e.1 == key) = true := fun e he heq =>
        String.lt_irrefl _ (eq_of_beq heq ▸ hhead e he)
      rw [List.filter_cons, if_pos (beq_self_eq_true key), List.filter_eq_nil_iff.mpr hrest]
    · have hne : ¬ (a.1 == key) = true := fun heq =>
        String.lt_irrefl _ (eq_of_beq heq ▸ hhead _ he)
      rw [List.filter_cons, if_neg hne, ih htail he]

namespace Map

theorem find?_eq_some_iff (m : Map α) {key : String} {value : α} :
    m.find? key = some value ↔ (key, value) ∈ m.entries :=
  lookup_eq_some_iff m.ordered

theorem find?_eq_none_iff (m : Map α) {key : String} :
    m.find? key = none ↔ key ∉ m.keys := by
  rw [Option.eq_none_iff_forall_not_mem, keys, map, List.mem_map]
  constructor
  · rintro h ⟨⟨_, value⟩, he, rfl⟩
    exact h value (m.find?_eq_some_iff.mpr he)
  · intro h value hfind
    exact h ⟨(key, value), m.find?_eq_some_iff.mp hfind, rfl⟩

theorem find?_insert (m : Map α) (key : String) (value : α) (other : String) :
    (m.insert key value).find? other = if other = key then some value else m.find? other :=
  lookup_insert key value m.entries other

theorem nodup_keys (m : Map α) : m.keys.Nodup := m.ordered.nodup_keys

theorem mem_entries_insert (m : Map α) {key : String} {value : α} {e : String × α} :
    e ∈ (m.insert key value).entries ↔ e = (key, value) ∨ e ∈ m.entries ∧ e.1 ≠ key :=
  mem_insert_iff m.ordered

theorem entries_foldl_insert (es : List (String × α)) (m : Map α) :
    (es.foldl (fun known e => known.insert e.1 e.2) m).entries =
      es.foldl (fun acc e => Keyed.insert e.1 e.2 acc) m.entries := by
  induction es generalizing m with
  | nil => rfl
  | cons a es ih => exact ih (m.insert a.1 a.2)

theorem mem_entries_foldl_insert {es : List (String × α)} {m : Map α} {e : String × α}
    (h : e ∈ (es.foldl (fun known e => known.insert e.1 e.2) m).entries) :
    e ∈ es ∨ e ∈ m.entries := by
  rw [entries_foldl_insert] at h
  exact mem_foldl_insert h

theorem mem_keys_insert (m : Map α) {key : String} {value : α} {other : String} :
    other ∈ (m.insert key value).keys ↔ other = key ∨ other ∈ m.keys := by
  rw [← not_iff_not, ← find?_eq_none_iff, find?_insert, not_or, ← find?_eq_none_iff]
  split <;> simp_all

theorem mem_keys_foldl_insert {es : List (String × α)} {m : Map α} {key : String} :
    key ∈ (es.foldl (fun known e => known.insert e.1 e.2) m).keys ↔
      key ∈ es.map (·.1) ∨ key ∈ m.keys := by
  induction es generalizing m with
  | nil => simp
  | cons e es ih => rw [List.foldl_cons, ih, mem_keys_insert, List.map_cons, List.mem_cons,
      or_left_comm, or_assoc]

theorem entries_foldl_insert_perm (es : List (String × α)) (m : Map α)
    (hnodup : (es.map (·.1)).Nodup) (hnew : ∀ e ∈ es, e.1 ∉ m.keys) :
    (es.foldl (fun known e => known.insert e.1 e.2) m).entries.Perm (es ++ m.entries) := by
  induction es generalizing m with
  | nil => exact .refl _
  | cons e es ih =>
    obtain ⟨hfirst, hnodup⟩ := List.nodup_cons.mp hnodup
    obtain ⟨he, hnew⟩ := List.forall_mem_cons.mp hnew
    have hkeys : ∀ a ∈ m.entries, a.1 ≠ e.1 := fun a ha heq =>
      he (List.mem_map.mpr ⟨a, ha, heq⟩)
    have hinsert : ∀ a ∈ es, a.1 ∉ (m.insert e.1 e.2).keys := by
      intro a ha hmem
      obtain ⟨b, hb, heq⟩ := List.mem_map.mp hmem
      rcases m.mem_entries_insert.mp hb with rfl | ⟨hb, _⟩
      · exact hfirst (List.mem_map.mpr ⟨a, ha, heq.symm⟩)
      · exact hnew a ha (List.mem_map.mpr ⟨b, hb, heq⟩)
    refine (ih (m.insert e.1 e.2) hnodup hinsert).trans ?_
    exact ((insert_perm e.2 hkeys).append_left es).trans List.perm_middle

end Map

theorem ofList_perm {entries : List (String × α)} (h : (entries.map (·.1)).Nodup) :
    (ofList entries).Perm entries := by
  have hperm := Map.entries_foldl_insert_perm entries Map.empty h fun _ _ => List.not_mem_nil
  rw [Map.entries_foldl_insert] at hperm
  exact hperm.trans (.of_eq (List.append_nil entries))

end AppScaffold.Keyed

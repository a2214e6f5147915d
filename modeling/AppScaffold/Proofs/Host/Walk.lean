import Mathlib.Data.List.Nodup
import AppScaffold.Proofs.Host.Tree

/-!
# Walking a tree

What a walk through a tree finds: the files that pass, behind directories that all pass, each once,
in the order of their locations. The order in which directories list their children does not
matter.
-/

set_option autoImplicit false

namespace AppScaffold.Host.Node

variable {keep : Location → Item → Bool} {n : Node} {children : List (String × Node)}

/-- What stands at a location passes, and so do all directories on the way to it. The start of the
way is not asked about. -/
structure Reaches (keep : Location → Item → Bool) (l : Location) (a : Item) : Prop where
  above : ∀ m, m ≠ [] → m <+: l → m ≠ l → keep m .dir
  here : l ≠ [] → keep l a

theorem reaches_nil (keep : Location → Item → Bool) (a : Item) : Reaches keep [] a where
  above _ hm hprefix := absurd (List.prefix_nil.mp hprefix) hm
  here hne := absurd rfl hne

theorem reaches_cons {name : String} {rest : Location} {a : Item} :
    Reaches keep (name :: rest) a ↔
      keep [name] (if rest = [] then a else .dir) ∧ Reaches (fun l => keep (name :: l)) rest a := by
  constructor
  · intro h
    refine ⟨?_, fun m hm hprefix hne => ?_, fun _ => h.here (List.cons_ne_nil name rest)⟩
    · split
      · rename_i hrest
        exact hrest ▸ h.here (List.cons_ne_nil name rest)
      · rename_i hrest
        refine h.above [name] (List.cons_ne_nil name []) ?_ fun heq =>
          hrest (List.cons.inj heq).2.symm
        exact List.cons_prefix_cons.mpr ⟨rfl, List.nil_prefix⟩
    · exact h.above (name :: m) (List.cons_ne_nil name m) (List.cons_prefix_cons.mpr ⟨rfl, hprefix⟩)
        fun heq => hne (List.cons.inj heq).2
  · rintro ⟨hname, hrest⟩
    refine ⟨fun m hm hprefix hne => ?_, fun _ => ?_⟩
    · obtain ⟨x, m, rfl⟩ := List.exists_cons_of_ne_nil hm
      obtain ⟨rfl, hbelow⟩ := List.cons_prefix_cons.mp hprefix
      have hother : m ≠ rest := fun heq => hne (congrArg (x :: ·) heq)
      -- The first name alone is the only prefix that the condition on the rest does not speak of.
      by_cases hm : m = []
      · rw [if_neg fun hnil => hother (hm.trans hnil.symm)] at hname
        exact hm ▸ hname
      · exact hrest.above m hm hbelow hother
    · by_cases hnil : rest = []
      · rw [if_pos hnil] at hname
        exact hnil ▸ hname
      · exact hrest.here hnil

def Yields (n : Node) (keep : Location → Item → Bool) (l : Location) (contents : ByteArray) :
    Prop :=
  ∃ executable, n.itemAt? l = some (.file contents executable) ∧
    Reaches keep l (.file contents executable)

/-! ## Sorting -/

theorem pairwise_sortByName {α : Type} {entries : List (String × α)}
    (h : (entries.map (·.1)).Nodup) : (sortByName entries).Pairwise fun a b => a.1 < b.1 := by
  have hperm : (sortByName entries).Perm entries := List.mergeSort_perm _ _
  have hle : (sortByName entries).Pairwise fun a b => decide (a.1 ≤ b.1) = true := by
    refine List.pairwise_mergeSort (fun a b c hab hbc => ?_) (fun a b => ?_) entries
    · exact decide_eq_true (String.le_trans (of_decide_eq_true hab) (of_decide_eq_true hbc))
    · simpa using String.le_total a.1 b.1
  have hne := List.pairwise_map.mp ((hperm.map (·.1)).nodup_iff.mpr h)
  refine (hle.and hne).imp fun hab => ?_
  exact String.not_le.mp fun hba => hab.2 (String.le_antisymm (of_decide_eq_true hab.1) hba)

theorem walkChildren_eq (keep : Location → Item → Bool) (children : List (String × Node)) :
    walkChildren keep children =
      (children.filter fun c => keep [c.1] c.2.item).map fun c =>
        (c.1, c.2.walk fun l => keep (c.1 :: l)) := by
  induction children with
  | nil => rfl
  | cons c rest ih =>
    rw [walkChildren, List.filter_cons, ih]
    split <;> rfl

theorem keys_walkChildren_sublist (keep : Location → Item → Bool)
    (children : List (String × Node)) :
    ((walkChildren keep children).map (·.1)).Sublist (children.map (·.1)) := by
  rw [walkChildren_eq, List.map_map]
  exact List.filter_sublist.map _

/-! ## What is found -/

theorem item_of_itemAt?_file {l : Location} {contents : ByteArray} {executable : Bool}
    (h : n.itemAt? l = some (.file contents executable)) :
    n.item = if l = [] then .file contents executable else .dir := by
  cases l with
  | nil =>
    rw [itemAt?_nil] at h
    exact Option.some.inj h
  | cons name rest =>
    rw [if_neg (List.cons_ne_nil name rest)]
    cases n with
    | file c x => cases h
    | link target => cases h
    | dir children => rfl

theorem mem_walk_dir (h : (children.map (·.1)).Nodup) {f : Location × ByteArray} :
    f ∈ (Node.dir children).walk keep ↔
      ∃ name child rest, children.lookup name = some child ∧ keep [name] child.item ∧
        (rest, f.2) ∈ child.walk (fun l => keep (name :: l)) ∧ f.1 = name :: rest := by
  rw [walk, sortByName]
  simp only [List.mem_flatMap, List.mem_mergeSort, walkChildren_eq, List.mem_map, List.mem_filter,
    Keyed.lookup_eq_some_iff_of_nodup h]
  constructor
  · rintro ⟨_, ⟨⟨name, child⟩, ⟨hmem, hkeep⟩, rfl⟩, ⟨rest, contents⟩, hwalk, rfl⟩
    exact ⟨name, child, rest, hmem, hkeep, hwalk, rfl⟩
  · rintro ⟨name, child, rest, hmem, hkeep, hwalk, heq⟩
    exact ⟨_, ⟨⟨name, child⟩, ⟨hmem, hkeep⟩, rfl⟩, (rest, f.2), hwalk, Prod.ext heq.symm rfl⟩

theorem mem_walk_iff (h : n.Distinct) {l : Location} {contents : ByteArray} :
    (l, contents) ∈ n.walk keep ↔ n.Yields keep l contents := by
  unfold Yields
  induction l generalizing n keep with
  | nil =>
    rw [itemAt?_nil]
    cases n with
    | file c executable => simp [walk, item, reaches_nil, eq_comm]
    | link target => simp [walk, item]
    | dir children => simp [mem_walk_dir (h [] children rfl), item]
  | cons name rest ih =>
    cases n with
    | file c executable => simp [walk, itemAt?, at?]
    | link target => simp [walk, itemAt?, at?]
    | dir children =>
      rw [mem_walk_dir (h [] children rfl)]
      simp only [itemAt?_cons, reaches_cons, Option.bind_eq_some_iff]
      constructor
      · rintro ⟨_, child, _, hchild, hkeep, hwalk, heq⟩
        obtain ⟨rfl, rfl⟩ := List.cons.inj heq
        obtain ⟨executable, hfile, hreaches⟩ := (ih (h.child hchild)).mp hwalk
        exact ⟨executable, ⟨child, hchild, hfile⟩, item_of_itemAt?_file hfile ▸ hkeep, hreaches⟩
      · rintro ⟨executable, ⟨child, hchild, hfile⟩, hkeep, hreaches⟩
        exact ⟨name, child, rest, hchild, item_of_itemAt?_file hfile ▸ hkeep,
          (ih (h.child hchild)).mpr ⟨executable, hfile, hreaches⟩, rfl⟩

theorem pairwise_walk {n : Node} {keep : Location → Item → Bool} (h : n.Distinct) :
    (n.walk keep).Pairwise fun a b => a.1 < b.1 := by
  match n, h with
  | .file contents executable, _ => exact List.pairwise_singleton _ _
  | .link target, _ => exact .nil
  | .dir children, h =>
    have hnames := h [] children rfl
    rw [walk, List.pairwise_flatMap]
    -- below one child the order is that of its own walk, and of two children that of their names
    constructor
    · intro c hc
      rw [sortByName, List.mem_mergeSort, walkChildren_eq] at hc
      obtain ⟨⟨name, child⟩, hmem, rfl⟩ := List.mem_map.mp hc
      have hmem := (List.mem_filter.mp hmem).1
      have hchild := h.child ((Keyed.lookup_eq_some_iff_of_nodup hnames).mpr hmem)
      have hsize := List.sizeOf_lt_of_mem hmem
      refine List.pairwise_map.mpr ((pairwise_walk hchild).imp fun hlt => ?_)
      exact List.cons_lt_cons_iff.mpr (Or.inr ⟨rfl, hlt⟩)
    · have hsorted := pairwise_sortByName (hnames.sublist (keys_walkChildren_sublist keep children))
      refine hsorted.imp fun hlt x hx y hy => ?_
      obtain ⟨_, _, rfl⟩ := List.mem_map.mp hx
      obtain ⟨_, _, rfl⟩ := List.mem_map.mp hy
      exact List.cons_lt_cons_iff.mpr (Or.inl hlt)
termination_by n
decreasing_by
  simp only [Prod.mk.sizeOf_spec] at hsize
  simp only [Node.dir.sizeOf_spec]
  omega

theorem nodup_of_pairwise {files : List (Location × ByteArray)}
    (h : files.Pairwise fun a b => a.1 < b.1) : (files.map (·.1)).Nodup := by
  refine List.pairwise_map.mpr (h.imp ?_)
  intro a b hlt heq
  exact List.lt_irrefl b.1 (heq ▸ hlt)

theorem eq_of_mem_iff {files files' : List (Location × ByteArray)}
    (h : files.Pairwise fun a b => a.1 < b.1) (h' : files'.Pairwise fun a b => a.1 < b.1)
    (hmem : ∀ f, f ∈ files ↔ f ∈ files') : files = files' := by
  have hperm := (List.perm_ext_iff_of_nodup (nodup_of_pairwise h).of_map
    (nodup_of_pairwise h').of_map).mpr hmem
  refine List.Perm.eq_of_pairwise (fun a b _ _ hab hba => ?_) h h' hperm
  exact absurd (List.lt_trans hab hba) (List.lt_irrefl a.1)

/-- The order in which directories list their children changes nothing. -/
theorem walk_congr {n' : Node} (h : n.Distinct) (h' : n'.Distinct)
    (hsame : ∀ l, n.itemAt? l = n'.itemAt? l) : n.walk keep = n'.walk keep := by
  refine eq_of_mem_iff (pairwise_walk h) (pairwise_walk h') ?_
  rintro ⟨l, contents⟩
  rw [mem_walk_iff h, mem_walk_iff h', Yields, Yields, hsame]

end AppScaffold.Host.Node

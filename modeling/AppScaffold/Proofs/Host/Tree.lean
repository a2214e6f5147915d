import AppScaffold.Host.Node
import AppScaffold.Proofs.Keyed.Lookup

/-!
# Places in a file tree

A tree gives for each location what stands there: a file, a link, a directory, or nothing. Putting
a file or an empty directory where nothing is, or a file where a file is, changes what stands at
this location and nowhere else.
-/

set_option autoImplicit false

namespace AppScaffold.Host

namespace Item

def SameKind : Item → Item → Prop
  | .file _ _, .file _ _ => True
  | .link a, .link b => a = b
  | .dir, .dir => True
  | _, _ => False

theorem SameKind.refl (a : Item) : a.SameKind a := by
  cases a <;> simp [SameKind]

theorem SameKind.trans {a b c : Item} (hab : a.SameKind b) (hbc : b.SameKind c) :
    a.SameKind c := by
  cases a <;> cases b <;> cases c <;> simp_all [SameKind]

theorem SameKind.eq_dir {a : Item} (h : SameKind .dir a) : a = .dir := by
  cases a with
  | dir => rfl
  | file contents executable => exact h.elim
  | link target => exact h.elim

theorem SameKind.eq_link {a : Item} {target : String} (h : SameKind (.link target) a) :
    a = .link target := by
  cases a with
  | dir => exact h.elim
  | file contents executable => exact h.elim
  | link other => exact congrArg link (Eq.symm h)

theorem SameKind.symm {a b : Item} (h : a.SameKind b) : b.SameKind a := by
  cases a <;> cases b <;> simp_all [SameKind]

theorem SameKind.exists_file {a : Item} {contents : ByteArray} {executable : Bool}
    (h : SameKind (.file contents executable) a) : ∃ c x, a = .file c x := by
  cases a with
  | file c x => exact ⟨c, x, rfl⟩
  | link target => exact h.elim
  | dir => exact h.elim

def contents? : Item → Option ByteArray
  | .file contents _ => some contents
  | _ => none

end Item

namespace Node

theorem eq_file_of_item {n : Node} {contents : ByteArray} {executable : Bool}
    (h : n.item = .file contents executable) : n = .file contents executable := by
  cases n with
  | file c x =>
    cases h
    rfl
  | link target => cases h
  | dir children => cases h

def itemAt? (root : Node) (l : Location) : Option Item := (root.at? l).map item

def fileAt? (root : Node) (l : Location) : Option ByteArray := (root.itemAt? l).bind Item.contents?

def IsLeaf (n : Node) : Prop := ∀ name rest, n.at? (name :: rest) = none

theorem isLeaf_file (contents : ByteArray) (executable : Bool) :
    (Node.file contents executable).IsLeaf := fun _ _ => rfl

theorem isLeaf_emptyDir : emptyDir.IsLeaf := fun _ _ => rfl

theorem at?_nil (n : Node) : n.at? [] = some n := by
  cases n <;> rfl

theorem at?_cons (children : List (String × Node)) (name : String) (rest : Location) :
    (Node.dir children).at? (name :: rest) = (children.lookup name).bind (at? rest) := by
  rw [at?]
  cases children.lookup name <;> rfl

theorem at?_append (l m : Location) (n : Node) : n.at? (l ++ m) = (n.at? l).bind (at? m) := by
  induction l generalizing n with
  | nil => rw [List.nil_append, at?_nil, Option.bind_some]
  | cons name l ih =>
    cases n with
    | file contents executable => rfl
    | link target => rfl
    | dir children =>
      rw [List.cons_append, at?_cons, at?_cons]
      cases children.lookup name with
      | none => rfl
      | some child => exact ih child

theorem itemAt?_nil (n : Node) : n.itemAt? [] = some n.item := by
  rw [itemAt?, at?_nil, Option.map_some]

theorem itemAt?_append {root n : Node} {l : Location} (h : root.at? l = some n) (m : Location) :
    root.itemAt? (l ++ m) = n.itemAt? m := by
  rw [itemAt?, at?_append, h, Option.bind_some, itemAt?]

theorem itemAt?_cons (children : List (String × Node)) (name : String) (rest : Location) :
    (Node.dir children).itemAt? (name :: rest) =
      (children.lookup name).bind fun child => child.itemAt? rest := by
  rw [itemAt?, at?_cons]
  cases children.lookup name <;> rfl

theorem IsLeaf.itemAt?_eq {n : Node} (h : n.IsLeaf) (l : Location) :
    n.itemAt? l = if l = [] then some n.item else none := by
  cases l with
  | nil => exact itemAt?_nil n
  | cons name rest => rw [itemAt?, h, if_neg (List.cons_ne_nil name rest), Option.map_none]

theorem fileAt?_eq_some_iff {n : Node} {l : Location} {contents : ByteArray} :
    n.fileAt? l = some contents ↔ ∃ executable, n.itemAt? l = some (.file contents executable) := by
  rw [fileAt?, Option.bind_eq_some_iff]
  constructor
  · rintro ⟨a, ha, hcontents⟩
    cases a with
    | file c executable =>
      cases hcontents
      exact ⟨executable, ha⟩
    | link target => cases hcontents
    | dir => cases hcontents
  · rintro ⟨executable, ha⟩
    exact ⟨_, ha, rfl⟩

theorem at?_eq_none_iff {n : Node} {l : Location} : n.at? l = none ↔ n.itemAt? l = none := by
  rw [itemAt?, Option.map_eq_none_iff]

theorem at?_dir_of_below {n : Node} {l m : Location} (hm : m ≠ [])
    (h : n.at? (l ++ m) ≠ none) : ∃ children, n.at? l = some (.dir children) := by
  rw [at?_append] at h
  cases hl : n.at? l with
  | none => exact absurd (by rw [hl]; rfl) h
  | some found =>
    obtain ⟨name, rest, rfl⟩ := List.exists_cons_of_ne_nil hm
    cases found with
    | file contents executable => exact absurd (by rw [hl]; rfl) h
    | link target => exact absurd (by rw [hl]; rfl) h
    | dir children => exact ⟨children, rfl⟩

theorem itemAt?_of_isPrefix {n : Node} {l m : Location} {a : Item} (h : n.itemAt? l = some a)
    (hm : m <+: l) (hne : m ≠ l) : n.itemAt? m = some .dir := by
  obtain ⟨rest, rfl⟩ := hm
  have hrest : rest ≠ [] := fun hnil => hne (by rw [hnil, List.append_nil])
  obtain ⟨children, hdir⟩ := at?_dir_of_below hrest fun hnone => by
    rw [at?_eq_none_iff.mp hnone] at h
    cases h
  rw [itemAt?, hdir]
  rfl

/-! ## Putting -/

variable {new root root' : Node} {l : Location}

/-- Putting a node changes what is found for the first name of its location. -/
theorem exists_of_put_cons {name : String} {rest : Location}
    (h : put new (name :: rest) root = some root') :
    ∃ children child, root = .dir children ∧ root' = .dir (Keyed.set name child children) ∧
      (rest = [] ∧ children.lookup name = none ∧ child = new ∨
        ∃ old, children.lookup name = some old ∧ put new rest old = some child) := by
  cases root with
  | file contents executable => cases rest <;> simp [put] at h
  | link target => cases rest <;> simp [put] at h
  | dir children =>
    cases rest with
    | nil =>
      obtain rfl := Option.some.inj h
      refine ⟨children, new, rfl, rfl, ?_⟩
      cases hlookup : children.lookup name with
      | none => exact Or.inl ⟨rfl, rfl, rfl⟩
      | some old => exact Or.inr ⟨old, rfl, by cases old <;> rfl⟩
    | cons next rest =>
      rw [put.eq_3 new name (next :: rest) children (List.cons_ne_nil next rest)] at h
      cases hlookup : children.lookup name with
      | none =>
        rw [hlookup] at h
        cases h
      | some old =>
        rw [hlookup] at h
        obtain ⟨child, hchild, rfl⟩ := Option.map_eq_some_iff.mp h
        exact ⟨children, child, rfl, rfl, Or.inr ⟨old, hlookup, hchild⟩⟩

/-- A leaf that is put where nothing or a leaf is, stands there afterwards; all else stays. -/
theorem itemAt?_put (h : put new l root = some root') (hnew : new.IsLeaf)
    (hold : ∀ n, root.at? l = some n → n.IsLeaf) (m : Location) :
    root'.itemAt? m = if m = l then some new.item else root.itemAt? m := by
  induction l generalizing root root' m with
  | nil =>
    obtain rfl : new = root' := by cases root <;> exact Option.some.inj h
    rw [hnew.itemAt?_eq, (hold root (at?_nil root)).itemAt?_eq]
    split <;> rfl
  | cons name rest ih =>
    obtain ⟨children, child, rfl, rfl, hchild⟩ := exists_of_put_cons h
    cases m with
    | nil => rfl
    | cons x xs =>
      rw [itemAt?_cons, itemAt?_cons, Keyed.lookup_set]
      -- Locations that begin with another name are below another child.
      by_cases hx : x = name
      · subst hx
        rw [if_pos rfl, Option.bind_some]
        rcases hchild with ⟨rfl, hnone, rfl⟩ | ⟨old, hlookup, hput⟩
        · rw [hnew.itemAt?_eq, hnone]
          simp
        · have hleaf : ∀ n, old.at? rest = some n → n.IsLeaf := fun n hn =>
            hold n (by rw [at?_cons, hlookup]; exact hn)
          rw [ih hput hleaf, hlookup]
          simp
      · have hne : x :: xs ≠ name :: rest := fun heq => hx (List.cons.inj heq).1
        rw [if_neg hx, if_neg hne]

theorem at?_put_below {d m : Location} {n : Node} (h : put new (d ++ m) root = some root')
    (hn : root.at? d = some n) : ∃ n', put new m n = some n' ∧ root'.at? d = some n' := by
  induction d generalizing root root' with
  | nil =>
    obtain rfl : root = n := Option.some.inj ((at?_nil root).symm.trans hn)
    exact ⟨root', h, at?_nil root'⟩
  | cons name d ih =>
    obtain ⟨children, child, rfl, rfl, hchild⟩ := exists_of_put_cons h
    rw [at?_cons] at hn
    obtain ⟨old, hold, hn⟩ := Option.bind_eq_some_iff.mp hn
    rcases hchild with ⟨_, hnone, _⟩ | ⟨old', hlookup, hput⟩
    · exact absurd (hold.symm.trans hnone) (Option.some_ne_none old)
    · obtain rfl : old = old' := Option.some.inj (hold.symm.trans hlookup)
      obtain ⟨n', hput', hn'⟩ := ih hput hn
      refine ⟨n', hput', ?_⟩
      rw [at?_cons, Keyed.lookup_set, if_pos rfl]
      exact hn'

theorem at?_put_apart {d : Location} (h : put new l root = some root') (hbelow : ¬ d <+: l)
    (habove : ¬ l <+: d) : root'.at? d = root.at? d := by
  induction l generalizing root root' d with
  | nil => exact absurd List.nil_prefix habove
  | cons name rest ih =>
    obtain ⟨children, child, rfl, rfl, hchild⟩ := exists_of_put_cons h
    cases d with
    | nil => exact absurd List.nil_prefix hbelow
    | cons x xs =>
      rw [at?_cons, at?_cons, Keyed.lookup_set]
      by_cases hx : x = name
      · subst hx
        rw [List.cons_prefix_cons] at hbelow habove
        have hbelow : ¬ xs <+: rest := fun hp => hbelow ⟨rfl, hp⟩
        have habove : ¬ rest <+: xs := fun hp => habove ⟨rfl, hp⟩
        rcases hchild with ⟨rfl, _⟩ | ⟨old, hlookup, hput⟩
        · exact absurd List.nil_prefix habove
        · rw [if_pos rfl, hlookup]
          exact ih hput hbelow habove
      · rw [if_neg hx]

/-! ## Order -/

def Tidy (n : Node) : Prop :=
  ∀ l children, n.at? l = some (.dir children) → Keyed.Ordered children

theorem tidy_file (contents : ByteArray) (executable : Bool) :
    (Node.file contents executable).Tidy := by
  intro l children h
  cases l <;> cases h

theorem tidy_emptyDir : emptyDir.Tidy := by
  intro l children h
  cases l with
  | nil =>
    cases h
    exact List.Pairwise.nil
  | cons name rest => cases h

theorem Tidy.child {children : List (String × Node)} (h : (Node.dir children).Tidy) {name : String}
    {child : Node} (hchild : children.lookup name = some child) : child.Tidy := by
  intro l below hl
  refine h (name :: l) below ?_
  rw [at?_cons, hchild]
  exact hl

theorem Tidy.put (h : put new l root = some root') (hroot : root.Tidy) (hnew : new.Tidy) :
    root'.Tidy := by
  induction l generalizing root root' with
  | nil =>
    obtain rfl : new = root' := by cases root <;> exact Option.some.inj h
    exact hnew
  | cons name rest ih =>
    obtain ⟨children, child, rfl, rfl, hchild⟩ := exists_of_put_cons h
    have htidy : child.Tidy := by
      rcases hchild with ⟨_, _, rfl⟩ | ⟨old, hlookup, hput⟩
      · exact hnew
      · exact ih hput (hroot.child hlookup)
    intro m below hm
    cases m with
    | nil =>
      cases hm
      exact (hroot [] children rfl).set name child
    | cons x xs =>
      rw [at?_cons, Keyed.lookup_set] at hm
      split at hm
      · exact htidy xs below hm
      · obtain ⟨other, hother, hm⟩ := Option.bind_eq_some_iff.mp hm
        exact (hroot.child hother) xs below hm

/-- No directory lists a name twice; the order in which it lists them is left open. -/
def Distinct (n : Node) : Prop :=
  ∀ l children, n.at? l = some (.dir children) → (children.map (·.1)).Nodup

theorem Tidy.distinct {n : Node} (h : n.Tidy) : n.Distinct :=
  fun l children hl => (h l children hl).nodup_keys

theorem Distinct.below {n m : Node} {l : Location} (h : n.Distinct) (hm : n.at? l = some m) :
    m.Distinct := by
  intro k children hk
  refine h (l ++ k) children ?_
  rw [at?_append, hm]
  exact hk

theorem Distinct.child {children : List (String × Node)} (h : (Node.dir children).Distinct)
    {name : String} {child : Node} (hchild : children.lookup name = some child) :
    child.Distinct := by
  refine h.below (l := [name]) ?_
  rw [at?_cons, hchild]
  exact at?_nil child

theorem Distinct.put (h : put new l root = some root') (hroot : root.Distinct)
    (hnew : new.Distinct) : root'.Distinct := by
  induction l generalizing root root' with
  | nil =>
    obtain rfl : new = root' := by cases root <;> exact Option.some.inj h
    exact hnew
  | cons name rest ih =>
    obtain ⟨children, child, rfl, rfl, hchild⟩ := exists_of_put_cons h
    have hdistinct : child.Distinct := by
      rcases hchild with ⟨_, _, rfl⟩ | ⟨old, hlookup, hput⟩
      · exact hnew
      · exact ih hput (hroot.child hlookup)
    intro m below hm
    cases m with
    | nil =>
      cases hm
      exact Keyed.nodup_keys_set (hroot [] children rfl) name child
    | cons x xs =>
      rw [at?_cons, Keyed.lookup_set] at hm
      split at hm
      · exact hdistinct xs below hm
      · obtain ⟨other, hother, hm⟩ := Option.bind_eq_some_iff.mp hm
        exact (hroot.child hother) xs below hm

/-! ## Growth -/

/-- What stands somewhere in one tree stands there in the other one, too; files may have other
contents. -/
def Keeps (root root' : Node) : Prop :=
  ∀ l a, root.itemAt? l = some a → ∃ b, root'.itemAt? l = some b ∧ a.SameKind b

theorem Keeps.refl (root : Node) : root.Keeps root := fun _ a h => ⟨a, h, .refl a⟩

theorem Keeps.trans {a b c : Node} (hab : a.Keeps b) (hbc : b.Keeps c) : a.Keeps c := by
  intro l x hx
  obtain ⟨y, hy, hxy⟩ := hab l x hx
  obtain ⟨z, hz, hyz⟩ := hbc l y hy
  exact ⟨z, hz, hxy.trans hyz⟩

theorem keeps_put (h : put new l root = some root') (hnew : new.IsLeaf)
    (hold : ∀ n, root.at? l = some n → n.IsLeaf ∧ n.item.SameKind new.item) :
    root.Keeps root' := by
  intro m a ha
  rw [itemAt?_put h hnew fun n hn => (hold n hn).1]
  split
  · rename_i hm
    obtain ⟨n, hn, rfl⟩ := Option.map_eq_some_iff.mp (hm ▸ ha)
    exact ⟨new.item, rfl, (hold n hn).2⟩
  · exact ⟨a, ha, .refl a⟩

end Node

end AppScaffold.Host

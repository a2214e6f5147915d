import AppScaffold.Proofs.Host.Change

/-!
# Directories of any contents

A directory with links and programs in it, its names listed in any order. Making directories
changes no file of it, and writing changes at most the one that is written.
-/

set_option autoImplicit false

namespace AppScaffold.Host

namespace Node

/-- What a disk can hold: the children of a directory have different names, and names that paths
can lead to. -/
structure Sound (n : Node) : Prop where
  distinct : n.Distinct
  isName : ∀ l, n.itemAt? l ≠ none → ∀ name ∈ l, Path.IsName name

theorem sound_of_isLeaf {n : Node} (h : n.IsLeaf) (htidy : n.Tidy) : n.Sound where
  distinct := htidy.distinct
  isName l hl := by
    rw [h.itemAt?_eq] at hl
    by_cases hnil : l = []
    · simp [hnil]
    · exact absurd (if_neg hnil) hl

theorem sound_dir {children : List (String × Node)} (hnodup : (children.map (·.1)).Nodup)
    (h : ∀ c ∈ children, Path.IsName c.1 ∧ c.2.Sound) : (dir children).Sound := by
  have hchild {name : String} {child : Node} (hlookup : children.lookup name = some child) :=
    h _ ((Keyed.lookup_eq_some_iff_of_nodup hnodup).mp hlookup)
  refine ⟨fun l below hl => ?_, fun l hl => ?_⟩
  · cases l with
    | nil =>
      cases hl
      exact hnodup
    | cons name rest =>
      rw [at?_cons] at hl
      obtain ⟨child, hlookup, hl⟩ := Option.bind_eq_some_iff.mp hl
      exact (hchild hlookup).2.distinct rest below hl
  · cases l with
    | nil => simp
    | cons name rest =>
      rw [itemAt?_cons] at hl
      obtain ⟨a, ha⟩ := Option.ne_none_iff_exists'.mp hl
      obtain ⟨child, hlookup, ha⟩ := Option.bind_eq_some_iff.mp ha
      have hsome : child.itemAt? rest ≠ none := ha ▸ Option.some_ne_none a
      exact List.forall_mem_cons.mpr
        ⟨(hchild hlookup).1, (hchild hlookup).2.isName rest hsome⟩

mutual

def isSound : Node → Bool
  | .dir children => decide (children.map (·.1)).Nodup && areSound children
  | _ => true

def areSound : List (String × Node) → Bool
  | [] => true
  | (name, child) :: rest => decide (Path.IsName name) && child.isSound && areSound rest

end

theorem areSound_iff {children : List (String × Node)} :
    areSound children ↔ ∀ c ∈ children, Path.IsName c.1 ∧ c.2.isSound := by
  induction children with
  | nil => simp [areSound]
  | cons c rest ih => simp [areSound, ih]

theorem sound_of_isSound {n : Node} (h : n.isSound) : n.Sound := by
  match n, h with
  | .file contents executable, _ =>
    exact sound_of_isLeaf (isLeaf_file contents executable) (tidy_file contents executable)
  | .link target, _ =>
    refine sound_of_isLeaf (fun _ _ => rfl) fun l children hl => ?_
    cases l <;> cases hl
  | .dir children, h =>
    rw [isSound, Bool.and_eq_true, decide_eq_true_iff, areSound_iff] at h
    refine sound_dir h.1 fun c hc => ?_
    have hsize := List.sizeOf_lt_of_mem hc
    exact ⟨(h.2 c hc).1, sound_of_isSound (h.2 c hc).2⟩
termination_by n
decreasing_by
  obtain ⟨name, child⟩ := c
  simp only [Prod.mk.sizeOf_spec] at hsize
  simp only [Node.dir.sizeOf_spec]
  omega

end Node

structure HasDir (fs : Files) (dir : String) (d : Location) (n : Node) : Prop where
  find : ∃ asDir, fs.find true dir = .ok ⟨d, some n, asDir⟩
  item : n.item = .dir
  distinct : n.Distinct

/-- A path leads to a directory that has at each location what the tree has there. The order in
which directories list their children is left open. -/
def Files.Shows (fs : Files) (dir : String) (tree : Node) : Prop :=
  ∃ d n, HasDir fs dir d n ∧ ∀ l, n.itemAt? l = tree.itemAt? l

theorem Files.Shows.item {fs : Files} {dir : String} {tree : Node} (h : fs.Shows dir tree) :
    tree.item = .dir := by
  obtain ⟨d, n, hn, hsame⟩ := h
  have hroot := hsame []
  rw [Node.itemAt?_nil, Node.itemAt?_nil, hn.item] at hroot
  exact (Option.some.inj hroot).symm

namespace HasDir

variable {fs fs' : Files} {dir path : String} {d l : Location} {n new : Node}
  {contents : ByteArray}

theorem at? (h : HasDir fs dir d n) : fs.root.at? d = some n := by
  obtain ⟨asDir, hfind⟩ := h.find
  exact (Files.node_of_find hfind).symm

theorem itemAt? (h : HasDir fs dir d n) : fs.root.itemAt? d = some .dir := by
  rw [Node.itemAt?, h.at?, Option.map_some, h.item]

theorem node? (h : HasDir fs dir d n) : fs.node? dir = some n := by
  obtain ⟨asDir, hfind⟩ := h.find
  rw [Files.node?, hfind]

theorem isDir (h : HasDir fs dir d n) : fs.isDir dir = true := by
  rw [Files.isDir, h.node?]
  cases n with
  | dir children => rfl
  | file contents executable => cases h.item
  | link target => cases h.item

/-- A leaf that is put somewhere stands in the directory if its place is there, and all else is as
it was. -/
theorem placed (h : HasDir fs dir d n) (hplaced : Placed fs fs' new l) :
    ∃ n', HasDir fs' dir d n' ∧
      ∀ m, n'.itemAt? m = if d ++ m = l then some new.item else n.itemAt? m := by
  obtain ⟨asDir, hfind⟩ := h.find
  obtain ⟨n', hn', hdistinct⟩ : ∃ n', fs'.root.at? d = some n' ∧ n'.Distinct := by
    by_cases hbelow : d <+: l
    · obtain ⟨m, rfl⟩ := hbelow
      obtain ⟨n', hput, hn'⟩ := Node.at?_put_below hplaced.put h.at?
      exact ⟨n', hn', Node.Distinct.put hput h.distinct hplaced.tidy.distinct⟩
    · exact ⟨n, hplaced.at?_of_apart h.at? hbelow, h.distinct⟩
  have hitem (m : Location) :
      n'.itemAt? m = if d ++ m = l then some new.item else n.itemAt? m := by
    rw [← Node.itemAt?_append hn', hplaced.itemAt?, Node.itemAt?_append h.at?]
  refine ⟨n', ⟨⟨asDir, ?_⟩, ?_, hdistinct⟩, hitem⟩
  · rw [hplaced.find hfind fun hnone => absurd hnone (Option.some_ne_none n), hn']
  · obtain ⟨b, hb, hsame⟩ := hplaced.keeps d .dir h.itemAt?
    rw [Node.itemAt?, hn', hsame.eq_dir] at hb
    exact Option.some.inj hb

theorem dirsMade (h : HasDir fs dir d n) (hmade : Files.DirsMade fs fs') :
    ∃ n', HasDir fs' dir d n' ∧ ∀ l contents executable,
      n'.itemAt? l = some (.file contents executable) ↔
        n.itemAt? l = some (.file contents executable) := by
  induction hmade with
  | refl => exact ⟨n, h, fun _ _ _ => Iff.rfl⟩
  | step _ hplaced hnone ih =>
    rename_i l
    obtain ⟨between, hbetween, hfiles⟩ := ih
    obtain ⟨n', hn', hitem⟩ := hbetween.placed hplaced
    refine ⟨n', hn', fun m contents executable => ?_⟩
    rw [hitem, ← hfiles]
    split
    · rename_i hl
      rw [← Node.itemAt?_append hbetween.at?, hl, hnone]
      simp [Node.emptyDir, Node.item]
    · exact Iff.rfl

theorem write (h : HasDir fs dir d n) (hwrite : fs.write path contents = .ok fs') :
    ∃ found executable n', fs'.find true path = .ok found ∧ HasDir fs' dir d n' ∧
      ∀ m, n'.itemAt? m =
        if d ++ m = found.location then some (.file contents executable) else n.itemAt? m := by
  obtain ⟨found, executable, _, hplaced, hfind⟩ := Files.find_of_write hwrite
  obtain ⟨n', hn', hitem⟩ := h.placed hplaced
  exact ⟨_, executable, n', hfind, hn', hitem⟩

theorem location_of_file (h : HasDir fs dir d n) {executable follow : Bool} {found : Found}
    (hfile : n.itemAt? l = some (.file contents executable)) (hnames : ∀ name ∈ l, Path.IsName name)
    (hpath : Path.components path = Path.components dir ++ l.map .normal)
    (hfound : fs.find follow path = .ok found) : found.location = d ++ l := by
  obtain ⟨asDir, hfind⟩ := h.find
  have hne : l ≠ [] := by
    rintro rfl
    rw [Node.itemAt?_nil, h.item] at hfile
    cases hfile
  have hlinks : ∀ m target, m <+: l → fs.root.itemAt? (d ++ m) ≠ some (.link target) := by
    intro m target hm hlink
    rw [Node.itemAt?_append h.at?] at hlink
    by_cases hwhole : m = l
    · rw [hwhole, hfile] at hlink
      cases hlink
    · rw [Node.itemAt?_of_isPrefix hfile hm hwhole] at hlink
      cases hlink
  exact Files.location_of_find hfind h.itemAt? hlinks hne hnames hpath hfound

end HasDir

end AppScaffold.Host

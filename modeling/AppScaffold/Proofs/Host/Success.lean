import AppScaffold.Proofs.Host.Directory
import AppScaffold.Proofs.Host.Parent

/-!
# Operations that succeed

When an operation on files goes through. What could be written before can be written after the tree
has grown elsewhere; a directory that is there need not be made.
-/

set_option autoImplicit false

namespace AppScaffold.Host

namespace Node

variable {new root root' : Node} {d : Location} {name : String}

theorem exists_put (new : Node) (h : root.itemAt? d = some .dir) (name : String) :
    ∃ root', put new (d ++ [name]) root = some root' := by
  induction d generalizing root with
  | nil =>
    cases root with
    | dir children => exact ⟨_, rfl⟩
    | file contents executable => cases h
    | link target => cases h
  | cons x d ih =>
    cases root with
    | file contents executable => cases h
    | link target => cases h
    | dir children =>
      rw [itemAt?_cons] at h
      obtain ⟨child, hchild, h⟩ := Option.bind_eq_some_iff.mp h
      obtain ⟨child', hput⟩ := ih h
      refine ⟨_, (?_ : _ = some (.dir (Keyed.set x child' children)))⟩
      rw [List.cons_append, put.eq_3 _ _ _ _ fun hnil => List.concat_ne_nil _ _ hnil, hchild]
      simp only [hput, Option.map_some]

theorem itemAt?_of_put (h : put new (d ++ [name]) root = some root') :
    root.itemAt? d = some .dir := by
  induction d generalizing root root' with
  | nil =>
    obtain ⟨children, _, rfl, _⟩ := exists_of_put_cons h
    rfl
  | cons x d ih =>
    obtain ⟨children, child, rfl, _, hchild⟩ := exists_of_put_cons h
    rcases hchild with ⟨hnil, _⟩ | ⟨old, hold, hput⟩
    · exact absurd hnil (List.concat_ne_nil _ _)
    · rw [itemAt?_cons, hold]
      exact ih hput

theorem exists_put_of_keeps {l : Location} (new' : Node) (h : put new l root = some root')
    {grown : Node} (hkeeps : root.Keeps grown) : ∃ grown', put new' l grown = some grown' := by
  induction l using List.reverseRecOn with
  | nil => exact ⟨new', by cases grown <;> rfl⟩
  | append_singleton d name _ =>
    obtain ⟨b, hb, hdir⟩ := hkeeps d .dir (itemAt?_of_put h)
    obtain rfl := hdir.eq_dir
    exact exists_put new' hb name

end Node

namespace Files

variable {fs fs' made : Files} {path : String} {contents contents' : ByteArray}

theorem exists_write {found : Found} (h : fs.find true path = .ok found)
    (hnode : found.node = none ∧ found.asDir = false ∨
      ∃ old executable, found.node = some (.file old executable))
    (hput : ∀ new, ∃ root, Node.put new found.location fs.root = some root)
    (contents : ByteArray) : ∃ made, fs.write path contents = .ok made := by
  rw [write_eq h]
  rcases hnode with ⟨hnone, hasDir⟩ | ⟨old, executable, hfile⟩
  · obtain ⟨root, hroot⟩ := hput (.file contents false)
    rw [hnone, hasDir]
    exact ⟨{ fs with root := root }, by simp [hroot, replaceRoot]⟩
  · obtain ⟨root, hroot⟩ := hput (.file contents executable)
    rw [hfile]
    exact ⟨{ fs with root := root }, by simp [hroot, replaceRoot]⟩

theorem exists_write_of_keeps (h : fs.write path contents = .ok made)
    (hkeeps : fs.root.Keeps fs'.root) (hdir : fs'.workingDir = fs.workingDir)
    (hfree : ∀ found, fs.find true path = .ok found → fs.root.itemAt? found.location = none →
      fs'.root.itemAt? found.location = none) (contents' : ByteArray) :
    ∃ made', fs'.write path contents' = .ok made' := by
  obtain ⟨found, executable, hfound, hasDir, hplaced⟩ := placed_of_write h
  have hnode := node_of_find hfound
  have hstays (hnone : found.node = none) : fs'.root.itemAt? found.location = none :=
    hfree found hfound (Node.at?_eq_none_iff.mp (hnode ▸ hnone))
  have hfound' := find_keeps hfound hkeeps hdir fun hnone => by
    rw [hstays hnone]
    trivial
  refine exists_write hfound' ?_ (fun new => Node.exists_put_of_keeps new hplaced.put hkeeps) _
  cases hat : found.node with
  | none => exact Or.inl ⟨Node.at?_eq_none_iff.mpr (hstays hat), hasDir hat⟩
  | some n =>
    obtain ⟨_, hkind⟩ := hplaced.fits n (hnode ▸ hat)
    have hitem : fs.root.itemAt? found.location = some n.item := by
      rw [Node.itemAt?, ← hnode, hat, Option.map_some]
    obtain ⟨b, hb, hsame⟩ := hkeeps _ _ hitem
    obtain ⟨n', hn', rfl⟩ := Option.map_eq_some_iff.mp hb
    obtain ⟨old, x, hfile⟩ := (hkind.symm.trans hsame).exists_file
    exact Or.inr ⟨old, x, hn'.trans (congrArg some (Node.eq_file_of_item hfile))⟩

theorem exists_write_again (h : fs.write path contents = .ok made) (contents' : ByteArray) :
    ∃ made', made.write path contents' = .ok made' := by
  obtain ⟨found, executable, _, hplaced, hfound⟩ := find_of_write h
  exact exists_write hfound (Or.inr ⟨contents, executable, rfl⟩)
    (fun new => Node.exists_put_of_keeps new hplaced.put hplaced.keeps) contents'

/-! ## Directories that are there -/

theorem isDir_iff : fs.isDir path = true ↔
    ∃ found, fs.find true path = .ok found ∧ fs.root.itemAt? found.location = some .dir := by
  rw [isDir, node?]
  cases hfind : fs.find true path with
  | error e => simp
  | ok found =>
    have hitem : fs.root.itemAt? found.location = found.node.map Node.item := by
      rw [Node.itemAt?, node_of_find hfind]
    dsimp only
    rw [Option.any_eq_true]
    constructor
    · rintro ⟨n, hn, hdir⟩
      refine ⟨found, rfl, ?_⟩
      cases n with
      | dir children => rw [hitem, hn]; rfl
      | file c x => cases hdir
      | link target => cases hdir
    · rintro ⟨_, heq, hdir⟩
      cases heq
      rw [hitem] at hdir
      obtain ⟨n, hn, hdir⟩ := Option.map_eq_some_iff.mp hdir
      refine ⟨n, hn, ?_⟩
      cases n with
      | dir children => rfl
      | file c x => cases hdir
      | link target => cases hdir

end Files

namespace Leads

variable {root : Node} {follow asDir : Bool} {fuel links : Nat} {l : Location} {ns : List String}
  {found : Found}

theorem exists_nofollow (h : Leads root true fuel links l ns asDir found)
    (hnode : found.node ≠ none) :
    ∃ found', Leads root false fuel links l ns asDir found' ∧ found'.node ≠ none := by
  induction h with
  | here => exact ⟨_, .here, hnode⟩
  | up _ ih =>
    obtain ⟨found', h, hnode'⟩ := ih hnode
    exact ⟨found', .up h, hnode'⟩
  | last hsize hup hend =>
    refine ⟨_, .last hsize hup ?_, hnode⟩
    revert hend
    unfold Ends
    split <;> simp
  | enter hsize hup hrest hitem _ ih =>
    obtain ⟨found', h, hnode'⟩ := ih hnode
    exact ⟨found', .enter hsize hup hrest hitem h, hnode'⟩
  | link hsize hup hitem hend hlinks htarget _ ih =>
    rename_i rest asDir _ _
    -- A link in the last place is now the end of the way; every other one is followed as before.
    cases hstop : rest.isEmpty && !asDir with
    | true =>
      obtain ⟨hrest, hasDir⟩ := Bool.and_eq_true_iff.mp hstop
      obtain rfl := List.isEmpty_iff.mp hrest
      refine ⟨_, .last hsize hup ?_, ?_⟩
      · rw [hitem]
        exact ⟨rfl, (Bool.not_eq_true' _).mp hasDir⟩
      · intro hnone
        rw [Node.at?_eq_none_iff.mp hnone] at hitem
        cases hitem
    | false =>
      obtain ⟨found', h, hnode'⟩ := ih hnode
      refine ⟨found', .link hsize hup hitem ?_ hlinks htarget h, hnode'⟩
      rwa [Bool.not_false, Bool.and_true]

theorem follow_of_none (h : Leads root false fuel links l ns asDir found)
    (hnode : found.node = none) : Leads root true fuel links l ns asDir found := by
  induction h with
  | here => exact .here
  | up _ ih => exact .up (ih hnode)
  | last hsize hup _ =>
    refine .last hsize hup ?_
    rw [Node.at?_eq_none_iff.mp hnode]
    trivial
  | enter hsize hup hrest hitem _ ih => exact .enter hsize hup hrest hitem (ih hnode)
  | link hsize hup hitem _ hlinks htarget _ ih =>
    exact .link hsize hup hitem (by simp) hlinks htarget (ih hnode)

theorem exists_of_dir (h : Leads root true fuel links l ns asDir found)
    (hdir : root.itemAt? found.location = some .dir) (asDir' : Bool) :
    ∃ found', Leads root true fuel links l ns asDir' found' ∧
      found'.location = found.location := by
  induction h generalizing asDir' with
  | here => exact ⟨_, .here, rfl⟩
  | up _ ih =>
    obtain ⟨found', h, heq⟩ := ih hdir asDir'
    exact ⟨found', .up h, heq⟩
  | last hsize hup _ =>
    refine ⟨_, .last hsize hup ?_, rfl⟩
    rw [hdir]
    trivial
  | enter hsize hup hrest hitem _ ih =>
    obtain ⟨found', h, heq⟩ := ih hdir asDir'
    exact ⟨found', .enter hsize hup hrest hitem h, heq⟩
  | link hsize hup hitem _ hlinks htarget _ ih =>
    obtain ⟨found', h, heq⟩ := ih hdir _
    refine ⟨found', .link hsize hup hitem ?_ hlinks htarget h, heq⟩
    simp

end Leads

namespace Files

variable {fs fs' : Files} {path path' : String}

theorem createDirsFrom_of_isDir (h : fs.isDir path = true) (fuel : Nat) :
    createDirsFrom (fuel + 1) path fs = (.ok (), fs) := by
  obtain ⟨found, hfound, hdir⟩ := isDir_iff.mp h
  obtain ⟨husable, hleads⟩ := find_eq_ok_iff.mp hfound
  have hnode : found.node ≠ none := by
    intro hnone
    rw [Node.itemAt?, ← node_of_find hfound, hnone] at hdir
    cases hdir
  obtain ⟨found', hleads', hnode'⟩ := hleads.exists_nofollow hnode
  have hcreate : fs.createDir path = .error (.system .alreadyExists) := by
    obtain ⟨n, hn⟩ := Option.ne_none_iff_exists'.mp hnode'
    simp [createDir, find_eq_ok_iff.mpr ⟨husable, hleads'⟩, hn, bind, Except.bind]
  have hother : (Failure.system .alreadyExists == Failure.system .notFound) = false := rfl
  rw [createDirsFrom, if_neg (by simpa using husable.ne_empty), hcreate]
  simp only [hother, Bool.false_eq_true, if_false, h, if_true]

theorem createDirs_of_isDir (h : fs.isDir path = true) : fs.createDirs path = (.ok (), fs) :=
  createDirsFrom_of_isDir h path.length

theorem isDir_of_components (h : fs.isDir path = true)
    (heq : Path.components path' = Path.components path) (husable : Usable path') :
    fs.isDir path' = true := by
  obtain ⟨found, hfound, hdir⟩ := isDir_iff.mp h
  obtain ⟨_, hleads⟩ := find_eq_ok_iff.mp hfound
  obtain ⟨found', hleads', hlocation⟩ := hleads.exists_of_dir hdir (names path').2
  have hstart : fs.start path' = fs.start path := by
    rw [start, start, Path.isAbsolute_eq, Path.isAbsolute_eq, heq]
  have hnames : (names path').1 = (names path).1 := by
    rw [Path.names_fst, Path.names_fst, heq]
  refine isDir_iff.mpr ⟨found', find_eq_ok_iff.mpr ⟨husable, ?_⟩, hlocation ▸ hdir⟩
  rwa [hstart, hnames]

theorem isDir_of_keeps (h : fs.isDir path = true) (hkeeps : fs.root.Keeps fs'.root)
    (hdir : fs'.workingDir = fs.workingDir) : fs'.isDir path = true := by
  obtain ⟨found, hfound, hitem⟩ := isDir_iff.mp h
  obtain ⟨b, hb, hsame⟩ := hkeeps _ _ hitem
  obtain rfl := hsame.eq_dir
  refine isDir_iff.mpr ⟨_, find_keeps hfound hkeeps hdir fun _ => ?_, hb⟩
  rw [hb]
  trivial

theorem isDir_of_createDir (h : fs.createDir path = .ok fs') : fs'.isDir path = true := by
  obtain ⟨found, hfound, hnone, hplaced⟩ := placed_of_createDir h
  obtain ⟨husable, hleads⟩ := find_eq_ok_iff.mp hfound
  have hfollow : fs.find true path = .ok found :=
    find_eq_ok_iff.mpr ⟨husable, hleads.follow_of_none hnone⟩
  refine isDir_iff.mpr ⟨_, hplaced.find hfollow fun _ _ => trivial, ?_⟩
  rw [hplaced.itemAt?, if_pos rfl]
  rfl

theorem isDir_of_createDirs (h : fs.createDirs path = (.ok (), fs')) :
    path = "" ∨ fs'.isDir path = true := by
  -- Where making the directory fails, success can only mean that it was there.
  have hcheck {a : Files} {e : Failure}
      (h : ((if a.isDir path then .ok () else .error e : Except Failure Unit), a) = (.ok (), fs')) :
      fs'.isDir path = true := by
    obtain ⟨hresult, rfl⟩ := Prod.mk.inj h
    by_contra hdir
    rw [if_neg hdir] at hresult
    cases hresult
  rw [createDirs, createDirsFrom] at h
  split at h
  · rename_i hempty
    exact Or.inl (String.isEmpty_iff.mp hempty)
  refine Or.inr ?_
  split at h
  · rename_i hmade
    cases h
    exact isDir_of_createDir hmade
  split at h
  · split at h
    · cases h
    split at h
    · cases h
    split at h
    · rename_i hmade
      cases h
      exact isDir_of_createDir hmade
    · exact hcheck h
  · exact hcheck h

/-- The directory above a name behind a directory that is there need not be made. -/
theorem createDirs_above {dir name above : String} (hdir : dir = "" ∨ fs.isDir dir = true)
    (hname : Path.IsName name) (husable : Usable (Path.join dir name))
    (habove : Path.parent? (Path.join dir name) = some above) :
    fs.createDirs above = (.ok (), fs) := by
  obtain ⟨above', hisAbove, hcomponents⟩ := Path.exists_parent_join dir hname
  obtain rfl := Option.some.inj (habove.symm.trans hisAbove.parent)
  obtain ⟨rest, hrest⟩ := hisAbove.text
  obtain rfl | hne := eq_or_ne above ""
  · rfl
  rcases hdir with rfl | hdir
  · exact absurd hcomponents (Path.components_ne_nil hne)
  · exact createDirs_of_isDir
      (isDir_of_components hdir hcomponents (Path.usable_of_append (hrest ▸ husable) hne))

/-! ## Copying -/

theorem exists_copy {source target : String} {contents old : ByteArray} {made : Files}
    (hsource : fs.read source = .ok contents) (htarget : fs.write target old = .ok made) :
    ∃ copied found, fs.copy source target = .ok copied ∧ copied.find true target = .ok found ∧
      found.node ≠ none := by
  obtain ⟨from_, x, hfrom, hnode⟩ := exists_find_of_read hsource
  obtain ⟨to_, _, hto, _, _⟩ := placed_of_write htarget
  obtain ⟨made', hmade'⟩ := exists_write_of_keeps htarget (.refl _) rfl (fun _ _ h => h)
    (if to_.location = from_.location then .empty else contents)
  obtain ⟨to', x', hto', hplaced, hfound⟩ := find_of_write hmade'
  obtain rfl : to_ = to' := Except.ok.inj (hto.symm.trans hto')
  obtain ⟨root, hput⟩ := Node.exists_put_of_keeps
    (.file (if to_.location = from_.location then .empty else contents) x) hplaced.put hplaced.keeps
  have hroot : made'.replaceRoot (some root) = .ok { made' with root := root } := rfl
  have hagain := placed_file (hput ▸ hroot) fun n hn => by
    have hitem := hplaced.itemAt? to_.location
    rw [if_pos rfl, Node.itemAt?, hn] at hitem
    exact ⟨_, _, Node.eq_file_of_item (Option.some.inj hitem)⟩
  refine ⟨_, _, ?_, hagain.find hfound fun hnone => absurd hnone (Option.some_ne_none _), ?_⟩
  · simp only [copy, hfrom, hnode, hto, bind, Except.bind, beq_iff_eq, hmade', hput, hroot]
  · intro hnone
    have hitem := hagain.itemAt? to_.location
    rw [Node.at?_eq_none_iff.mp hnone, if_pos rfl] at hitem
    cases hitem

end Files

end AppScaffold.Host

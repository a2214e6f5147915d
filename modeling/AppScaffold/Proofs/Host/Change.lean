import AppScaffold.Proofs.Host.Resolve

/-!
# Changes to files

What an operation that succeeds does to a tree: it puts one leaf where nothing or a leaf of its
kind is. So a tree only grows, and a path keeps its meaning; what is written is what is read.
-/

set_option autoImplicit false

namespace AppScaffold.Host

/-- One leaf was put into the tree, where nothing or a leaf of its kind was. -/
structure Placed (before after : Files) (new : Node) (l : Location) : Prop where
  put : Node.put new l before.root = some after.root
  workingDir : after.workingDir = before.workingDir
  leaf : new.IsLeaf
  tidy : new.Tidy
  fits : ∀ n, before.root.at? l = some n → n.IsLeaf ∧ n.item.SameKind new.item

namespace Placed

variable {before after : Files} {new : Node} {l : Location}

theorem itemAt? (h : Placed before after new l) (m : Location) :
    after.root.itemAt? m = if m = l then some new.item else before.root.itemAt? m :=
  Node.itemAt?_put h.put h.leaf (fun n hn => (h.fits n hn).1) m

theorem keeps (h : Placed before after new l) : before.root.Keeps after.root :=
  Node.keeps_put h.put h.leaf h.fits

/-- A path leads where it led before, unless there was nothing and now there is. -/
theorem find (h : Placed before after new l) {follow : Bool} {path : String} {found : Found}
    (hfound : before.find follow path = .ok found)
    (hend : found.node = none → found.location = l → Ends follow found.asDir (some new.item)) :
    after.find follow path =
      .ok ⟨found.location, after.root.at? found.location, found.asDir⟩ := by
  refine Files.find_keeps hfound h.keeps h.workingDir fun hnone => ?_
  rw [h.itemAt?]
  split
  · rename_i heq
    exact hend hnone heq
  · have hat := (Files.node_of_find hfound).symm.trans hnone
    rw [Node.at?_eq_none_iff.mp hat]
    trivial

theorem at?_of_apart (h : Placed before after new l) {d : Location} {n : Node}
    (hat : before.root.at? d = some n) (hapart : ¬ d <+: l) : after.root.at? d = some n := by
  rw [Node.at?_put_apart h.put hapart, hat]
  rintro ⟨m, rfl⟩
  cases m with
  | nil => exact hapart (by simp)
  | cons name rest =>
    have hbelow : before.root.at? (l ++ name :: rest) ≠ none := hat ▸ Option.some_ne_none n
    obtain ⟨children, hdir⟩ := Node.at?_dir_of_below (List.cons_ne_nil name rest) hbelow
    rw [Node.at?_append, hdir, Option.bind_some, (h.fits _ hdir).1] at hat
    cases hat

end Placed

namespace Files

variable {fs fs' : Files} {path : String} {contents : ByteArray}

theorem eq_of_replaceRoot {root : Option Node} (h : fs.replaceRoot root = .ok fs') :
    root = some fs'.root ∧ fs'.workingDir = fs.workingDir := by
  cases root with
  | none => cases h
  | some r =>
    cases h
    exact ⟨rfl, rfl⟩

theorem placed_file {l : Location} {executable : Bool}
    (hput : fs.replaceRoot (Node.put (.file contents executable) l fs.root) = .ok fs')
    (hold : ∀ n, fs.root.at? l = some n → ∃ c x, n = .file c x) :
    Placed fs fs' (.file contents executable) l where
  put := (eq_of_replaceRoot hput).1
  workingDir := (eq_of_replaceRoot hput).2
  leaf := Node.isLeaf_file contents executable
  tidy := Node.tidy_file contents executable
  fits n hn := by
    obtain ⟨c, x, rfl⟩ := hold n hn
    exact ⟨Node.isLeaf_file c x, trivial⟩

theorem write_eq {found : Found} (h : fs.find true path = .ok found) (contents : ByteArray) :
    fs.write path contents = match found.node with
      | some (.file _ executable) =>
        fs.replaceRoot (Node.put (.file contents executable) found.location fs.root)
      | some _ => .error (.system .isDirectory)
      | none =>
        if found.asDir then .error (.system .isDirectory)
        else fs.replaceRoot (Node.put (.file contents false) found.location fs.root) := by
  rw [write, h]
  rfl

theorem placed_of_write (h : fs.write path contents = .ok fs') :
    ∃ found executable, fs.find true path = .ok found ∧
      (found.node = none → found.asDir = false) ∧
      Placed fs fs' (.file contents executable) found.location := by
  obtain ⟨found, hfound, h⟩ := bind_eq_ok_iff.mp h
  have hnode := node_of_find hfound
  cases hat : found.node with
  | none =>
    rw [hat] at h hnode
    dsimp only at h
    split at h
    · cases h
    · rename_i hasDir
      refine ⟨found, false, hfound, fun _ => Bool.eq_false_iff.mpr hasDir, placed_file h ?_⟩
      intro n hn
      rw [← hnode] at hn
      cases hn
  | some n =>
    rw [hat] at h hnode
    cases n with
    | dir children => cases h
    | link target => cases h
    | file old executable =>
      refine ⟨found, executable, hfound, fun h => ?_, placed_file h ?_⟩
      · rw [hat] at h
        cases h
      · intro n hn
        rw [← hnode] at hn
        exact ⟨old, executable, (Option.some.inj hn).symm⟩

theorem find_of_write (h : fs.write path contents = .ok fs') :
    ∃ found executable, fs.find true path = .ok found ∧
      Placed fs fs' (.file contents executable) found.location ∧
      fs'.find true path =
        .ok ⟨found.location, some (.file contents executable), found.asDir⟩ := by
  obtain ⟨found, executable, hfound, hasDir, hplaced⟩ := placed_of_write h
  refine ⟨found, executable, hfound, hplaced, ?_⟩
  have hitem := hplaced.itemAt? found.location
  rw [if_pos rfl] at hitem
  obtain ⟨n, hn, hitem⟩ := Option.map_eq_some_iff.mp hitem
  rw [hplaced.find hfound fun hnone _ => hasDir hnone, hn, Node.eq_file_of_item hitem]

theorem read_eq_ok_iff {found : Found} (h : fs.find true path = .ok found) :
    fs.read path = .ok contents ↔
      (fs.root.itemAt? found.location).bind Item.contents? = some contents := by
  rw [Node.itemAt?, ← node_of_find h, read, h]
  simp only [bind, Except.bind]
  cases hat : found.node with
  | none => simp
  | some n =>
    cases n with
    | dir children => simp [Node.item, Item.contents?]
    | link target => simp [Node.item, Item.contents?]
    | file old executable => simp [Node.item, Item.contents?]

theorem exists_find_of_read {contents : ByteArray} (h : fs.read path = .ok contents) :
    ∃ found executable, fs.find true path = .ok found ∧
      found.node = some (.file contents executable) := by
  cases hfound : fs.find true path with
  | error e =>
    rw [read, hfound] at h
    cases h
  | ok found =>
    rw [read_eq_ok_iff hfound, Node.itemAt?, ← node_of_find hfound] at h
    obtain ⟨x, hx, hcontents⟩ := Option.bind_eq_some_iff.mp h
    obtain ⟨n, hn, rfl⟩ := Option.map_eq_some_iff.mp hx
    cases n with
    | dir children => cases hcontents
    | link target => cases hcontents
    | file c executable =>
      cases hcontents
      exact ⟨found, executable, rfl, hn⟩

theorem isFile_of_read (h : fs.read path = .ok contents) : fs.isFile path = true := by
  obtain ⟨found, x, hfound, hnode⟩ := exists_find_of_read h
  rw [isFile, node?, hfound]
  dsimp only
  rw [hnode]
  rfl

theorem read_of_write (h : fs.write path contents = .ok fs') : fs'.read path = .ok contents := by
  obtain ⟨found, executable, _, hplaced, hfound⟩ := find_of_write h
  rw [read_eq_ok_iff hfound, hplaced.itemAt?, if_pos rfl]
  rfl

theorem placed_of_createDir (h : fs.createDir path = .ok fs') :
    ∃ found, fs.find false path = .ok found ∧ found.node = none ∧
      Placed fs fs' .emptyDir found.location := by
  obtain ⟨found, hfound, h⟩ := bind_eq_ok_iff.mp h
  have hnode := node_of_find hfound
  cases hat : found.node with
  | some n =>
    rw [hat] at h
    cases h
  | none =>
    rw [hat] at h hnode
    refine ⟨found, hfound, hat, (eq_of_replaceRoot h).1, (eq_of_replaceRoot h).2,
      Node.isLeaf_emptyDir, Node.tidy_emptyDir, fun n hn => ?_⟩
    rw [← hnode] at hn
    cases hn

/-- Directories were made, where nothing was. -/
inductive DirsMade : Files → Files → Prop where
  | refl (fs : Files) : DirsMade fs fs
  | step {a b c : Files} {l : Location} :
      DirsMade a b → Placed b c .emptyDir l → b.root.itemAt? l = none → DirsMade a c

theorem DirsMade.trans {a b c : Files} (hab : DirsMade a b) (hbc : DirsMade b c) :
    DirsMade a c := by
  induction hbc with
  | refl => exact hab
  | step _ hplaced hnone ih => exact .step ih hplaced hnone

theorem DirsMade.keeps {a b : Files} (h : DirsMade a b) : a.root.Keeps b.root := by
  induction h with
  | refl => exact .refl _
  | step _ hplaced _ ih => exact ih.trans hplaced.keeps

theorem DirsMade.workingDir {a b : Files} (h : DirsMade a b) : b.workingDir = a.workingDir := by
  induction h with
  | refl => rfl
  | step _ hplaced _ ih => exact hplaced.workingDir.trans ih

theorem DirsMade.itemAt? {a b : Files} (h : DirsMade a b) {l : Location} {x : Item}
    (hx : a.root.itemAt? l = some x) : b.root.itemAt? l = some x := by
  induction h with
  | refl => exact hx
  | step _ hplaced hnone ih =>
    rw [hplaced.itemAt?]
    split
    · rename_i heq
      rw [← heq, ih] at hnone
      cases hnone
    · exact ih

theorem dirsMade_createDir (h : fs.createDir path = .ok fs') : DirsMade fs fs' := by
  obtain ⟨found, hfound, hnone, hplaced⟩ := placed_of_createDir h
  refine .step (.refl fs) hplaced (Node.at?_eq_none_iff.mp ?_)
  rw [← node_of_find hfound, hnone]

theorem dirsMade_createDirsFrom (fuel : Nat) (path : String) (fs : Files) :
    DirsMade fs (createDirsFrom fuel path fs).2 := by
  induction fuel generalizing path fs with
  | zero => exact .refl fs
  | succ fuel ih =>
    rw [createDirsFrom]
    split
    · exact .refl fs
    · split
      · rename_i made hmade
        exact dirsMade_createDir hmade
      · split
        · split
          · exact .refl fs
          -- The directories above are made first, and stay when the directory itself cannot be
          -- made.
          · rename_i above _
            have habove := ih above fs
            split
            · rename_i heq
              rwa [heq] at habove
            · rename_i heq
              rw [heq] at habove
              split
              · rename_i made hmade
                exact habove.trans (dirsMade_createDir hmade)
              · exact habove
        · exact .refl fs

/-- Making directories only makes directories, whether it succeeds or not. -/
theorem dirsMade_createDirs (fs : Files) (path : String) : DirsMade fs (fs.createDirs path).2 :=
  dirsMade_createDirsFrom (path.length + 1) path fs

/-- A copy is placed twice where its target leads: first as new, then with the mode of its
source. -/
theorem placed_of_copy {source target : String} (h : fs.copy source target = .ok fs') :
    ∃ from_ to_ contents executable executable' between,
      fs.find true source = .ok from_ ∧ from_.node = some (.file contents executable') ∧
      fs.find true target = .ok to_ ∧
      let copied := if to_.location = from_.location then .empty else contents
      Placed fs between (.file copied executable) to_.location ∧
        Placed between fs' (.file copied executable') to_.location := by
  obtain ⟨from_, hfrom, h⟩ := bind_eq_ok_iff.mp h
  cases hat : from_.node with
  | none =>
    rw [hat] at h
    cases h
  | some n =>
    rw [hat] at h
    cases n with
    | dir children => cases h
    | link target => cases h
    | file contents executable' =>
      obtain ⟨to_, hto, h⟩ := bind_eq_ok_iff.mp h
      obtain ⟨between, hwrite, h⟩ := bind_eq_ok_iff.mp h
      obtain ⟨to', executable, hto', _, hplaced⟩ := placed_of_write hwrite
      obtain rfl : to_ = to' := Except.ok.inj (hto.symm.trans hto')
      -- A file that is copied onto itself is emptied before it is read.
      have hcopied : (if (to_.location == from_.location) = true then ByteArray.empty
          else contents) = if to_.location = from_.location then .empty else contents := by
        simp only [beq_iff_eq]
      rw [hcopied] at hplaced h
      refine ⟨from_, to_, contents, executable, executable', between, hfrom, hat, hto, hplaced,
        placed_file h fun n hn => ?_⟩
      have hitem := hplaced.itemAt? to_.location
      rw [if_pos rfl, Node.itemAt?, hn] at hitem
      cases n with
      | file c x => exact ⟨c, x, rfl⟩
      | link t => cases hitem
      | dir children => cases hitem

end Files

end AppScaffold.Host

import Mathlib.Logic.Function.Basic
import AppScaffold.Proofs.Host.Change

/-!
# Directories and their files

A directory without links, told by the files below it. Writing at a plain path behind the directory
sets the file of this path; making directories and writing elsewhere change none.
-/

set_option autoImplicit false

namespace AppScaffold.Host

open Path (IsName Plain pieces)

/-- A directory with files and directories alone below it, listed by name. -/
structure Node.IsFolder (n : Node) : Prop where
  item : n.item = .dir
  noLinks : ∀ l target, n.itemAt? l ≠ some (.link target)
  tidy : n.Tidy

/-- What a directory holds: its files by their locations below it. -/
abbrev Contents := Location → Option ByteArray

/-- A path leads to a directory without links that is at this location and has these files. -/
structure Holds (fs : Files) (dir : String) (d : Location) (docs : Contents) : Prop where
  exists_node : ∃ n asDir, fs.find true dir = .ok ⟨d, some n, asDir⟩ ∧ n.IsFolder ∧
    ∀ l, n.fileAt? l = docs l

/-- A path leads to the place of a directory or below it. -/
def Files.Within (fs : Files) (dir path : String) : Prop :=
  ∃ d found, fs.find true dir = .ok d ∧ fs.find true path = .ok found ∧
    d.location <+: found.location

theorem Node.isFolder_emptyDir : emptyDir.IsFolder where
  item := rfl
  noLinks l target h := by
    rw [isLeaf_emptyDir.itemAt?_eq] at h
    split at h <;> cases h
  tidy := tidy_emptyDir

theorem Node.IsFolder.put {n n' new : Node} {m : Location} (h : n.IsFolder)
    (hput : Node.put new m n = some n') (hleaf : new.IsLeaf) (htidy : new.Tidy)
    (hlink : ∀ target, new.item ≠ .link target)
    (hfits : ∀ old, n.at? m = some old → old.IsLeaf ∧ old.item.SameKind new.item) :
    n'.IsFolder ∧ ∀ l, n'.fileAt? l = Function.update n.fileAt? m new.item.contents? l := by
  have hitem := Node.itemAt?_put hput hleaf fun old hold => (hfits old hold).1
  refine ⟨⟨?_, fun l target hl => ?_, Node.Tidy.put hput h.tidy htidy⟩, fun l => ?_⟩
  · have hroot : n.itemAt? [] = some .dir := by rw [n.itemAt?_nil, h.item]
    obtain ⟨b, hb, hdir⟩ := Node.keeps_put hput hleaf hfits [] .dir hroot
    rw [n'.itemAt?_nil, hdir.eq_dir] at hb
    exact Option.some.inj hb
  · rw [hitem] at hl
    split at hl
    · exact hlink target (Option.some.inj hl)
    · exact h.noLinks l target hl
  · rw [fileAt?, hitem, Function.update_apply]
    split <;> rfl

namespace Holds

variable {fs fs' : Files} {dir path : String} {d l m : Location} {docs : Contents} {new : Node}
  {contents : ByteArray}

theorem of_emptyDir (h : fs.node? dir = some .emptyDir) : ∃ d, Holds fs dir d fun _ => none := by
  rw [Files.node?] at h
  split at h
  · rename_i found hfound
    obtain ⟨d, node, asDir⟩ := found
    obtain rfl : node = some .emptyDir := h
    refine ⟨d, .emptyDir, asDir, hfound, Node.isFolder_emptyDir, fun l => ?_⟩
    rw [Node.fileAt?, Node.isLeaf_emptyDir.itemAt?_eq]
    split <;> rfl
  · cases h

theorem item (h : Holds fs dir d docs) : fs.root.itemAt? d = some .dir := by
  obtain ⟨n, asDir, hfind, hn, _⟩ := h.exists_node
  have hnode : some n = fs.root.at? d := Files.node_of_find hfind
  rw [Node.itemAt?, ← hnode, Option.map_some, hn.item]

theorem isDir (h : Holds fs dir d docs) : fs.isDir dir = true := by
  obtain ⟨n, asDir, hfind, hn, _⟩ := h.exists_node
  rw [Files.isDir, Files.node?, hfind]
  cases n with
  | dir children => rfl
  | file contents executable => cases hn.item
  | link target => cases hn.item

theorem within_iff (h : Holds fs dir d docs) {found : Found}
    (hfound : fs.find true path = .ok found) : fs.Within dir path ↔ d <+: found.location := by
  obtain ⟨n, asDir, hdir, _⟩ := h.exists_node
  constructor
  · rintro ⟨_, _, hdir', hfound', hbelow⟩
    cases hdir.symm.trans hdir'
    cases hfound.symm.trans hfound'
    exact hbelow
  · intro hbelow
    exact ⟨_, found, hdir, hfound, hbelow⟩

theorem file (h : Holds fs dir d docs) (m : Location) :
    (fs.root.itemAt? (d ++ m)).bind Item.contents? = docs m := by
  obtain ⟨n, asDir, hfind, _, hdocs⟩ := h.exists_node
  rw [Node.itemAt?_append (Files.node_of_find hfind).symm, ← hdocs]
  rfl

theorem noLinks (h : Holds fs dir d docs) (m : Location) (target : String) :
    fs.root.itemAt? (d ++ m) ≠ some (.link target) := by
  obtain ⟨n, asDir, hfind, hn, _⟩ := h.exists_node
  rw [Node.itemAt?_append (Files.node_of_find hfind).symm]
  exact hn.noLinks m target

/-- A path with names behind those of the directory leads to the location below it that they
name. -/
theorem location_of_components (h : Holds fs dir d docs) {follow : Bool} {found : Found}
    (hl : l ≠ []) (hnames : ∀ name ∈ l, IsName name)
    (hpath : Path.components path = Path.components dir ++ l.map .normal)
    (hfound : fs.find follow path = .ok found) : found.location = d ++ l := by
  obtain ⟨n, asDir, hfind, _⟩ := h.exists_node
  exact Files.location_of_find hfind h.item (fun m target _ => h.noLinks m target) hl hnames hpath
    hfound

theorem location (h : Holds fs dir d docs) {follow : Bool} {found : Found} (hpath : Plain path)
    (hfound : fs.find follow (Path.join dir path) = .ok found) :
    found.location = d ++ pieces path :=
  h.location_of_components (Path.pieces_ne_nil path) hpath (Path.components_join dir hpath) hfound

/-! ## Changes -/

theorem placed_below (h : Holds fs dir d docs) (hplaced : Placed fs fs' new (d ++ m))
    (hlink : ∀ target, new.item ≠ .link target) :
    Holds fs' dir d (Function.update docs m new.item.contents?) := by
  obtain ⟨n, asDir, hfind, hn, hdocs⟩ := h.exists_node
  have hat : some n = fs.root.at? d := Files.node_of_find hfind
  obtain ⟨n', hput, hn'⟩ := Node.at?_put_below hplaced.put hat.symm
  have hfits : ∀ old, n.at? m = some old → old.IsLeaf ∧ old.item.SameKind new.item := by
    intro old hold
    refine hplaced.fits old ?_
    rw [Node.at?_append, ← hat, Option.bind_some, hold]
  obtain ⟨hfolder, hfiles⟩ := hn.put hput hplaced.leaf hplaced.tidy hlink hfits
  refine ⟨n', asDir, ?_, hfolder, fun l => ?_⟩
  · rw [hplaced.find hfind fun hnone => absurd hnone (Option.some_ne_none n), hn']
  · rw [hfiles, funext hdocs]

theorem placed_apart (h : Holds fs dir d docs) (hplaced : Placed fs fs' new l)
    (hapart : ¬ d <+: l) : Holds fs' dir d docs := by
  obtain ⟨n, asDir, hfind, hn, hdocs⟩ := h.exists_node
  refine ⟨n, asDir, ?_, hn, hdocs⟩
  rw [hplaced.find hfind fun hnone => absurd hnone (Option.some_ne_none n),
    hplaced.at?_of_apart (Files.node_of_find hfind).symm hapart]

theorem placed_emptyDir (h : Holds fs dir d docs) (hplaced : Placed fs fs' .emptyDir l)
    (hnone : fs.root.itemAt? l = none) : Holds fs' dir d docs := by
  by_cases hbelow : d <+: l
  · obtain ⟨m, rfl⟩ := hbelow
    have hm : docs m = none := by rw [← h.file m, hnone, Option.bind_none]
    have hupdate : Function.update docs m Node.emptyDir.item.contents? = docs := by
      conv_rhs => rw [← Function.update_eq_self m docs, hm]
      rfl
    rw [← hupdate]
    exact h.placed_below hplaced fun target heq => by cases heq
  · exact h.placed_apart hplaced hbelow

theorem dirsMade (h : Holds fs dir d docs) (hmade : Files.DirsMade fs fs') :
    Holds fs' dir d docs := by
  induction hmade with
  | refl => exact h
  | step _ hplaced hnone ih => exact ih.placed_emptyDir hplaced hnone

theorem createDirs (h : Holds fs dir d docs) (path : String) :
    Holds (fs.createDirs path).2 dir d docs :=
  h.dirsMade (Files.dirsMade_createDirs fs path)

theorem exists_placed_of_write (h : Holds fs dir d docs) (hpath : Plain path)
    (hwrite : fs.write (Path.join dir path) contents = .ok fs') :
    ∃ executable, Placed fs fs' (.file contents executable) (d ++ pieces path) := by
  obtain ⟨found, executable, hfound, _, hplaced⟩ := Files.placed_of_write hwrite
  exact ⟨executable, h.location hpath hfound ▸ hplaced⟩

theorem write (h : Holds fs dir d docs) (hpath : Plain path)
    (hwrite : fs.write (Path.join dir path) contents = .ok fs') :
    Holds fs' dir d (Function.update docs (pieces path) (some contents)) := by
  obtain ⟨executable, hplaced⟩ := h.exists_placed_of_write hpath hwrite
  exact h.placed_below hplaced fun target heq => by cases heq

theorem write_apart (h : Holds fs dir d docs) (hwrite : fs.write path contents = .ok fs')
    (hapart : ∀ found, fs.find true path = .ok found → ¬ d <+: found.location) :
    Holds fs' dir d docs := by
  obtain ⟨found, executable, hfound, _, hplaced⟩ := Files.placed_of_write hwrite
  exact h.placed_apart hplaced (hapart found hfound)

/-- A file that is copied to a plain path behind the directory is there, and nothing else
changes. -/
theorem copy (h : Holds fs dir d docs) {source : String} (hpath : Plain path)
    (hcopy : fs.copy source (Path.join dir path) = .ok fs') :
    fs.root.Keeps fs'.root ∧ fs'.workingDir = fs.workingDir ∧
      (∀ l, l ≠ d ++ pieces path → fs'.root.itemAt? l = fs.root.itemAt? l) ∧
      ∃ copied, Holds fs' dir d (Function.update docs (pieces path) (some copied)) ∧
        ∀ from_, fs.find true source = .ok from_ → from_.location ≠ d ++ pieces path →
          fs.read source = .ok copied := by
  obtain ⟨from_, to_, contents, x, x', between, hfrom, hnode, hto, hfirst, hsecond⟩ :=
    Files.placed_of_copy hcopy
  have hlocation := h.location hpath hto
  rw [hlocation] at hfirst hsecond
  have hheld := (h.placed_below hfirst fun target heq => by cases heq).placed_below hsecond
    fun target heq => by cases heq
  rw [Function.update_idem] at hheld
  refine ⟨hfirst.keeps.trans hsecond.keeps, hsecond.workingDir.trans hfirst.workingDir,
    fun l hl => by rw [hsecond.itemAt?, if_neg hl, hfirst.itemAt?, if_neg hl], _, hheld,
    fun from_' hfrom' hne => ?_⟩
  obtain rfl : from_ = from_' := Except.ok.inj (hfrom.symm.trans hfrom')
  rw [if_neg (Ne.symm hne), Files.read_eq_ok_iff hfrom, Node.itemAt?, ← Files.node_of_find hfrom,
    hnode]
  rfl

/-! ## Reading -/

theorem read_eq_ok_iff (h : Holds fs dir d docs) {found : Found} (hpath : Plain path)
    (hfound : fs.find true (Path.join dir path) = .ok found) :
    fs.read (Path.join dir path) = .ok contents ↔ docs (pieces path) = some contents := by
  rw [Files.read_eq_ok_iff hfound, h.location hpath hfound, h.file]

theorem exists_of_read (h : Holds fs dir d docs) {found : Found}
    (hfound : fs.find true path = .ok found) (hread : fs.read path = .ok contents)
    (hbelow : d <+: found.location) : ∃ m, docs m = some contents := by
  obtain ⟨m, hm⟩ := hbelow
  rw [Files.read_eq_ok_iff hfound, ← hm, h.file] at hread
  exact ⟨m, hread⟩

end Holds

/-! ## What is elsewhere -/

theorem Files.read_of_keeps {a b : Files} {path : String} {found : Found} {contents : ByteArray}
    (hfound : a.find true path = .ok found) (hkeeps : a.root.Keeps b.root)
    (hdir : b.workingDir = a.workingDir)
    (hitem : ∀ x, a.root.itemAt? found.location = some x →
      b.root.itemAt? found.location = some x)
    (hread : a.read path = .ok contents) : b.read path = .ok contents := by
  rw [read_eq_ok_iff hfound] at hread
  obtain ⟨x, hx, hcontents⟩ := Option.bind_eq_some_iff.mp hread
  have hb := find_keeps hfound hkeeps hdir fun hnone => by
    rw [Node.itemAt?, ← node_of_find hfound, hnone] at hx
    cases hx
  rw [read_eq_ok_iff hb, hitem x hx]
  exact hcontents

theorem Files.DirsMade.read {a b : Files} {path : String} {contents : ByteArray}
    (h : DirsMade a b) (hread : a.read path = .ok contents) : b.read path = .ok contents := by
  obtain ⟨found, _, hfound, _⟩ := exists_find_of_read hread
  exact read_of_keeps hfound h.keeps h.workingDir (fun x hx => h.itemAt? hx) hread

/-- The tree has grown, and outside of a location nothing that was there has changed. -/
structure Grown (d : Location) (before after : Files) : Prop where
  keeps : before.root.Keeps after.root
  workingDir : after.workingDir = before.workingDir
  outside : ∀ l x, ¬ d <+: l → before.root.itemAt? l = some x → after.root.itemAt? l = some x

namespace Grown

variable {d : Location} {a b c : Files} {path : String} {found : Found}

theorem refl (d : Location) (fs : Files) : Grown d fs fs := ⟨.refl _, rfl, fun _ _ _ h => h⟩

theorem trans (hab : Grown d a b) (hbc : Grown d b c) : Grown d a c :=
  ⟨hab.keeps.trans hbc.keeps, hbc.workingDir.trans hab.workingDir,
    fun l x hl h => hbc.outside l x hl (hab.outside l x hl h)⟩

theorem of_dirsMade (h : Files.DirsMade a b) : Grown d a b :=
  ⟨h.keeps, h.workingDir, fun _ _ _ hx => h.itemAt? hx⟩

theorem of_placed {new : Node} {l : Location} (h : Placed a b new l) (hl : d <+: l) :
    Grown d a b := by
  refine ⟨h.keeps, h.workingDir, fun m x hm hx => ?_⟩
  rw [h.itemAt?, if_neg (by rintro rfl; exact hm hl)]
  exact hx

theorem find (h : Grown d a b) (hfound : a.find true path = .ok found) (hnode : found.node ≠ none) :
    b.find true path = .ok ⟨found.location, b.root.at? found.location, found.asDir⟩ :=
  Files.find_keeps hfound h.keeps h.workingDir fun hnone => absurd hnone hnode

theorem read {contents : ByteArray} (h : Grown d a b) (hfound : a.find true path = .ok found)
    (hapart : ¬ d <+: found.location) (hread : a.read path = .ok contents) :
    b.read path = .ok contents :=
  Files.read_of_keeps hfound h.keeps h.workingDir (fun x => h.outside _ x hapart) hread

end Grown

end AppScaffold.Host

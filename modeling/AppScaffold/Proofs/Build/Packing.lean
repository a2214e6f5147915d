import Mathlib.Data.List.Nodup
import AppScaffold.Proofs.Build.Failures
import AppScaffold.Proofs.Host.Listing
import AppScaffold.Proofs.Host.Success
import AppScaffold.Proofs.Host.Walk

/-!
# Packages

What a package holds: the files of the directory that pass, in the order of their locations, and
the entries that are given, each name once.
-/

set_option autoImplicit false

namespace AppScaffold.Archive

/-! ## Names in archives -/

theorem names_append (a b : Archive) : names (a ++ b) = names a ++ names b := List.map_append

theorem addAll_eq_none_iff {a b : Archive} {entries : List Entry} (h : (names a).Nodup) :
    addAll a entries = (b, none) ↔ (names (a ++ entries)).Nodup ∧ b = a ++ entries := by
  induction entries generalizing a with
  | nil => simp [addAll, h, eq_comm]
  | cons e rest ih =>
    have hassoc : a ++ e :: rest = (a ++ [e]) ++ rest := List.append_cons a e rest
    rw [addAll, add?]
    cases hname : (names a).contains e.name with
    | true =>
      have htaken : ¬ (names (a ++ e :: rest)).Nodup := by
        intro hnodup
        rw [names_append] at hnodup
        exact (List.nodup_append.mp hnodup).2.2 _ (List.contains_iff_mem.mp hname) _
          List.mem_cons_self rfl
      simp [htaken]
    | false =>
      have hnew : e.name ∉ names a := fun hmem =>
        Bool.false_ne_true (hname.symm.trans (List.contains_iff_mem.mpr hmem))
      have hadded : (names (a ++ [e])).Nodup := by
        rw [names_append, List.nodup_append]
        refine ⟨h, List.nodup_singleton _, fun x hx y hy heq => hnew ?_⟩
        have hy : y = e.name := List.mem_singleton.mp hy
        rwa [← hy, ← heq]
      rw [hassoc, ← ih hadded]
      rfl

theorem addAll_append {a : Archive} {entries : List Entry} (more : List Entry)
    (h : (names (a ++ entries)).Nodup) :
    addAll a (entries ++ more) = addAll (a ++ entries) more := by
  induction entries generalizing a with
  | nil => rw [List.nil_append, List.append_nil]
  | cons e rest ih =>
    have hassoc : a ++ e :: rest = (a ++ [e]) ++ rest := List.append_cons a e rest
    have hnew : (names a).contains e.name = false := by
      rw [names_append, List.nodup_append] at h
      refine Bool.eq_false_iff.mpr fun hmem => ?_
      exact h.2.2 _ (List.contains_iff_mem.mp hmem) _ List.mem_cons_self rfl
    rw [hassoc] at h
    rw [hassoc, ← ih h, List.cons_append, addAll, add?, hnew]
    rfl

/-- An entry of a name that is taken is refused, behind all that were added before it. -/
theorem addAll_of_taken {entries : List Entry} {e : Entry} (h : (names entries).Nodup)
    (htaken : e.name ∈ names entries) : addAll [] (entries ++ [e]) = (entries, some e.name) := by
  have hadd : addAll [] (entries ++ [e]) = addAll entries [e] := addAll_append [e] h
  rw [hadd, addAll, add?, if_pos (List.contains_iff_mem.mpr htaken)]

end AppScaffold.Archive

namespace AppScaffold.Build

open Host (Contents Failure FileTask Files HasDir Holds Item Location Node Path.components
  Path.join Path.parent? outcome outcome_bind outcome_bind_of_ok outcome_bind_eq_ok_iff)
open Host.FileTask (outcome_look outcome_write_eq_ok_iff outcome_createDirs_eq_ok_iff)
open Host.Node (Reaches)
open Host.Path (IsName pieces)

variable {keep : Location → Item → Bool} {extra : List (String × String)} {dir target : String}
  {d : Location} {docs : Contents} {before after : Files} {summary : Summary} {n : Node}
  {files : List (Location × ByteArray)} {entries : List Archive.Entry}

def fileEntry (f : Location × ByteArray) : Archive.Entry := ⟨entryName f.1, f.2, 0o644⟩

def textEntry (e : String × String) : Archive.Entry := ⟨e.1, e.2.toUTF8, 0o644⟩

theorem pieces_entryName {l : Location} (hl : l ≠ []) (h : ∀ name ∈ l, IsName name) :
    pieces (entryName l) = l :=
  Host.Path.pieces_joinSlash hl fun name hname => (h name hname).no_slash

/-! ## What is packed of a directory -/

theorem components_foldl_join (dir : String) {l : Location} (h : ∀ name ∈ l, IsName name) :
    Path.components (l.foldl Path.join dir) = Path.components dir ++ l.map .normal := by
  induction l generalizing dir with
  | nil => exact (List.append_nil _).symm
  | cons name rest ih =>
    obtain ⟨hname, hrest⟩ := List.forall_mem_cons.mp h
    rw [List.foldl_cons, ih _ hrest,
      Host.Path.components_join dir (Host.Path.plain_of_isName hname),
      Host.Path.pieces_of_no_slash hname.no_slash, List.append_assoc]
    rfl

/-- The path of the archive is that of the directory with this location behind it. -/
def IsOwn (dir target : String) (l : Location) : Prop :=
  Path.components (l.foldl Path.join dir) = Path.components target

instance (dir target : String) (l : Location) : Decidable (IsOwn dir target l) :=
  inferInstanceAs (Decidable (_ = _))

theorem isOwn_iff {l : Location} (h : ∀ name ∈ l, IsName name) :
    IsOwn dir target l ↔ Path.components target = Path.components dir ++ l.map .normal := by
  rw [IsOwn, components_foldl_join dir h, eq_comm]

/-- The files of a directory that go into an archive, in the order of their locations. The archive
does not hold itself. -/
structure Selects (keep : Location → Item → Bool) (dir target : String) (n : Node)
    (files : List (Location × ByteArray)) : Prop where
  sorted : files.Pairwise fun a b => a.1 < b.1
  mem_iff : ∀ l contents, (l, contents) ∈ files ↔ n.Yields keep l contents ∧ ¬ IsOwn dir target l

theorem selects_filter (hn : n.Distinct) : Selects keep dir target n
    ((n.walk keep).filter fun f => !decide (IsOwn dir target f.1)) where
  sorted := (Node.pairwise_walk hn).filter _
  mem_iff l contents := by simp [Node.mem_walk_iff hn]

namespace Selects

theorem packagedFiles_eq (h : Selects keep dir target n files) (hn : n.Distinct) :
    packagedFiles keep dir target n = files.map fileEntry := by
  rw [packagedFiles]
  refine congrArg (List.map fileEntry) (Node.eq_of_mem_iff ?_ h.sorted fun f => ?_)
  · exact (Node.pairwise_walk hn).filter _
  · simp [h.mem_iff f.1 f.2, Node.mem_walk_iff hn, IsOwn]

theorem congr {n' : Node} (h : Selects keep dir target n files)
    (hsame : ∀ l, n'.itemAt? l = n.itemAt? l) : Selects keep dir target n' files where
  sorted := h.sorted
  mem_iff l contents := by rw [h.mem_iff, Node.Yields, Node.Yields, hsame]

theorem exists_item (h : Selects keep dir target n files) {f : Location × ByteArray}
    (hf : f ∈ files) : ∃ executable, n.itemAt? f.1 = some (.file f.2 executable) := by
  obtain ⟨⟨executable, hfile, _⟩, _⟩ := (h.mem_iff f.1 f.2).mp hf
  exact ⟨executable, hfile⟩

theorem ne_nil (h : Selects keep dir target n files) (hitem : n.item = .dir)
    {f : Location × ByteArray} (hf : f ∈ files) : f.1 ≠ [] := by
  intro hnil
  obtain ⟨executable, hfile⟩ := h.exists_item hf
  rw [hnil, Node.itemAt?_nil, hitem] at hfile
  cases hfile

theorem nodup_names (h : Selects keep dir target n files) (hitem : n.item = .dir)
    (hnames : ∀ f ∈ files, ∀ name ∈ f.1, IsName name) (hextra : (extra.map (·.1)).Nodup)
    (hother : ∀ e ∈ extra, ∀ f ∈ files, entryName f.1 ≠ e.1) :
    (Archive.names (files.map fileEntry ++ extra.map textEntry)).Nodup := by
  have hnodup : (files.map (·.1)).Nodup := Node.nodup_of_pairwise h.sorted
  rw [Archive.names_append, List.nodup_append']
  refine ⟨?_, ?_, ?_⟩
  · change ((files.map fileEntry).map Archive.Entry.name).Nodup
    rw [List.map_map]
    refine List.Nodup.map_on (fun f hf g hg heq => ?_) hnodup.of_map
    refine List.inj_on_of_nodup_map hnodup hf hg ?_
    rw [← pieces_entryName (h.ne_nil hitem hf) (hnames f hf),
      ← pieces_entryName (h.ne_nil hitem hg) (hnames g hg)]
    exact congrArg pieces heq
  · change ((extra.map textEntry).map Archive.Entry.name).Nodup
    rw [List.map_map]
    exact hextra
  · intro name hfile htext
    obtain ⟨_, hfile, heq⟩ := List.mem_map.mp hfile
    obtain ⟨f, hf, rfl⟩ := List.mem_map.mp hfile
    obtain ⟨_, htext, heq'⟩ := List.mem_map.mp htext
    obtain ⟨e, he, rfl⟩ := List.mem_map.mp htext
    exact hother e he f hf (heq.trans heq'.symm)

end Selects

/-! ## Opening the archive -/

/-- An archive is opened by making directories and writing nothing. -/
theorem exists_of_openTarget (h : outcome (openTarget target) before = (.ok (), after)) :
    ∃ made, Files.DirsMade before made ∧ made.write target .empty = .ok after := by
  unfold openTarget at h
  split at h
  · rename_i above _
    obtain ⟨_, made, hdirs, hwrite⟩ := outcome_bind_eq_ok_iff.mp h
    have hmade := Files.dirsMade_createDirs before above
    rw [outcome_createDirs_eq_ok_iff.mp hdirs] at hmade
    exact ⟨made, hmade, outcome_write_eq_ok_iff.mp hwrite⟩
  · exact ⟨before, .refl before, outcome_write_eq_ok_iff.mp h⟩

theorem outcome_openTarget (habove : ∀ above, Path.parent? target = some above →
      before.createDirs above = (.ok (), before))
    (hwrite : before.write target .empty = .ok after) :
    outcome (openTarget target) before = (.ok (), after) := by
  unfold openTarget
  split
  · rename_i above hparent
    rw [outcome_bind_of_ok (outcome_createDirs_eq_ok_iff.mpr (habove above hparent))]
    exact outcome_write_eq_ok_iff.mpr hwrite
  · exact outcome_write_eq_ok_iff.mpr hwrite

/-- Where an archive that has been opened would be packed into itself, its path is the one by which
the directory leads there. -/
def SeesItself (opened : Files) (keep : Location → Item → Bool) (dir target : String) : Prop :=
  ∀ root archive l, opened.find true dir = .ok root → opened.find true target = .ok archive →
    root.location ++ l = archive.location →
      (∃ contents executable, Reaches keep l (.file contents executable)) → IsOwn dir target l

theorem seesItself_of_not_within (h : ¬ after.Within dir target) :
    SeesItself after keep dir target :=
  fun root archive l hroot harchive hl => absurd ⟨root, archive, hroot, harchive, l, hl⟩ h

theorem hasDir_openTarget (h : HasDir before dir d n)
    (hopen : outcome (openTarget target) before = (.ok (), after)) :
    ∃ found executable n', after.find true target = .ok found ∧ HasDir after dir d n' ∧
      ∀ l contents x, n'.itemAt? l = some (.file contents x) ↔
        if d ++ l = found.location then contents = .empty ∧ x = executable
        else n.itemAt? l = some (.file contents x) := by
  obtain ⟨made, hmade, hwrite⟩ := exists_of_openTarget hopen
  obtain ⟨between, hbetween, hfiles⟩ := h.dirsMade hmade
  obtain ⟨found, executable, n', hfound, hn', hitem⟩ := hbetween.write hwrite
  refine ⟨found, executable, n', hfound, hn', fun l contents x => ?_⟩
  rw [hitem, ← hfiles]
  split
  · simp [eq_comm]
  · exact Iff.rfl

theorem selects_walk {opened : Files} (h : HasDir before dir d n)
    (hnames : ∀ f ∈ n.walk keep, ∀ name ∈ f.1, IsName name)
    (hopen : outcome (openTarget target) before = (.ok (), opened))
    (hwithin : ¬ opened.Within dir target) : Selects keep dir target n (n.walk keep) := by
  refine ⟨Node.pairwise_walk h.distinct, fun l contents => ?_⟩
  rw [Node.mem_walk_iff h.distinct, iff_self_and]
  rintro ⟨x, hfile, hreaches⟩ hown
  obtain ⟨found, _, n', hfound, hn', hfiles⟩ := hasDir_openTarget h hopen
  obtain ⟨asDir, hfind⟩ := hn'.find
  have hname := hnames (l, contents) ((Node.mem_walk_iff h.distinct).mpr ⟨x, hfile, hreaches⟩)
  have hapart : d ++ l ≠ found.location := fun heq =>
    hwithin ⟨_, found, hfind, hfound, l, heq⟩
  have hfile' := (hfiles l contents x).mpr ((if_neg hapart).mpr hfile)
  exact hapart (hn'.location_of_file hfile' hname ((isOwn_iff hname).mp hown) hfound).symm

theorem Selects.opened {opened : Files} (hselects : Selects keep dir target n files)
    (h : HasDir before dir d n) (hopen : outcome (openTarget target) before = (.ok (), opened))
    (hself : SeesItself opened keep dir target) :
    ∃ n', HasDir opened dir d n' ∧ Selects keep dir target n' files := by
  obtain ⟨found, executable, n', hfound, hn', hfiles⟩ := hasDir_openTarget h hopen
  obtain ⟨asDir, hfind⟩ := hn'.find
  refine ⟨n', hn', hselects.sorted, fun l contents => ?_⟩
  rw [hselects.mem_iff]
  refine and_congr_left fun hother => exists_congr fun x => and_congr_left fun hreaches => ?_
  -- only the file of the archive has changed, and where it would be packed it is left out
  have hplace : d ++ l ≠ found.location := fun heq =>
    hother (hself _ found l hfind hfound heq ⟨contents, x, hreaches⟩)
  rw [hfiles, if_neg hplace]

theorem outcome_packageWhere {opened : Files} (h : HasDir before dir d n)
    (hselects : Selects keep dir target n files)
    (hopen : outcome (openTarget target) before = (.ok (), opened))
    (hself : SeesItself opened keep dir target) :
    outcome (packageWhere keep extra dir target) before =
      outcome (writeArchive target (files.map fileEntry ++ extra.map textEntry)) opened := by
  obtain ⟨n', hn', hselects'⟩ := hselects.opened h hopen hself
  rw [packageWhere_eq, outcome_bind_of_ok (outcome_look _ _), h.isDir, if_pos rfl,
    outcome_bind_of_ok hopen, packOpened, outcome_bind_of_ok (outcome_look _ _), hn'.node?,
    Option.map_some, Option.getD_some, hselects'.packagedFiles_eq hn'.distinct]
  rfl

/-! ## Writing the archive -/

theorem exists_writeArchive (hnodup : (Archive.names entries).Nodup)
    (h : before.write target (Archive.encode entries) = .ok after) :
    ∃ summary, outcome (writeArchive target entries) before = (.ok summary, after) := by
  have hempty : (Archive.names []).Nodup := List.nodup_nil
  have hadd := (Archive.addAll_eq_none_iff hempty).mpr ⟨hnodup, (List.nil_append entries).symm⟩
  refine ⟨⟨target, entries.length, (Archive.encode entries).size,
    Archive.sha256 (Archive.encode entries)⟩, ?_⟩
  rw [writeArchive, hadd]
  dsimp only
  rw [outcome_bind_of_ok (outcome_write_eq_ok_iff.mpr h)]
  rfl

theorem outcome_writeArchive_of_taken {e : Archive.Entry} (hnodup : (Archive.names entries).Nodup)
    (htaken : e.name ∈ Archive.names entries)
    (h : before.write target (Archive.encode entries) = .ok after) :
    outcome (writeArchive target (entries ++ [e])) before =
      (.error (packagingError target (duplicateName e.name)), after) := by
  rw [writeArchive, Archive.addAll_of_taken hnodup htaken]
  dsimp only
  rw [outcome_bind_of_ok (outcome_write_eq_ok_iff.mpr h)]
  rfl

/-- An archive is at its target, each name in it once, and this is what is said about it. -/
structure Packed (target : String) (archive : Archive) (summary : Summary) (after : Files) :
    Prop where
  nodup : archive.names.Nodup
  read : after.read target = .ok archive.encode
  summary_eq : summary =
    ⟨target, archive.length, archive.encode.size, Archive.sha256 archive.encode⟩

theorem write_of_writeArchive
    (h : outcome (writeArchive target entries) before = (.ok summary, after)) :
    before.write target (Archive.encode entries) = .ok after ∧
      Packed target entries summary after := by
  rw [writeArchive] at h
  rcases hadd : Archive.addAll [] entries with ⟨archive, clash⟩
  rw [hadd] at h
  obtain ⟨_, between, hwrite, h⟩ := outcome_bind_eq_ok_iff.mp h
  have hwrite := outcome_write_eq_ok_iff.mp hwrite
  cases clash with
  | some name => cases h
  | none =>
    cases h
    have hempty : (Archive.names []).Nodup := List.nodup_nil
    obtain ⟨hnodup, rfl⟩ := (Archive.addAll_eq_none_iff hempty).mp hadd
    exact ⟨hwrite, hnodup, Files.read_of_write hwrite, rfl⟩

theorem exists_rewrite_of_openTarget
    (hopen : outcome (openTarget target) before = (.ok (), after)) (contents : ByteArray) :
    ∃ written, after.write target contents = .ok written := by
  obtain ⟨_, _, hwrite⟩ := exists_of_openTarget hopen
  exact Files.exists_write_again hwrite contents

theorem exists_packed {opened : Files} (h : HasDir before dir d n)
    (hselects : Selects keep dir target n files)
    (hnames : ∀ f ∈ files, ∀ name ∈ f.1, IsName name) (hextra : (extra.map (·.1)).Nodup)
    (hother : ∀ e ∈ extra, ∀ f ∈ files, entryName f.1 ≠ e.1)
    (hopen : outcome (openTarget target) before = (.ok (), opened))
    (hself : SeesItself opened keep dir target) :
    ∃ summary after, outcome (packageWhere keep extra dir target) before = (.ok summary, after) ∧
      opened.write target (Archive.encode (files.map fileEntry ++ extra.map textEntry)) =
        .ok after ∧
      Packed target (files.map fileEntry ++ extra.map textEntry) summary after := by
  obtain ⟨after, hafter⟩ := exists_rewrite_of_openTarget hopen
    (Archive.encode (files.map fileEntry ++ extra.map textEntry))
  obtain ⟨summary, harchive⟩ :=
    exists_writeArchive (hselects.nodup_names h.item hnames hextra hother) hafter
  refine ⟨summary, after, ?_, write_of_writeArchive harchive⟩
  rw [outcome_packageWhere h hselects hopen hself, harchive]

/-! ## Packing a project -/

theorem exists_hasDir (h : Holds before dir d docs) :
    ∃ n, HasDir before dir d n ∧ ∀ l contents,
      (l, contents) ∈ n.walk (byName fun _ _ => true) ↔ docs l = some contents := by
  obtain ⟨n, asDir, hfind, hn, hdocs⟩ := h.exists_node
  refine ⟨n, ⟨⟨asDir, hfind⟩, hn.item, hn.tidy.distinct⟩, fun l contents => ?_⟩
  rw [Node.mem_walk_iff hn.tidy.distinct, ← hdocs, Node.fileAt?_eq_some_iff]
  exact exists_congr fun _ => and_iff_left ⟨fun _ _ _ _ => rfl, fun _ => rfl⟩

end AppScaffold.Build

import AppScaffold.Proofs.Host.Success

/-!
# Clear ground

Paths from the root down by names alone, and a tree in which nothing is in their way: directories
can be made and files written along them.
-/

set_option autoImplicit false

namespace AppScaffold.Host

open Files (maxNameLength maxPathLength)
open Path (IsName Plain pieces idle)
open Text (joinWith)

namespace Path

def absolute (l : Location) : String := "/" ++ joinWith "/" l

variable {l : Location} {name : String}

theorem absolute_ne_empty (l : Location) : absolute l ≠ "" := by
  simp [absolute]

theorem pieces_absolute (hl : l ≠ []) (h : ∀ name ∈ l, IsName name) :
    pieces (absolute l) = "" :: l := by
  have hslash : pieces ("" ++ "/" ++ joinWith "/" l) = pieces "" ++ pieces (joinWith "/" l) :=
    pieces_slash "" (joinWith "/" l)
  rw [pieces_joinSlash hl fun name hname => (h name hname).no_slash] at hslash
  exact hslash

theorem components_absolute (h : ∀ name ∈ l, IsName name) :
    components (absolute l) = .root :: l.map .normal := by
  obtain rfl | hl := eq_or_ne l []
  · rfl
  · rw [components_of_pieces (absolute_ne_empty l) (pieces_absolute hl h), filterMap_component? h]
    rfl

theorem isAbsolute_absolute (l : Location) : isAbsolute (absolute l) = true := by
  rw [isAbsolute, absolute, String.toList_append]
  rfl

theorem names_absolute_fst (h : ∀ name ∈ l, IsName name) :
    (Files.names (absolute l)).1 = l := by
  rw [names_fst, components_absolute h]
  exact filterMap_step?_map_normal l

theorem names_absolute (hl : l ≠ []) (h : ∀ name ∈ l, IsName name) :
    Files.names (absolute l) = (l, false) := by
  have hlast : (pieces (absolute l)).getLast? = some (l.getLast hl) := by
    rw [pieces_absolute hl h, List.getLast?_cons, List.getLast?_eq_getLast_of_ne_nil hl]
    rfl
  have hname := h _ (List.getLast_mem hl)
  refine Prod.ext (names_absolute_fst h) ?_
  change ((pieces _).getLast? == _ || (pieces _).getLast? == _) = false
  rw [hlast]
  simp [hname.ne_empty, hname.ne_current]

theorem parent?_absolute (h : ∀ n ∈ l ++ [name], IsName n) :
    parent? (absolute (l ++ [name])) = some (absolute l) := by
  have hname := h name (List.mem_append_right l (List.mem_singleton.mpr rfl))
  have hpieces := pieces_absolute (List.concat_ne_nil name l) h
  rw [(isAbove_of_absolute hname hpieces).parent]
  have hkept : l.rdropWhile idle = l := List.rdropWhile_eq_self_iff.mpr fun hl =>
    not_idle_of_isName (h _ (List.mem_append_left _ (List.getLast_mem hl)))
  rw [hkept]
  rfl

theorem join_absolute {path : String} (h : ∀ name ∈ l, IsName name) (hpath : Plain path) :
    join (absolute l) path = absolute (l ++ pieces path) := by
  obtain rfl | hl := eq_or_ne l []
  · rw [join, hpath.not_absolute, List.nil_append, absolute, absolute, joinSlash_pieces]
    rfl
  have hall : ∀ name ∈ l ++ pieces path, IsName name := fun name hname =>
    (List.mem_append.mp hname).elim (h name) (hpath name)
  have hpieces : pieces (join (absolute l) path) = "" :: (l ++ pieces path) := by
    rcases join_cases (absolute l) hpath.not_absolute with ⟨hempty, _⟩ | ⟨d, hd, _⟩ | ⟨_, hjoin⟩
    · exact absurd hempty (absolute_ne_empty l)
    · have hslash := pieces_trailing d
      rw [← hd, pieces_absolute hl h] at hslash
      have hlast := congrArg List.getLast? hslash
      rw [List.getLast?_concat, List.getLast?_cons, List.getLast?_eq_getLast_of_ne_nil hl] at hlast
      exact absurd (Option.some.inj hlast) (h _ (List.getLast_mem hl)).ne_empty
    · rw [hjoin, pieces_slash, pieces_absolute hl h, List.cons_append]
  rw [← pieces_absolute (List.append_ne_nil_of_left_ne_nil hl _) hall] at hpieces
  rw [← joinSlash_pieces (join _ _), hpieces, joinSlash_pieces]

theorem exists_absolute_append (l m : Location) :
    ∃ rest, absolute (l ++ m) = absolute l ++ rest := by
  obtain ⟨rest, hrest⟩ := Text.exists_joinWith_append "/" l m
  exact ⟨rest, by rw [absolute, absolute, hrest, String.append_assoc]⟩

/-- There are no more names than slashes, however texts are measured. -/
theorem length_le_absolute {size : String → Nat} (hslash : size "/" = 1)
    (happend : ∀ s t, size (s ++ t) = size s + size t) (l : Location) :
    l.length ≤ size (absolute l) := by
  induction l with
  | nil => exact Nat.zero_le _
  | cons name l ih =>
    cases l with
    | nil =>
      rw [absolute, happend, hslash]
      exact Nat.le_add_right 1 _
    | cons next l =>
      have hcons : absolute (name :: next :: l) = "/" ++ name ++ absolute (next :: l) := by
        simp only [absolute, joinWith, String.append_assoc]
      rw [hcons, happend, happend, hslash, List.length_cons]
      omega

end Path

/-! ## Ways that are free -/

namespace Node

variable {root : Node} {l p : Location}

def Clear (root : Node) (l : Location) : Prop :=
  ∀ p, p <+: l → root.itemAt? p = none ∨ root.itemAt? p = some .dir

theorem Clear.above (h : root.Clear l) (hp : p <+: l) : root.Clear p :=
  fun q hq => h q (hq.trans hp)

theorem Clear.isDir (h : root.Clear l) : root.itemAt? [] = some .dir :=
  (h [] List.nil_prefix).resolve_left fun hnone => by
    rw [itemAt?_nil] at hnone
    cases hnone

theorem itemAt?_above (h : root.itemAt? l ≠ none) (hp : p <+: l) (hne : p ≠ l) :
    root.itemAt? p = some .dir := by
  obtain ⟨m, rfl⟩ := hp
  have hm : m ≠ [] := fun hnil => hne (by rw [hnil, List.append_nil])
  obtain ⟨children, hat⟩ := at?_dir_of_below hm fun hnone => h (at?_eq_none_iff.mp hnone)
  rw [itemAt?, hat]
  rfl

theorem itemAt?_above_dir (h : root.itemAt? l = some .dir) (hp : p <+: l) :
    root.itemAt? p = some .dir := by
  obtain rfl | hne := eq_or_ne p l
  · exact h
  · exact itemAt?_above (h ▸ Option.some_ne_none _) hp hne

theorem itemAt?_below_none (h : root.itemAt? l = none) (m : Location) :
    root.itemAt? (l ++ m) = none := by
  by_contra hsome
  obtain rfl | hm := eq_or_ne m []
  · exact hsome (by rwa [List.append_nil])
  · have hdir := itemAt?_above hsome (List.prefix_append l m) fun heq => hm (by simpa using heq)
    rw [h] at hdir
    cases hdir

end Node

section Descent

variable {root : Node} {follow asDir : Bool} {fuel links : Nat} {l m : Location} {name : String}

def Short (l : Location) : Prop := ∀ name ∈ l, IsName name ∧ name.utf8ByteSize ≤ maxNameLength

instance (l : Location) : Decidable (Short l) :=
  inferInstanceAs (Decidable (∀ name ∈ l, IsName name ∧ name.utf8ByteSize ≤ maxNameLength))

/-- Through directories the way leads to its end. -/
theorem leads_of_dir (hshort : Short (m ++ [name])) (hfuel : m.length < fuel)
    (hdir : root.itemAt? (l ++ m) = some .dir)
    (hend : Ends follow asDir (root.itemAt? (l ++ m ++ [name]))) :
    Leads root follow fuel links l (m ++ [name]) asDir
      ⟨l ++ m ++ [name], root.at? (l ++ m ++ [name]), asDir⟩ := by
  induction m generalizing l fuel with
  | nil =>
    obtain ⟨fuel, rfl⟩ := Nat.exists_eq_succ_of_ne_zero (Nat.ne_of_gt hfuel)
    obtain ⟨hname, hsize⟩ := hshort name (List.mem_singleton.mpr rfl)
    rw [List.append_nil] at hend ⊢
    exact .last hsize hname.ne_parent hend
  | cons x m ih =>
    obtain ⟨fuel, rfl⟩ := Nat.exists_eq_succ_of_ne_zero (Nat.ne_zero_of_lt hfuel)
    obtain ⟨hname, hsize⟩ := hshort x List.mem_cons_self
    have hsplit : l ++ x :: m = l ++ [x] ++ m := by rw [List.append_assoc, List.singleton_append]
    rw [hsplit] at hdir hend ⊢
    refine .enter hsize hname.ne_parent (List.concat_ne_nil name m)
      (Node.itemAt?_above_dir hdir (List.prefix_append _ m)) ?_
    exact ih (fun name hname => hshort name (List.mem_cons_of_mem x hname))
      (Nat.lt_of_succ_lt_succ hfuel) hdir hend

theorem descend_of_missing (hshort : Short m) (hfuel : m.length ≤ fuel)
    (hclear : root.Clear (l ++ m)) (hdir : root.itemAt? l = some .dir)
    (hnone : root.itemAt? (l ++ m) = none) :
    Files.descend root follow fuel links l (m ++ [name]) asDir = .error .notFound := by
  induction m generalizing l fuel with
  | nil =>
    rw [List.append_nil, hdir] at hnone
    cases hnone
  | cons x m ih =>
    obtain ⟨fuel, rfl⟩ := Nat.exists_eq_succ_of_ne_zero (Nat.ne_zero_of_lt hfuel)
    obtain ⟨hname, hsize⟩ := hshort x List.mem_cons_self
    have hsplit : l ++ x :: m = l ++ [x] ++ m := by rw [List.append_assoc, List.singleton_append]
    rw [hsplit] at hclear hnone
    rcases hclear (l ++ [x]) (List.prefix_append _ m) with hmissing | hdir
    · rw [List.cons_append, Files.descend, if_neg (Nat.not_lt.mpr hsize),
        if_neg (by simpa using hname.ne_parent)]
      simp only [Node.at?_eq_none_iff.mpr hmissing]
      rw [if_neg (by simp)]
    · rw [List.cons_append, descend_enter hsize hname.ne_parent (List.concat_ne_nil name m) hdir]
      exact ih (fun name hname => hshort name (List.mem_cons_of_mem x hname))
        (Nat.le_of_succ_le_succ hfuel) hclear hdir hnone

end Descent

/-- The path of the location is one that can be followed. -/
structure Fits (l : Location) : Prop where
  short : Short l
  usable : Usable (Path.absolute l)

theorem fits_iff {l : Location} : Fits l ↔ Short l ∧ Usable (Path.absolute l) :=
  ⟨fun h => ⟨h.1, h.2⟩, fun h => ⟨h.1, h.2⟩⟩

instance (l : Location) : Decidable (Fits l) := decidable_of_iff _ fits_iff.symm

namespace Fits

variable {l p : Location}

theorem isName (h : Fits l) : ∀ name ∈ l, IsName name := fun name hname => (h.short name hname).1

theorem above (h : Fits l) (hp : p <+: l) : Fits p := by
  obtain ⟨m, rfl⟩ := hp
  obtain ⟨rest, hrest⟩ := Path.exists_absolute_append p m
  exact ⟨fun name hname => h.short name (List.mem_append_left m hname),
    Path.usable_of_append (hrest ▸ h.usable) (Path.absolute_ne_empty p)⟩

theorem length_lt_steps (h : Fits l) : l.length < Files.steps := by
  have hlength := @Path.length_le_absolute String.utf8ByteSize rfl
    (fun _ _ => String.utf8ByteSize_append) l
  have hsize := h.usable.size_le
  have hsteps : maxPathLength < Files.steps := by decide
  omega

end Fits

theorem size_le_joinWith {sep s : String} {ss : List String} (h : s ∈ ss) :
    s.utf8ByteSize ≤ (joinWith sep ss).utf8ByteSize := by
  induction ss with
  | nil => cases h
  | cons t ss ih =>
    cases ss with
    | nil => exact Nat.le_of_eq (congrArg _ (List.mem_singleton.mp h))
    | cons u ss =>
      change _ ≤ (t ++ sep ++ joinWith sep (u :: ss)).utf8ByteSize
      rw [String.utf8ByteSize_append, String.utf8ByteSize_append]
      rcases List.mem_cons.mp h with rfl | h
      · omega
      · exact (ih h).trans (Nat.le_add_left _ _)

theorem Fits.append_pieces {d : Location} {path : String} (hd : Fits d) (hpath : Plain path)
    (hnul : '\x00' ∉ path.toList) (hname : path.utf8ByteSize ≤ maxNameLength)
    (hsize : (Path.absolute d).utf8ByteSize + 1 + path.utf8ByteSize ≤ maxPathLength) :
    Fits (d ++ pieces path) where
  short name hmem := by
    rcases List.mem_append.mp hmem with hmem | hmem
    · exact hd.short name hmem
    · refine ⟨hpath name hmem, ?_⟩
      have hle := @size_le_joinWith "/" name (pieces path) hmem
      rw [Path.joinSlash_pieces] at hle
      exact hle.trans hname
  usable := by
    have hjoin := Path.join_absolute hd.isName hpath
    have hslash : "/".utf8ByteSize = 1 := rfl
    have hroot := hd.usable.no_nul
    rw [← hjoin]
    rcases Path.join_cases (Path.absolute d) hpath.not_absolute with
      ⟨hempty, _⟩ | ⟨e, heq, hjoin⟩ | ⟨_, hjoin⟩
    · exact absurd hempty (Path.absolute_ne_empty d)
    · rw [hjoin, ← heq]
      refine ⟨by simp [hroot, hnul], Path.append_ne_empty hpath.ne_empty, ?_⟩
      rw [String.utf8ByteSize_append]
      omega
    · rw [hjoin]
      refine ⟨by simp [hroot, hnul], Path.append_ne_empty hpath.ne_empty, ?_⟩
      rw [String.utf8ByteSize_append, String.utf8ByteSize_append, hslash]
      omega

namespace Files

variable {fs : Files} {l : Location} {name : String} {follow : Bool}

theorem find_absolute (hl : Fits (l ++ [name])) (hdir : fs.root.itemAt? l = some .dir)
    (hend : Ends follow false (fs.root.itemAt? (l ++ [name]))) :
    fs.find follow (Path.absolute (l ++ [name])) =
      .ok ⟨l ++ [name], fs.root.at? (l ++ [name]), false⟩ := by
  refine find_eq_ok_iff.mpr ⟨hl.usable, ?_⟩
  rw [start, Path.isAbsolute_absolute, if_pos rfl,
    Path.names_absolute (List.concat_ne_nil name l) hl.isName]
  exact leads_of_dir hl.short (hl.above (List.prefix_append l _)).length_lt_steps hdir hend

theorem find_absolute_of_missing (hl : Fits (l ++ [name])) (hclear : fs.root.Clear l)
    (hnone : fs.root.itemAt? l = none) :
    fs.find follow (Path.absolute (l ++ [name])) = .error (.system .notFound) := by
  have habove := hl.above (List.prefix_append l _)
  rw [find_eq fs follow hl.usable, start, Path.isAbsolute_absolute, if_pos rfl,
    Path.names_absolute (List.concat_ne_nil name l) hl.isName,
    descend_of_missing habove.short habove.length_lt_steps.le hclear hclear.isDir hnone]
  rfl

theorem isDir_absolute (hl : Fits l) (hdir : fs.root.itemAt? l = some .dir) :
    fs.isDir (Path.absolute l) = true := by
  rw [isDir_iff]
  obtain rfl | ⟨m, name, rfl⟩ := List.eq_nil_or_concat' l
  · exact ⟨_, find_eq_ok_iff.mpr ⟨hl.usable, .here⟩, hdir⟩
  · have hparent := Node.itemAt?_above_dir hdir (List.prefix_append m [name])
    exact ⟨_, find_absolute hl hparent (hdir ▸ trivial), hdir⟩

/-! ## Making and writing -/

theorem exists_replaceRoot {new : Node} (hdir : fs.root.itemAt? l = some .dir) (name : String) :
    ∃ fs', fs.replaceRoot (Node.put new (l ++ [name]) fs.root) = .ok fs' := by
  obtain ⟨root, hput⟩ := Node.exists_put new hdir name
  exact ⟨{ fs with root := root }, by rw [hput]; rfl⟩

theorem exists_createDir (hl : Fits (l ++ [name])) (hdir : fs.root.itemAt? l = some .dir)
    (hnone : fs.root.itemAt? (l ++ [name]) = none) :
    ∃ made, fs.createDir (Path.absolute (l ++ [name])) = .ok made ∧
      Placed fs made .emptyDir (l ++ [name]) := by
  have hfind : fs.find false (Path.absolute (l ++ [name])) = _ :=
    find_absolute hl hdir (hnone ▸ trivial)
  obtain ⟨made, hmade⟩ := @exists_replaceRoot fs l .emptyDir hdir name
  have hcreate : fs.createDir (Path.absolute (l ++ [name])) = .ok made := by
    rw [createDir, hfind]
    simpa only [bind, Except.bind, Node.at?_eq_none_iff.mpr hnone] using hmade
  obtain ⟨found, hfound, _, hplaced⟩ := placed_of_createDir hcreate
  obtain rfl := Except.ok.inj (hfind.symm.trans hfound)
  exact ⟨made, hcreate, hplaced⟩

def MadeTo (before after : Files) (l : Location) : Prop :=
  ∀ m, after.root.itemAt? m = if m <+: l then some .dir else before.root.itemAt? m

theorem madeTo_of_dir (h : fs.root.itemAt? l = some .dir) : MadeTo fs fs l := by
  intro m
  split
  · rename_i hm
    exact Node.itemAt?_above_dir h hm
  · rfl

theorem MadeTo.itemAt?_dir {made : Files} (h : MadeTo fs made l) :
    made.root.itemAt? l = some .dir := by
  rw [h l, if_pos (List.prefix_refl l)]

theorem MadeTo.concat {between made : Files} (h : MadeTo fs between l)
    (hplaced : Placed between made .emptyDir (l ++ [name])) : MadeTo fs made (l ++ [name]) := by
  intro m
  rw [hplaced.itemAt?, h m]
  simp only [List.prefix_concat_iff]
  by_cases hm : m = l ++ [name]
  · rw [if_pos hm, if_pos (Or.inl hm)]
    rfl
  · simp only [hm, false_or, if_false]

theorem exists_createDirsFrom {fuel : Nat} (hl : Fits l) (hclear : fs.root.Clear l)
    (hfuel : l.length < fuel) :
    ∃ made, createDirsFrom fuel (Path.absolute l) fs = (.ok (), made) ∧ MadeTo fs made l := by
  induction l using List.reverseRecOn generalizing fuel with
  | nil =>
    obtain ⟨fuel, rfl⟩ := Nat.exists_eq_succ_of_ne_zero (Nat.ne_of_gt hfuel)
    exact ⟨fs, createDirsFrom_of_isDir (isDir_absolute hl hclear.isDir) fuel,
      madeTo_of_dir hclear.isDir⟩
  | append_singleton l name ih =>
    obtain ⟨fuel, rfl⟩ := Nat.exists_eq_succ_of_ne_zero (Nat.ne_zero_of_lt hfuel)
    have hstart := List.prefix_append l [name]
    have hnonempty : ¬ (Path.absolute (l ++ [name])).isEmpty = true := by
      simpa using Path.absolute_ne_empty (l ++ [name])
    rcases hclear _ (List.prefix_refl _) with hnone | hdir
    · rcases hclear l hstart with hmissing | hdir
      -- The directory above is missing, so that the first attempt fails and the one behind it
      -- succeeds.
      · obtain ⟨between, hbetween, hmade⟩ := ih (hl.above hstart) (hclear.above hstart)
          (by rw [List.length_append] at hfuel; exact Nat.lt_of_succ_lt_succ hfuel)
        have hnone' : between.root.itemAt? (l ++ [name]) = none := by
          rw [hmade, if_neg (fun h => absurd h.length_le (by simp)), hnone]
        obtain ⟨made, hcreate, hplaced⟩ := exists_createDir hl hmade.itemAt?_dir hnone'
        have hfail : fs.createDir (Path.absolute (l ++ [name])) = .error (.system .notFound) := by
          rw [createDir, find_absolute_of_missing hl (hclear.above hstart) hmissing]
          rfl
        refine ⟨made, ?_, hmade.concat hplaced⟩
        rw [createDirsFrom, if_neg hnonempty, hfail]
        simp only [beq_self_eq_true, if_true, Path.parent?_absolute hl.isName, hbetween, hcreate]
      · obtain ⟨made, hcreate, hplaced⟩ := exists_createDir hl hdir hnone
        refine ⟨made, ?_, (madeTo_of_dir hdir).concat hplaced⟩
        rw [createDirsFrom, if_neg hnonempty, hcreate]
    · exact ⟨fs, createDirsFrom_of_isDir (isDir_absolute hl hdir) fuel, madeTo_of_dir hdir⟩

theorem exists_createDirs (hl : Fits l) (hclear : fs.root.Clear l) :
    ∃ made, fs.createDirs (Path.absolute l) = (.ok (), made) ∧ MadeTo fs made l := by
  refine exists_createDirsFrom hl hclear (Nat.lt_succ_of_le ?_)
  exact @Path.length_le_absolute String.length rfl String.length_append l

/-- A file can be written into a directory that is there, where nothing or a file is. -/
theorem exists_write_absolute (hl : Fits (l ++ [name])) (hdir : fs.root.itemAt? l = some .dir)
    (hfree : ∀ x, fs.root.itemAt? (l ++ [name]) = some x → ∃ c e, x = .file c e)
    (contents : ByteArray) :
    ∃ made executable, fs.write (Path.absolute (l ++ [name])) contents = .ok made ∧
      Placed fs made (.file contents executable) (l ++ [name]) := by
  have hend : Ends true false (fs.root.itemAt? (l ++ [name])) := by
    cases hat : fs.root.itemAt? (l ++ [name]) with
    | none => trivial
    | some x =>
      obtain ⟨c, e, rfl⟩ := hfree x hat
      rfl
  have hfind := find_absolute hl hdir hend
  have hnode : fs.root.at? (l ++ [name]) = none ∧ false = false ∨
      ∃ c e, fs.root.at? (l ++ [name]) = some (.file c e) := by
    cases hat : fs.root.at? (l ++ [name]) with
    | none => exact Or.inl ⟨rfl, rfl⟩
    | some n =>
      obtain ⟨c, e, hitem⟩ := hfree n.item (by rw [Node.itemAt?, hat, Option.map_some])
      exact Or.inr ⟨c, e, congrArg some (Node.eq_file_of_item hitem)⟩
  obtain ⟨made, hwrite⟩ :=
    exists_write hfind hnode (fun new => Node.exists_put new hdir name) contents
  obtain ⟨found, executable, hfound, _, hplaced⟩ := placed_of_write hwrite
  obtain rfl := Except.ok.inj (hfind.symm.trans hfound)
  exact ⟨made, executable, hwrite, hplaced⟩

end Files

end AppScaffold.Host

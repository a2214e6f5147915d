import AppScaffold.Proofs.Host.FileTask
import AppScaffold.Proofs.Host.Landing

/-!
# Tasks that write one file

What a task can leave behind that makes directories and writes at one path, whether it ends well or
fails half-way, and what a removal of the file takes away again. `WrittenAt` is what such a task
does to files, `WritesAt` the tasks that do no more.
-/

set_option autoImplicit false

namespace AppScaffold.Host

open Path (IsName)

/-! ## Removing -/

namespace Node

variable {root root' : Node} {l : Location}

/-- A removal empties the first directory on its way or changes one child of it. -/
theorem exists_of_remove_cons {name : String} {rest : Location}
    (h : remove (name :: rest) root = some root') :
    ∃ children, root = .dir children ∧
      (rest = [] ∧ root' = .dir (children.filter fun e => e.1 != name) ∨
        ∃ old child, children.lookup name = some old ∧ remove rest old = some child ∧
          root' = .dir (Keyed.set name child children)) := by
  cases root with
  | file contents executable => cases rest <;> cases h
  | link target => cases rest <;> cases h
  | dir children =>
    refine ⟨children, rfl, ?_⟩
    cases rest with
    | nil => exact Or.inl ⟨rfl, (Option.some.inj h).symm⟩
    | cons next rest =>
      rw [remove.eq_2 name (next :: rest) children (List.cons_ne_nil next rest)] at h
      cases hlookup : children.lookup name with
      | none =>
        rw [hlookup] at h
        cases h
      | some old =>
        rw [hlookup] at h
        obtain ⟨child, hchild, rfl⟩ := Option.map_eq_some_iff.mp h
        exact Or.inr ⟨old, child, rfl, hchild, rfl⟩

theorem itemAt?_remove (h : remove l root = some root') (m : Location) :
    root'.itemAt? m = if l <+: m then none else root.itemAt? m := by
  induction l generalizing root root' m with
  | nil => cases root <;> cases h
  | cons name rest ih =>
    obtain ⟨children, rfl, hchild⟩ := exists_of_remove_cons h
    cases m with
    | nil =>
      rw [if_neg fun hnil => absurd (List.prefix_nil.mp hnil) (List.cons_ne_nil name rest)]
      rcases hchild with ⟨_, rfl⟩ | ⟨_, _, _, _, rfl⟩ <;> rfl
    | cons x xs =>
      simp only [List.cons_prefix_cons]
      rcases hchild with ⟨rfl, rfl⟩ | ⟨old, child, hold, hremove, rfl⟩
      · rw [itemAt?_cons, itemAt?_cons, Keyed.lookup_filter_ne]
        by_cases hx : x = name
        · rw [if_pos hx, if_pos ⟨hx.symm, List.nil_prefix⟩]
          rfl
        · rw [if_neg hx, if_neg fun heq => hx heq.1.symm]
      · rw [itemAt?_cons, itemAt?_cons, Keyed.lookup_set]
        by_cases hx : x = name
        · rw [if_pos hx, Option.bind_some, ih hremove, hx, hold]
          simp only [true_and, Option.bind_some]
        · rw [if_neg hx, if_neg fun heq => hx heq.1.symm]

theorem exists_remove (h : root.itemAt? l ≠ none) (hl : l ≠ []) :
    ∃ root', remove l root = some root' := by
  induction l generalizing root with
  | nil => exact absurd rfl hl
  | cons name rest ih =>
    cases root with
    | file contents executable => exact absurd rfl h
    | link target => exact absurd rfl h
    | dir children =>
      obtain rfl | hrest := eq_or_ne rest []
      · exact ⟨_, rfl⟩
      · rw [itemAt?_cons] at h
        obtain ⟨x, hx⟩ := Option.ne_none_iff_exists'.mp h
        obtain ⟨old, hold, hx⟩ := Option.bind_eq_some_iff.mp hx
        obtain ⟨child, hchild⟩ := ih (hx ▸ Option.some_ne_none x) hrest
        refine ⟨.dir (Keyed.set name child children), ?_⟩
        rw [remove.eq_2 name rest children hrest, hold]
        simp only [hchild, Option.map_some]

end Node

namespace Files

variable {fs fs' a b c : Files} {path dir name : String} {l : Location} {found : Found}

theorem exists_of_removeFile (h : fs.removeFile path = .ok fs') :
    ∃ found, fs.find false path = .ok found ∧
      ∀ m, fs'.root.itemAt? m = if found.location <+: m then none else fs.root.itemAt? m := by
  obtain ⟨found, hfound, h⟩ := bind_eq_ok_iff.mp h
  refine ⟨found, hfound, fun m => ?_⟩
  split at h
  · cases h
  · cases h
  · exact Node.itemAt?_remove (eq_of_replaceRoot h).1 m

theorem exists_removeFile {contents : ByteArray} {executable : Bool}
    (h : fs.find false path = .ok found) (hnode : found.node = some (.file contents executable))
    (hl : found.location ≠ []) : ∃ removed, fs.removeFile path = .ok removed := by
  have hitem : fs.root.itemAt? found.location ≠ none := by
    rw [Node.itemAt?, ← node_of_find h, hnode]
    exact Option.some_ne_none _
  obtain ⟨root, hroot⟩ := Node.exists_remove hitem hl
  refine ⟨{ fs with root := root }, ?_⟩
  rw [removeFile, h]
  simp only [bind, Except.bind, hnode, hroot, replaceRoot]

/-! ## Writing -/

/-- Directories were made and the file of a path was written, in any order and any number of
times. -/
inductive WrittenAt (path : String) : Files → Files → Prop where
  | refl (fs : Files) : WrittenAt path fs fs
  | dirs {a b c : Files} : WrittenAt path a b → DirsMade b c → WrittenAt path a c
  | write {a b c : Files} {contents : ByteArray} :
      WrittenAt path a b → b.write path contents = .ok c → WrittenAt path a c

def Free (fs : Files) (name : String) : Prop := ∀ d, fs.root.itemAt? (d ++ [name]) = none

def NewFile (before after : Files) (l : Location) : Prop :=
  before.root.fileAt? l = none ∧ after.root.fileAt? l ≠ none

theorem isFile_iff : fs.isFile path = true ↔ ∃ contents, fs.read path = .ok contents := by
  refine ⟨fun h => ?_, fun ⟨_, h⟩ => isFile_of_read h⟩
  rw [isFile, node?] at h
  cases hfound : fs.find true path with
  | error e =>
    rw [hfound] at h
    cases h
  | ok found =>
    rw [hfound] at h
    obtain ⟨n, hn, hfile⟩ : ∃ n, found.node = some n ∧ n.isFile := (Option.any_eq_true _ _).mp h
    cases n with
    | dir children => cases hfile
    | link target => cases hfile
    | file contents executable =>
      refine ⟨contents, ?_⟩
      rw [read_eq_ok_iff hfound, Node.itemAt?, ← node_of_find hfound, hn]
      rfl

theorem exists_leadsTo_of_isFile (h : fs.isFile path = true) :
    ∃ l, fs.LeadsTo path l ∧ fs.root.fileAt? l ≠ none := by
  obtain ⟨contents, hread⟩ := isFile_iff.mp h
  obtain ⟨found, _, hfound, _⟩ := exists_find_of_read hread
  refine ⟨found.location, ⟨found, hfound, rfl⟩, fun hnone => ?_⟩
  have hfile := (read_eq_ok_iff hfound).mp hread
  cases hnone.symm.trans hfile

namespace WrittenAt

theorem trans (hab : WrittenAt path a b) (hbc : WrittenAt path b c) : WrittenAt path a c := by
  induction hbc with
  | refl => exact hab
  | dirs _ hdirs ih => exact .dirs ih hdirs
  | write _ hwrite ih => exact .write ih hwrite

/-- What is there afterwards is a directory, or was there before, or is the file of the path. -/
theorem itemAt? (h : WrittenAt path a b) {x : Item} (hx : b.root.itemAt? l = some x) :
    x = .dir ∨ a.root.itemAt? l = some x ∨
      b.LeadsTo path l ∧ ∃ contents executable, x = .file contents executable := by
  induction h generalizing x with
  | refl => exact Or.inr (Or.inl hx)
  | dirs _ hdirs ih =>
    rcases hdirs.unchanged l with hsame | ⟨_, hdir⟩
    · rw [hsame] at hx
      refine (ih hx).imp_right (Or.imp_right fun ⟨hleads, hfile⟩ => ⟨?_, hfile⟩)
      exact hleads.of_keeps (hx ▸ Option.some_ne_none x) hdirs.keeps hdirs.workingDir
    · exact Or.inl (Option.some.inj (hx.symm.trans hdir))
  | @write b c contents _ hwrite ih =>
    obtain ⟨found, executable, hfound, hplaced, hfind⟩ := find_of_write hwrite
    rw [hplaced.itemAt?] at hx
    split at hx
    · rename_i heq
      exact Or.inr (Or.inr ⟨⟨_, hfind, heq.symm⟩, contents, executable,
        (Option.some.inj hx).symm⟩)
    · rename_i hne
      rcases ih hx with hdir | hbefore | ⟨hleads, _⟩
      · exact Or.inl hdir
      · exact Or.inr (Or.inl hbefore)
      -- an earlier file of the path is where the path still leads
      · exact absurd (hleads.unique ⟨found, hfound, rfl⟩) hne

theorem leadsTo_of_newFile (h : WrittenAt path a b) (hnew : NewFile a b l) :
    b.LeadsTo path l := by
  obtain ⟨contents, hfile⟩ := Option.ne_none_iff_exists'.mp hnew.2
  obtain ⟨executable, hitem⟩ := Node.fileAt?_eq_some_iff.mp hfile
  rcases h.itemAt? hitem with hdir | hbefore | ⟨hleads, _⟩
  · cases hdir
  · exact absurd (Node.fileAt?_eq_some_iff.mpr ⟨executable, hbefore⟩) (hnew.1 ▸ nofun)
  · exact hleads

theorem not_link (h : WrittenAt path a b) (hfree : a.Free name) (d : Location) (target : String) :
    b.root.itemAt? (d ++ [name]) ≠ some (.link target) := by
  intro hlink
  rcases h.itemAt? hlink with hdir | hbefore | ⟨_, _, _, hfile⟩
  · cases hdir
  · rw [hfree d] at hbefore
    cases hbefore
  · cases hfile

theorem isFile (h : WrittenAt path a b) (hfile : a.isFile path = true) :
    b.isFile path = true := by
  induction h with
  | refl => exact hfile
  | dirs _ hdirs ih =>
    obtain ⟨contents, hread⟩ := isFile_iff.mp ih
    exact isFile_iff.mpr ⟨contents, hdirs.read hread⟩
  | write _ hwrite _ => exact isFile_of_read (read_of_write hwrite)

/-- A file of a free name that was written is right below the place of its directory and is new
there. It can be removed, and then it is gone. -/
theorem exists_place (h : WrittenAt (Path.join dir name) a b) (hname : IsName name)
    (hfree : a.Free name) (hleads : b.LeadsTo (Path.join dir name) l)
    (hfile : b.root.fileAt? l ≠ none) :
    (∃ d, b.BasedAt dir d ∧ l = d ++ [name]) ∧ NewFile a b l ∧
      ∃ removed, b.removeFile (Path.join dir name) = .ok removed ∧
        removed.root.fileAt? l = none := by
  obtain ⟨found, hfound, rfl⟩ := hleads
  obtain ⟨d, hd, hsame, hbase⟩ := exists_above_of_find hname (h.not_link hfree) hfound
  obtain ⟨contents, hcontents⟩ := Option.ne_none_iff_exists'.mp hfile
  obtain ⟨executable, hitem⟩ := Node.fileAt?_eq_some_iff.mp hcontents
  have hnode : found.node = some (.file contents executable) := by
    obtain ⟨n, hn, hfile⟩ := Option.map_eq_some_iff.mp hitem
    rw [node_of_find hfound, hn, Node.eq_file_of_item hfile]
  obtain ⟨removed, hremove⟩ :=
    exists_removeFile (hsame false) hnode (hd ▸ List.concat_ne_nil name d)
  refine ⟨⟨d, hbase ?_, hd⟩, ⟨?_, hfile⟩, removed, hremove, ?_⟩
  · rw [hd] at hitem
    exact Node.itemAt?_of_isPrefix hitem (List.prefix_append d [name]) (by simp)
  · rw [Node.fileAt?, hd, hfree d]
    rfl
  · obtain ⟨found', hfound', hitems⟩ := exists_of_removeFile hremove
    obtain rfl := Except.ok.inj (hfound'.symm.trans (hsame false))
    rw [Node.fileAt?, hitems, if_pos (List.prefix_refl _)]
    rfl

/-- A file of a free name that was written is the only new one, and is there unless it was never
made. -/
theorem exists_newFile_iff (h : WrittenAt (Path.join dir name) a b) (hname : IsName name)
    (hfree : a.Free name) :
    (∃ l, NewFile a b l) ↔ b.isFile (Path.join dir name) = true := by
  constructor
  · rintro ⟨l, hnew⟩
    obtain ⟨found, hfound, rfl⟩ := h.leadsTo_of_newFile hnew
    obtain ⟨contents, hread⟩ := Option.ne_none_iff_exists'.mp hnew.2
    exact isFile_of_read ((read_eq_ok_iff hfound).mpr hread)
  · intro hfile
    obtain ⟨l, hleads, hfile⟩ := exists_leadsTo_of_isFile hfile
    exact ⟨l, (h.exists_place hname hfree hleads hfile).2.1⟩

theorem not_newFile_removed (h : WrittenAt (Path.join dir name) a b) (hname : IsName name)
    (hfree : a.Free name) (l : Location) :
    ¬ NewFile a ((b.removeFile (Path.join dir name)).toOption.getD b) l := by
  intro hnew
  cases hremove : b.removeFile (Path.join dir name) with
  | error e =>
    rw [hremove] at hnew
    obtain ⟨_, _, removed, hok, _⟩ :=
      h.exists_place hname hfree (h.leadsTo_of_newFile hnew) hnew.2
    cases hremove.symm.trans hok
  | ok removed =>
    rw [hremove] at hnew
    obtain ⟨found, _, hitems⟩ := exists_of_removeFile hremove
    have hthere : NewFile a b l := by
      refine ⟨hnew.1, fun hnone => hnew.2 ?_⟩
      change removed.root.fileAt? l = none
      rw [Node.fileAt?, hitems]
      split
      · rfl
      · exact hnone
    obtain ⟨_, _, removed', hok, hgone⟩ :=
      h.exists_place hname hfree (h.leadsTo_of_newFile hthere) hthere.2
    obtain rfl := Except.ok.inj (hremove.symm.trans hok)
    exact hnew.2 hgone

end WrittenAt

end Files

namespace FileTask

variable {α β : Type} {path : String}

/-- The task makes directories and writes at a path, and does no more, whether it ends well or
not. -/
def WritesAt (path : String) (task : FileTask α) : Prop :=
  ∀ before, Files.WrittenAt path before (outcome task before).2

namespace WritesAt

theorem pure (a : α) : WritesAt path (pure a : FileTask α) := fun before => .refl before

theorem throw (e : Report.Error) : WritesAt path (throw e : FileTask α) := fun before =>
  .refl before

theorem look (f : Files → α) : WritesAt path (look f) := fun before => .refl before

theorem createDirs (above : String) (wrap : Failure → Report.Error) :
    WritesAt path (createDirs above wrap) := by
  intro before
  rw [outcome_createDirs]
  exact .dirs (.refl before) (Files.dirsMade_createDirs before above)

theorem write (contents : ByteArray) (wrap : Failure → Report.Error) :
    WritesAt path (write path contents wrap) := by
  intro before
  rw [FileTask.write, outcome_change]
  split
  · rename_i hwrite
    exact .write (.refl before) hwrite
  · exact .refl before

theorem bind {task : FileTask α} {next : α → FileTask β} (h : WritesAt path task)
    (hnext : ∀ a, WritesAt path (next a)) : WritesAt path (task >>= next) := by
  intro before
  have hfirst := h before
  rw [outcome_bind]
  revert hfirst
  rcases outcome task before with ⟨e | a, between⟩ <;> intro hfirst
  · exact hfirst
  · exact hfirst.trans (hnext a between)

end WritesAt

end FileTask

end AppScaffold.Host

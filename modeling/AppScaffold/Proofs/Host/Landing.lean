import AppScaffold.Proofs.Host.Success

/-!
# Where paths lead

Following a path as a relation to a location, and the location that paths behind a directory start
from. Where a path leads stays while a tree grows, and behind a directory it is what its names say,
unless a link stands there. A path that ends with a name leads right below the place that the path
before the name leads to, unless something of this name is a link.
-/

set_option autoImplicit false

namespace AppScaffold.Host

open Path (IsName Plain pieces)

theorem Path.usable_of_join {dir part : String} (hdir : dir ≠ "") (hpart : isAbsolute part = false)
    (h : Usable (join dir part)) : Usable dir := by
  rcases join_cases dir hpart with ⟨hempty, _⟩ | ⟨d, hd, hjoin⟩ | ⟨_, hjoin⟩
  · exact absurd hempty hdir
  · rw [hjoin, ← hd] at h
    exact usable_of_append h hdir
  · rw [hjoin, String.append_assoc] at h
    exact usable_of_append h hdir

namespace Leads

variable {root : Node} {follow asDir : Bool} {fuel links : Nat} {l : Location} {ns : List String}
  {found : Found} {name : String}

/-- Names that end with one that no link has lead right below the place that the names before it
lead to, whether a link at the end is followed or not. -/
theorem exists_above (h : Leads root follow fuel links l (ns ++ [name]) asDir found)
    (hname : name ≠ "..") (hlink : ∀ d target, root.itemAt? (d ++ [name]) ≠ some (.link target)) :
    ∃ d, found.location = d ++ [name] ∧
      (∀ follow', Leads root follow' fuel links l (ns ++ [name]) asDir found) ∧
      ∀ asDir', ∃ above, Leads root true fuel links l ns asDir' above ∧ above.location = d := by
  generalize hall : ns ++ [name] = all at h
  -- The induction is on the way itself: its steps up to the last name lead to the place above.
  induction h generalizing ns with
  | here => exact absurd hall (List.concat_ne_nil name ns)
  | up h ih =>
    cases ns with
    | nil => exact absurd (List.cons.inj hall).1 hname
    | cons x ns =>
      obtain ⟨rfl, rfl⟩ := List.cons.inj hall
      obtain ⟨d, hd, hsame, habove⟩ := ih rfl
      refine ⟨d, hd, fun follow' => .up (hsame follow'), fun asDir' => ?_⟩
      obtain ⟨above, hleads, heq⟩ := habove asDir'
      exact ⟨above, .up hleads, heq⟩
  | @last fuel links l last asDir hsize hup hend =>
    cases ns with
    | cons x ns => exact absurd (List.cons.inj hall).2 (List.concat_ne_nil name ns)
    | nil =>
      obtain rfl : name = last := (List.cons.inj hall).1
      refine ⟨l, rfl, fun follow' => .last hsize hup ?_, fun asDir' => ⟨_, .here, rfl⟩⟩
      cases hat : root.itemAt? (l ++ [name]) with
      | none => trivial
      | some x =>
        rw [hat] at hend
        cases x with
        | file contents executable => exact hend
        | link target => exact absurd hat (hlink l target)
        | dir => trivial
  | enter hsize hup hrest hitem h ih =>
    cases ns with
    | nil => exact absurd (List.cons.inj hall).2.symm hrest
    | cons x ns =>
      obtain ⟨rfl, rfl⟩ := List.cons.inj hall
      obtain ⟨d, hd, hsame, habove⟩ := ih rfl
      refine ⟨d, hd, fun follow' => .enter hsize hup hrest hitem (hsame follow'), fun asDir' => ?_⟩
      obtain ⟨above, hleads, heq⟩ := habove asDir'
      -- Where `name` comes next, the way above it ends in the directory that is entered here.
      obtain rfl | hns := eq_or_ne ns []
      · cases hleads
        exact ⟨_, .last hsize hup (hitem ▸ trivial), heq⟩
      · exact ⟨above, .enter hsize hup hns hitem hleads, heq⟩
  | link hsize hup hitem hend hlinks htarget h ih =>
    cases ns with
    | nil =>
      obtain ⟨rfl, _⟩ := List.cons.inj hall
      exact absurd hitem (hlink _ _)
    | cons x ns =>
      rw [List.cons_append] at hall
      obtain ⟨rfl, rfl⟩ := List.cons.inj hall
      obtain ⟨d, hd, hsame, habove⟩ := ih (List.append_assoc _ ns [name])
      refine ⟨d, hd, fun follow' => ?_, fun asDir' => ?_⟩
      · have hrest : (ns ++ [name]).isEmpty = false := by simp
        exact .link hsize hup hitem (by rw [hrest]; rfl) hlinks htarget (hsame follow')
      · obtain ⟨above, hleads, heq⟩ := habove (asDir' || ns.isEmpty && (Files.names _).2)
        exact ⟨above, .link hsize hup hitem (by simp) hlinks htarget hleads, heq⟩

end Leads

namespace Files

variable {a b c fs : Files} {dir path name : String} {d l : Location} {follow : Bool}
  {found : Found}

def LeadsTo (fs : Files) (path : String) (l : Location) : Prop :=
  ∃ found, fs.find true path = .ok found ∧ found.location = l

theorem LeadsTo.unique {l' : Location} (h : fs.LeadsTo path l) (h' : fs.LeadsTo path l') :
    l = l' := by
  obtain ⟨found, hfound, rfl⟩ := h
  obtain ⟨found', hfound', rfl⟩ := h'
  rw [Except.ok.inj (hfound.symm.trans hfound')]

theorem LeadsTo.of_keeps (h : a.LeadsTo path l) (hitem : a.root.itemAt? l ≠ none)
    (hkeeps : a.root.Keeps b.root) (hdir : b.workingDir = a.workingDir) : b.LeadsTo path l := by
  obtain ⟨found, hfound, rfl⟩ := h
  refine ⟨_, find_keeps hfound hkeeps hdir ?_, rfl⟩
  intro hnone
  exact absurd (Node.at?_eq_none_iff.mp ((node_of_find hfound).symm.trans hnone)) hitem

/-- The location that relative paths behind a directory start from: without a directory this is
the working directory. -/
def BasedAt (fs : Files) (dir : String) (d : Location) : Prop :=
  dir = "" ∧ d = fs.workingDir ∨
    ∃ found, fs.find true dir = .ok found ∧ found.location = d ∧ fs.root.itemAt? d = some .dir

theorem exists_basedAt (h : dir = "" ∨ fs.isDir dir = true) : ∃ d, fs.BasedAt dir d := by
  rcases h with hempty | hdir
  · exact ⟨_, Or.inl ⟨hempty, rfl⟩⟩
  · obtain ⟨found, hfound, hitem⟩ := isDir_iff.mp hdir
    exact ⟨_, Or.inr ⟨found, hfound, rfl, hitem⟩⟩

/-- Where no link is met, a plain path behind a directory leads to the location that it names. -/
theorem LeadsTo.eq_append (h : fs.LeadsTo (Path.join dir path) l) (hbase : fs.BasedAt dir d)
    (hpath : Plain path)
    (hlinks : ∀ m target, m <+: pieces path → fs.root.itemAt? (d ++ m) ≠ some (.link target)) :
    l = d ++ pieces path := by
  obtain ⟨found, hfound, rfl⟩ := h
  rcases hbase with ⟨rfl, rfl⟩ | ⟨_, hdir, rfl, hitem⟩
  -- the empty path leads nowhere, so that the way from the working directory is followed here
  · have hjoin : Path.join "" path = path := by
      rw [Path.join, hpath.not_absolute, if_neg Bool.false_ne_true]
      exact String.empty_append
    have hleads := (find_eq_ok_iff.mp hfound).2
    rw [hjoin, start, hpath.not_absolute, if_neg Bool.false_ne_true, Path.names_fst,
      Path.components_of_plain hpath, Path.filterMap_step?_map_normal] at hleads
    exact (hleads.stays_below (fun hup => (hpath _ hup).ne_parent rfl) hlinks).1
  · exact location_of_find hdir hitem hlinks (Path.pieces_ne_nil path) hpath
      (Path.components_join dir hpath) hfound

theorem exists_above_of_find (hname : IsName name)
    (hlink : ∀ d target, fs.root.itemAt? (d ++ [name]) ≠ some (.link target))
    (h : fs.find follow (Path.join dir name) = .ok found) :
    ∃ d, found.location = d ++ [name] ∧
      (∀ follow', fs.find follow' (Path.join dir name) = .ok found) ∧
      (fs.root.itemAt? d = some .dir → fs.BasedAt dir d) := by
  obtain ⟨husable, hleads⟩ := find_eq_ok_iff.mp h
  have hcomponents := Path.components_join_name dir hname
  have hnames : (names (Path.join dir name)).1 = (names dir).1 ++ [name] := by
    rw [Path.names_fst, Path.names_fst, hcomponents, List.filterMap_append]
    rfl
  have hstart : fs.start (Path.join dir name) = fs.start dir := by
    rw [start, start, Path.isAbsolute_eq, Path.isAbsolute_eq, hcomponents, List.head?_append]
    cases (Path.components dir).head? <;> rfl
  rw [hnames] at hleads
  obtain ⟨d, hd, hsame, habove⟩ := hleads.exists_above hname.ne_parent hlink
  refine ⟨d, hd, fun follow' => find_eq_ok_iff.mpr ⟨husable, hnames ▸ hsame follow'⟩, ?_⟩
  intro hdir
  obtain ⟨above, hleads', rfl⟩ := habove (names dir).2
  rw [hstart] at hleads'
  obtain rfl | hne := eq_or_ne dir ""
  · left
    cases hleads'
    exact ⟨rfl, rfl⟩
  · right
    have husable' := Path.usable_of_join hne (Path.plain_of_isName hname).not_absolute husable
    exact ⟨above, find_eq_ok_iff.mpr ⟨husable', hleads'⟩, rfl, hdir⟩

/-! ## What is left as it was -/

/-- At a location stands what stood there, or a new directory. -/
def Unchanged (a b : Files) (l : Location) : Prop :=
  b.root.itemAt? l = a.root.itemAt? l ∨ a.root.itemAt? l = none ∧ b.root.itemAt? l = some .dir

theorem Unchanged.trans (hab : Unchanged a b l) (hbc : Unchanged b c l) : Unchanged a c l := by
  rcases hab with hab | ⟨hnone, hdir⟩
  · rcases hbc with hbc | ⟨hnone, hdir⟩
    · exact Or.inl (hbc.trans hab)
    · exact Or.inr ⟨hab ▸ hnone, hdir⟩
  · rcases hbc with hbc | ⟨hnone', _⟩
    · exact Or.inr ⟨hnone, hbc.trans hdir⟩
    · rw [hdir] at hnone'
      cases hnone'

theorem Unchanged.not_link (h : Unchanged a b l) {target : String}
    (ha : a.root.itemAt? l ≠ some (.link target)) : b.root.itemAt? l ≠ some (.link target) := by
  rcases h with heq | ⟨_, hdir⟩
  · rwa [heq]
  · rw [hdir]
    exact fun hlink => by cases hlink

theorem unchanged_of_placed {new : Node} {m : Location} (h : Placed a b new m) (hm : l ≠ m) :
    Unchanged a b l :=
  Or.inl (by rw [h.itemAt?, if_neg hm])

theorem DirsMade.unchanged (h : DirsMade a b) (l : Location) : Unchanged a b l := by
  induction h with
  | refl => exact Or.inl rfl
  | @step b c m _ hplaced hnone ih =>
    by_cases heq : l = m
    · subst heq
      exact ih.trans (Or.inr ⟨hnone, by rw [hplaced.itemAt?, if_pos rfl]; rfl⟩)
    · exact ih.trans (unchanged_of_placed hplaced heq)

end Files
end AppScaffold.Host

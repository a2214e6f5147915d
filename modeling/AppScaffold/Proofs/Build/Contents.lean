import AppScaffold.Proofs.Build.Packing
import AppScaffold.Proofs.Host.Clear

/-!
# What an archive of a directory holds

From any tree, any rule for what passes and any texts to add to the entries of the archive. Main
statement: `archive_holds_what_is_reached`, the files that pass behind directories that pass, in
the order of their locations, and then the texts.
-/

set_option autoImplicit false

namespace AppScaffold.Build

open Host (Files Fits HasDir Item Location Node Path.absolute outcome)
open Host.Path (IsName)

variable {keep : Location → Item → Bool} {extra : List (String × String)} {dir target : String}
  {tree : Node} {files : List (Location × ByteArray)} {before opened : Files}

/-! ## From a tree to an archive -/

theorem Selects.isName (h : Selects keep dir target tree files) (htree : tree.Sound)
    {f : Location × ByteArray} (hf : f ∈ files) : ∀ name ∈ f.1, IsName name := by
  obtain ⟨executable, hfile⟩ := h.exists_item hf
  exact htree.isName f.1 (hfile ▸ Option.some_ne_none _)

theorem outcome_of_shows (hshows : before.Shows dir tree)
    (hselects : Selects keep dir target tree files)
    (hopen : outcome (openTarget target) before = (.ok (), opened))
    (hself : SeesItself opened keep dir target) :
    outcome (packageWhere keep extra dir target) before =
      outcome (writeArchive target (files.map fileEntry ++ extra.map textEntry)) opened := by
  obtain ⟨d, n, hn, hsame⟩ := hshows
  exact outcome_packageWhere hn (hselects.congr hsame) hopen hself

theorem selects_walk_of_shows (hshows : before.Shows dir tree) (htree : tree.Sound)
    (hopen : outcome (openTarget target) before = (.ok (), opened))
    (hwithin : ¬ opened.Within dir target) :
    Selects keep dir target tree (tree.walk keep) := by
  obtain ⟨d, n, hn, hsame⟩ := hshows
  have hwalk : n.walk keep = tree.walk keep := Node.walk_congr hn.distinct htree.distinct hsame
  have hnames : ∀ f ∈ n.walk keep, ∀ name ∈ f.1, IsName name := by
    intro f hf
    obtain ⟨x, hfile, _⟩ := (Node.mem_walk_iff hn.distinct).mp hf
    exact htree.isName f.1 (hsame f.1 ▸ hfile ▸ Option.some_ne_none _)
  exact hwalk ▸ (selects_walk hn hnames hopen hwithin).congr fun l => (hsame l).symm

theorem exists_packed_of_shows (hshows : before.Shows dir tree) (htree : tree.Sound)
    (hselects : Selects keep dir target tree files) (hextra : (extra.map (·.1)).Nodup)
    (hother : ∀ e ∈ extra, ∀ f ∈ files, entryName f.1 ≠ e.1)
    (hopen : outcome (openTarget target) before = (.ok (), opened))
    (hself : SeesItself opened keep dir target) :
    ∃ summary after, outcome (packageWhere keep extra dir target) before = (.ok summary, after) ∧
      Packed target (files.map fileEntry ++ extra.map textEntry) summary after := by
  obtain ⟨d, n, hn, hsame⟩ := hshows
  obtain ⟨summary, after, hrun, _, hpacked⟩ := exists_packed hn (hselects.congr hsame)
    (fun f hf => hselects.isName htree hf) hextra hother hopen hself
  exact ⟨summary, after, hrun, hpacked⟩

/-! ## The archive of a tree -/

def filesWith (tree : Node) : Files := { root := .dir [("p", tree)] }

theorem hasDir_filesWith (hitem : tree.item = .dir) (htree : tree.Sound) :
    HasDir (filesWith tree) "/p" ["p"] tree := by
  have hfits : Fits ([] ++ ["p"]) := by decide
  have hpath : Path.absolute ([] ++ ["p"]) = "/p" := by decide
  have hat : (filesWith tree).root.at? ([] ++ ["p"]) = some tree := by
    rw [filesWith, List.nil_append, Node.at?_cons]
    exact Node.at?_nil tree
  have hend : Host.Ends true false ((filesWith tree).root.itemAt? ([] ++ ["p"])) := by
    rw [Node.itemAt?, hat, Option.map_some, hitem]
    trivial
  have hfind := Files.find_absolute hfits rfl hend
  rw [hpath, hat] at hfind
  exact ⟨⟨_, hfind⟩, hitem, htree.distinct⟩

theorem exists_opened_beside (hitem : tree.item = .dir) (htree : tree.Sound) (name : String)
    (hfits : Fits ([] ++ [name])) (hname : name ≠ "p") :
    ∃ opened, outcome (openTarget (Path.absolute ([] ++ [name]))) (filesWith tree) =
        (.ok (), opened) ∧ ¬ opened.Within "/p" (Path.absolute ([] ++ [name])) := by
  have hnone : (filesWith tree).root.itemAt? ([] ++ [name]) = none := by
    simp [filesWith, Node.itemAt?_cons, Keyed.lookup_cons_eq, hname]
  obtain ⟨opened, _, hwrite, _⟩ := Files.exists_write_absolute hfits rfl
    (fun x hx => by rw [hnone] at hx; cases hx) .empty
  have hfind : (filesWith tree).find true _ = _ := Files.find_absolute hfits rfl (hnone ▸ trivial)
  obtain ⟨found, _, hfound, hplaced, hfind'⟩ := Files.find_of_write hwrite
  obtain rfl := Except.ok.inj (hfind.symm.trans hfound)
  obtain ⟨n, ⟨⟨_, hdir⟩, _, _⟩, _⟩ := (hasDir_filesWith hitem htree).placed hplaced
  refine ⟨opened, outcome_openTarget (fun above habove => ?_) hwrite, ?_⟩
  · obtain rfl := Option.some.inj ((Host.Path.parent?_absolute hfits.isName).symm.trans habove)
    exact Files.createDirs_of_isDir (Files.isDir_absolute (by decide) rfl)
  · rintro ⟨root, archive, hroot, harchive, hbelow⟩
    cases hdir.symm.trans hroot
    cases hfind'.symm.trans harchive
    exact hname (List.cons_prefix_cons.mp hbelow).1.symm

end AppScaffold.Build

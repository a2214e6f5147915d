import AppScaffold.Proofs.Host.Parent
import AppScaffold.Proofs.Render.Paths

/-!
# Places of generated files

Every generated file has a name with a point in it, and no directory on the way to one has. So no
file of a project stands where another one needs a directory. The path of a file is one that a
system takes, if it is not too long.
-/

set_option autoImplicit false

namespace AppScaffold.Render

open Host.Path (IsName Plain pieces)

/-- A name with a point, in directories without one. -/
structure Filed (l : List String) : Prop where
  name : l.getLast?.any fun name => name.toList.contains '.'
  dirs : ∀ dir ∈ l.dropLast, '.' ∉ dir.toList

theorem filed_iff {l : List String} :
    Filed l ↔ (l.getLast?.any fun name => name.toList.contains '.') ∧
      ∀ dir ∈ l.dropLast, '.' ∉ dir.toList :=
  ⟨fun h => ⟨h.1, h.2⟩, fun h => ⟨h.1, h.2⟩⟩

instance (l : List String) : Decidable (Filed l) := decidable_of_iff _ filed_iff.symm

theorem filed_concat {dirs : List String} {name : String} (hname : '.' ∈ name.toList)
    (hdirs : ∀ dir ∈ dirs, '.' ∉ dir.toList) : Filed (dirs ++ [name]) where
  name := by
    rw [List.getLast?_concat]
    exact List.contains_iff_mem.mpr hname
  dirs := by rwa [List.dropLast_concat]

/-- No file is where another one needs a directory. -/
theorem Filed.eq_of_isPrefix {p q : List String} (hp : Filed p) (hq : Filed q) (h : p <+: q) :
    p = q := by
  obtain ⟨rest, rfl⟩ := h
  obtain ⟨name, hlast, hname⟩ := (Option.any_eq_true _ _).mp hp.name
  have hmem := List.mem_of_getLast? hlast
  obtain rfl | hrest := eq_or_ne rest []
  · exact (List.append_nil p).symm
  · have hdir : name ∈ (p ++ rest).dropLast := by
      rw [List.dropLast_append_of_ne_nil hrest]
      exact List.mem_append_left _ hmem
    exact absurd (List.contains_iff_mem.mp hname) (hq.dirs name hdir)

theorem filed_join {dir name : String} (hdir : Plain dir) (hname : IsName name)
    (hpoint : '.' ∈ name.toList) (hdirs : ∀ piece ∈ pieces dir, '.' ∉ piece.toList) :
    Filed (pieces (Host.Path.join dir name)) := by
  rw [Host.Path.join_of_plain hdir (Host.Path.plain_of_isName hname), Host.Path.pieces_slash,
    Host.Path.pieces_of_no_slash hname.no_slash]
  exact filed_concat hpoint hdirs

theorem mem_pieces_joinAll {base piece : String} {parts : List String} (hbase : Plain base)
    (hparts : ∀ part ∈ parts, IsName part) (h : piece ∈ pieces (Host.Path.joinAll base parts)) :
    piece ∈ pieces base ∨ piece ∈ parts := by
  induction parts generalizing base with
  | nil => exact Or.inl h
  | cons part parts ih =>
    obtain ⟨hpart, hparts⟩ := List.forall_mem_cons.mp hparts
    have hplain := Host.Path.plain_of_isName hpart
    rcases ih (hbase.join hplain) hparts h with hpiece | hpiece
    · rw [Host.Path.join_of_plain hbase hplain, Host.Path.pieces_slash,
        Host.Path.pieces_of_no_slash hpart.no_slash, List.mem_append, List.mem_singleton] at hpiece
      rcases hpiece with hpiece | rfl
      · exact Or.inl hpiece
      · exact Or.inr List.mem_cons_self
    · exact Or.inr (List.mem_cons_of_mem part hpiece)

theorem point_not_mem_sourceDir {r : RenderedProject} (h : r.PlainNames) {piece : String}
    (hpiece : piece ∈ pieces r.sourceDir) : '.' ∉ piece.toList := by
  have hjava : Plain (Host.Path.join mainDir "java") ∧
      ∀ piece ∈ pieces (Host.Path.join mainDir "java"), '.' ∉ piece.toList := by decide
  rcases mem_pieces_joinAll hjava.1 h.package hpiece with hbase | hpart
  · exact hjava.2 piece hbase
  · obtain ⟨cs, hcs, rfl⟩ := List.mem_map.mp (List.mem_filter.mp hpart).1
    intro hmem
    rw [String.toList_ofList] at hmem
    exact absurd (Text.sep_of_mem_splitBy hcs hmem) (by decide)

theorem RenderedProject.filed_files {r : RenderedProject} (h : r.PlainNames) :
    ∀ f ∈ r.files, Filed (pieces f.path) := by
  have hlayoutDir : Plain (Host.Path.join resDir "layout") ∧
      ∀ piece ∈ pieces (Host.Path.join resDir "layout"), '.' ∉ piece.toList := by decide
  intro f hf
  rcases cases_of_mem_files hf with hfixed | ⟨l, hl, rfl⟩ | ⟨a, ha, rfl⟩
  · have hall : ∀ path ∈ fixedPaths, Filed (pieces path) := by decide
    exact hall _ hfixed
  · exact filed_join hlayoutDir.1 (h.layouts l hl) (by simp) hlayoutDir.2
  · exact filed_join h.plain_sourceDir (h.isName_source ha) (by simp) fun _ =>
      point_not_mem_sourceDir h

/-! ## Characters -/

theorem not_mem_join {c : Char} {base part : String} (hslash : c ≠ '/') (hbase : c ∉ base.toList)
    (hpart : c ∉ part.toList) : c ∉ (Host.Path.join base part).toList := by
  unfold Host.Path.join
  split
  · exact hpart
  · split <;> simp [hslash, hbase, hpart]

theorem not_mem_joinAll {c : Char} {base : String} {parts : List String} (hslash : c ≠ '/')
    (hbase : c ∉ base.toList) (hparts : ∀ part ∈ parts, c ∉ part.toList) :
    c ∉ (Host.Path.joinAll base parts).toList := by
  induction parts generalizing base with
  | nil => exact hbase
  | cons part parts ih =>
    obtain ⟨hpart, hparts⟩ := List.forall_mem_cons.mp hparts
    exact ih (not_mem_join hslash hbase hpart) hparts

theorem zero_not_mem_of_isWord {s : String} (h : Pattern.isWord s.toList) :
    '\x00' ∉ s.toList := fun hmem =>
  Pattern.ne_of_isWordChar (Pattern.isWordChar_of_isWord h _ hmem) rfl rfl

theorem zero_not_mem_layoutName {id : String} (h : id.isEmpty ∨ Pattern.identifier.find id) :
    '\x00' ∉ (App.layoutName id).toList := by
  unfold App.layoutName
  split
  · simp
  · rcases h with hempty | hfind
    · simp [String.isEmpty_iff.mp hempty]
    · simp [zero_not_mem_of_isWord ((Pattern.identifier_find_iff id).mp hfind)]

theorem zero_not_mem_resource {name : String} (h : '\x00' ∉ name.toList) :
    '\x00' ∉ (Host.Path.join resDir name).toList :=
  not_mem_join (by decide) (by simp [resDir]) h

section Rendered

variable {requested : Nat} {p : App.Project} {home : App.Screen} {r : RenderedProject}

theorem Renders.zero_not_mem_sourceFile (h : Renders requested p home r)
    (hp : Check.Acceptable p) {a : Activity} (ha : '\x00' ∉ a.className.toList) :
    '\x00' ∉ (r.sourceFile a).path.toList := by
  have hsourceDir : '\x00' ∉ r.sourceDir.toList := by
    refine not_mem_joinAll (by decide)
      (not_mem_join (by decide) (by simp [mainDir]) (by simp)) fun part hpart => ?_
    rw [h.package] at hpart
    exact zero_not_mem_of_isWord (((Pattern.reverseDomain_find_iff p.package).mp hp.package).2
      part (List.mem_filter.mp hpart).1)
  exact not_mem_join (by decide) hsourceDir (by simp [ha])

theorem Renders.zero_not_mem_path (h : Renders requested p home r)
    (hhome : p.mainScreen? = some home) (hp : Check.Acceptable p) :
    ∀ f ∈ r.files, '\x00' ∉ f.path.toList := by
  intro f hf
  rcases RenderedProject.cases_of_mem_files hf with hfixed | ⟨l, hl, rfl⟩ | ⟨a, ha, rfl⟩
  · have hall : ∀ path ∈ fixedPaths, '\x00' ∉ path.toList := by decide
    exact hall _ hfixed
  · obtain ⟨s, hs, rfl⟩ := mem_layouts h hhome hl
    refine not_mem_join (by decide) (zero_not_mem_resource (by simp)) ?_
    rw [String.toList_append, List.mem_append, not_or]
    exact ⟨zero_not_mem_layoutName (hp.ids s hs), by simp⟩
  · apply h.zero_not_mem_sourceFile hp
    rw [h.allActivities] at ha
    rcases List.mem_cons.mp ha with rfl | ha
    · simp [Activity.main, mainActivityName]
    · obtain ⟨s, _, rfl⟩ := List.mem_map.mp ha
      simp [Activity.ofScreen, App.Screen.activityName, Text.isAsciiAlnum]

end Rendered

end AppScaffold.Render

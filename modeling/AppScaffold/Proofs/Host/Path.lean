import AppScaffold.Host.Path
import AppScaffold.Proofs.Text.Split

/-!
# Plain paths

A plain path is made of names alone: no piece between its slashes is empty, a dot or two dots. What
a plain path is joined onto stays a prefix, component by component.
-/

set_option autoImplicit false

namespace AppScaffold.Host.Path

open Text (splitBy)

/-- A text that stands for an entry of a directory. -/
structure IsName (s : String) : Prop where
  ne_empty : s ≠ ""
  ne_current : s ≠ "."
  ne_parent : s ≠ ".."
  no_slash : '/' ∉ s.toList

theorem isName_iff {s : String} :
    IsName s ↔ s ≠ "" ∧ s ≠ "." ∧ s ≠ ".." ∧ '/' ∉ s.toList :=
  ⟨fun h => ⟨h.1, h.2, h.3, h.4⟩, fun h => ⟨h.1, h.2.1, h.2.2.1, h.2.2.2⟩⟩

instance (s : String) : Decidable (IsName s) := decidable_of_iff _ isName_iff.symm

def Plain (path : String) : Prop := ∀ piece ∈ pieces path, IsName piece

instance (path : String) : Decidable (Plain path) :=
  inferInstanceAs (Decidable (∀ piece ∈ pieces path, IsName piece))

/-- The components of a path are those of a directory and one or more names behind them. -/
def StrictlyInside (dir path : String) : Prop :=
  ∃ names : List String, names ≠ [] ∧ (∀ n ∈ names, IsName n) ∧
    components path = components dir ++ names.map .normal

theorem isName_of_mem {s : String} {c : Char} (hc : c ∈ s.toList) (hdot : c ≠ '.')
    (hslash : '/' ∉ s.toList) : IsName s := by
  refine ⟨?_, ?_, ?_, hslash⟩
  all_goals
    rintro rfl
    simp_all

theorem component?_of_isName {s : String} (h : IsName s) : component? s = some (.normal s) := by
  unfold component?
  split
  · exact absurd rfl h.ne_empty
  · exact absurd rfl h.ne_current
  · exact absurd rfl h.ne_parent
  · rfl

theorem filterMap_component? {names : List String} (h : ∀ n ∈ names, IsName n) :
    names.filterMap component? = names.map .normal := by
  rw [← List.filterMap_eq_map]
  apply List.filterMap_congr
  intro n hn
  exact component?_of_isName (h n hn)

/-! ## Pieces -/

theorem pieces_ne_nil (path : String) : pieces path ≠ [] := by
  intro h
  exact Text.splitBy_ne_nil _ _ (List.map_eq_nil_iff.mp h)

theorem pieces_slash (s t : String) : pieces (s ++ "/" ++ t) = pieces s ++ pieces t := by
  have htext : (s ++ "/" ++ t).toList = s.toList ++ '/' :: t.toList := by simp
  rw [pieces, pieces, pieces, Text.splitOn, Text.splitOn, Text.splitOn, htext,
    Text.splitBy_append_cons rfl, List.map_append]

theorem pieces_trailing (s : String) : pieces (s ++ "/") = pieces s ++ [""] := by
  have htext : (s ++ "/").toList = s.toList ++ '/' :: [] := by simp
  rw [pieces, pieces, Text.splitOn, Text.splitOn, htext, Text.splitBy_append_cons rfl,
    List.map_append]
  rfl

theorem pieces_of_no_slash {s : String} (h : '/' ∉ s.toList) : pieces s = [s] := by
  have hfree : ∀ c ∈ s.toList, (c == '/') = false := by
    intro c hc
    rw [beq_eq_false_iff_ne]
    rintro rfl
    exact h hc
  rw [pieces, Text.splitOn, Text.splitBy_of_forall hfree, List.map_singleton, String.ofList_toList]

theorem plain_of_isName {s : String} (h : IsName s) : Plain s := by
  intro piece hpiece
  rw [pieces_of_no_slash h.no_slash] at hpiece
  exact List.mem_singleton.mp hpiece ▸ h

theorem Plain.ne_empty {path : String} (h : Plain path) : path ≠ "" := by
  rintro rfl
  exact (h "" (by rw [pieces_of_no_slash (by simp)]; exact List.mem_singleton.mpr rfl)).ne_empty rfl

theorem Plain.not_absolute {path : String} (h : Plain path) : isAbsolute path = false := by
  cases hhead : isAbsolute path with
  | false => rfl
  | true =>
    have hslash := List.head?_eq_some_iff.mp (eq_of_beq hhead)
    obtain ⟨rest, hrest⟩ := hslash
    have hmem : "" ∈ pieces path := by
      rw [pieces, Text.splitOn, hrest, Text.splitBy_cons_of_sep rfl]
      simp
    exact absurd rfl (h "" hmem).ne_empty

/-! ## Joining -/

/-- Joining a relative part puts one slash in between, unless there is one or nothing before. -/
theorem join_cases (base : String) {part : String} (h : isAbsolute part = false) :
    base = "" ∧ join base part = part ∨
      (∃ d, base = d ++ "/" ∧ join base part = d ++ "/" ++ part) ∨
      base ≠ "" ∧ join base part = base ++ "/" ++ part := by
  unfold join
  rw [h, if_neg Bool.false_ne_true]
  split
  · rename_i hend
    rcases Bool.or_eq_true_iff.mp hend with hempty | hlast
    · obtain rfl := String.isEmpty_iff.mp hempty
      exact Or.inl ⟨rfl, String.empty_append⟩
    · obtain ⟨cs, hcs⟩ := List.getLast?_eq_some_iff.mp (eq_of_beq hlast)
      have hbase : base = String.ofList cs ++ "/" := by
        rw [← String.toList_inj, hcs]
        simp
      exact Or.inr (Or.inl ⟨String.ofList cs, hbase, hbase ▸ rfl⟩)
  · rename_i hend
    refine Or.inr (Or.inr ⟨?_, rfl⟩)
    rintro rfl
    exact hend rfl

theorem exists_join_eq_append (base part : String) : ∃ s, join base part = s ++ part := by
  unfold join
  split
  · exact ⟨"", String.empty_append.symm⟩
  · split
    · exact ⟨base, rfl⟩
    · exact ⟨base ++ "/", rfl⟩

def lead : String → List PathComponent
  | "" => [.root]
  | "." => [.current]
  | name => (component? name).toList

theorem components_of_pieces {path p : String} {ps : List String} (hne : path ≠ "")
    (h : pieces path = p :: ps) : components path = lead p ++ ps.filterMap component? := by
  have hempty : path.isEmpty = false := by
    rw [Bool.eq_false_iff]
    exact fun h => hne (String.isEmpty_iff.mp h)
  rw [components, h]
  unfold lead
  split
  · rename_i heq
    exact absurd heq (List.cons_ne_nil _ _)
  · rename_i heq
    obtain ⟨rfl, rfl⟩ := List.cons.inj heq
    simp [hempty]
  · rename_i heq
    obtain ⟨rfl, rfl⟩ := List.cons.inj heq
    rfl
  · rename_i hroot hcurrent
    split
    · exact absurd rfl (hroot ps)
    · exact absurd rfl (hcurrent ps)
    · cases hp : component? p <;> simp [hp]

theorem lead_of_isName {s : String} (h : IsName s) : lead s = [.normal s] := by
  unfold lead
  split
  · exact absurd rfl h.ne_empty
  · exact absurd rfl h.ne_current
  · rw [component?_of_isName h]
    rfl

theorem components_of_plain {path : String} (h : Plain path) :
    components path = (pieces path).map .normal := by
  obtain ⟨p, ps, heq⟩ := List.exists_cons_of_ne_nil (pieces_ne_nil path)
  have hall : ∀ piece ∈ p :: ps, IsName piece := by
    rw [← heq]
    exact h
  obtain ⟨hp, hps⟩ := List.forall_mem_cons.mp hall
  rw [components_of_pieces h.ne_empty heq, lead_of_isName hp, filterMap_component? hps, heq]
  rfl

theorem append_ne_empty {s t : String} (h : t ≠ "") : s ++ t ≠ "" := fun heq =>
  h (String.append_eq_empty_iff.mp heq).2

/-- Joining a plain path adds its names to the components of a directory, whatever this is. -/
theorem components_join (dir : String) {path : String} (h : Plain path) :
    components (join dir path) = components dir ++ (pieces path).map .normal := by
  have hnames := filterMap_component? h
  rcases join_cases dir h.not_absolute with ⟨rfl, hjoin⟩ | ⟨d, rfl, hjoin⟩ | ⟨hdir, hjoin⟩
  · rw [hjoin, components_of_plain h]
    rfl
  · obtain ⟨p, ps, heq⟩ := List.exists_cons_of_ne_nil (pieces_ne_nil d)
    have hdir : pieces (d ++ "/") = p :: (ps ++ [""]) := by rw [pieces_trailing, heq]; rfl
    have hpath : pieces (d ++ "/" ++ path) = p :: (ps ++ pieces path) := by
      rw [pieces_slash, heq]
      rfl
    have hidle : [""].filterMap component? = [] := rfl
    rw [hjoin, components_of_pieces (append_ne_empty h.ne_empty) hpath,
      components_of_pieces (append_ne_empty (by simp)) hdir, List.filterMap_append,
      List.filterMap_append, hnames, hidle, List.append_nil, List.append_assoc]
  · obtain ⟨p, ps, heq⟩ := List.exists_cons_of_ne_nil (pieces_ne_nil dir)
    have hpath : pieces (dir ++ "/" ++ path) = p :: (ps ++ pieces path) := by
      rw [pieces_slash, heq]
      rfl
    rw [hjoin, components_of_pieces (append_ne_empty h.ne_empty) hpath,
      components_of_pieces hdir heq, List.filterMap_append, hnames, List.append_assoc]

theorem components_join_name (dir : String) {name : String} (h : IsName name) :
    components (join dir name) = components dir ++ [.normal name] := by
  rw [components_join dir (plain_of_isName h), pieces_of_no_slash h.no_slash]
  rfl

theorem joinSlash_pieces (path : String) : Text.joinWith "/" (pieces path) = path := by
  have h := Text.joinWith_splitBy '/' path.toList
  rwa [String.ofList_toList] at h

theorem components_inj {a b : String} (ha : Plain a) (hb : Plain b)
    (h : components a = components b) : a = b := by
  rw [components_of_plain ha, components_of_plain hb] at h
  have hinj : Function.Injective PathComponent.normal := fun _ _ => PathComponent.normal.inj
  rw [← joinSlash_pieces a, ← joinSlash_pieces b, List.map_injective_iff.mpr hinj h]

theorem join_of_plain {base part : String} (hbase : Plain base) (hpart : Plain part) :
    join base part = base ++ "/" ++ part := by
  rcases join_cases base hpart.not_absolute with ⟨rfl, _⟩ | ⟨d, rfl, _⟩ | ⟨_, hjoin⟩
  · exact absurd rfl hbase.ne_empty
  · have hmem : "" ∈ pieces (d ++ "/") := by
      rw [pieces_trailing]
      exact List.mem_append_right _ (List.mem_singleton.mpr rfl)
    exact absurd rfl (hbase "" hmem).ne_empty
  · exact hjoin

theorem Plain.join {base part : String} (hbase : Plain base) (hpart : Plain part) :
    Plain (join base part) := by
  intro piece hpiece
  rw [join_of_plain hbase hpart, pieces_slash] at hpiece
  exact (List.mem_append.mp hpiece).elim (hbase piece) (hpart piece)

theorem Plain.joinAll {base : String} {parts : List String} (hbase : Plain base)
    (hparts : ∀ part ∈ parts, Plain part) : Plain (joinAll base parts) := by
  induction parts generalizing base with
  | nil => exact hbase
  | cons part rest ih =>
    obtain ⟨hpart, hrest⟩ := List.forall_mem_cons.mp hparts
    exact ih (hbase.join hpart) hrest

theorem joinAll_of_plain {base : String} {parts : List String} (hbase : Plain base)
    (hparts : ∀ part ∈ parts, Plain part) (hne : parts ≠ []) :
    joinAll base parts = base ++ "/" ++ Text.joinWith "/" parts := by
  induction parts generalizing base with
  | nil => exact absurd rfl hne
  | cons part rest ih =>
    obtain ⟨hpart, hrest⟩ := List.forall_mem_cons.mp hparts
    change joinAll (Path.join base part) rest = _
    cases rest with
    | nil => exact join_of_plain hbase hpart
    | cons next rest =>
      rw [ih (hbase.join hpart) hrest (List.cons_ne_nil next rest), join_of_plain hbase hpart]
      simp only [Text.joinWith, String.append_assoc]

theorem strictlyInside_join (dir : String) {path : String} (h : Plain path) :
    StrictlyInside dir (Path.join dir path) :=
  ⟨pieces path, pieces_ne_nil path, h, components_join dir h⟩

end AppScaffold.Host.Path

import Mathlib.Data.List.DropRight
import AppScaffold.Proofs.Host.Resolve

/-!
# The directory above

The path above one that ends with a name: a start of its text, with the components before the name.
-/

set_option autoImplicit false

namespace AppScaffold.Host.Path

open Text (joinWith)

def idle (piece : String) : Bool := piece == "" || piece == "."

theorem component?_of_idle {piece : String} (h : idle piece) : component? piece = none := by
  rcases Bool.or_eq_true_iff.mp h with h | h
  · rw [eq_of_beq h]
    rfl
  · rw [eq_of_beq h]
    rfl

theorem not_idle_of_isName {name : String} (h : IsName name) : ¬ idle name := by
  simp [idle, h.ne_empty, h.ne_current]

theorem filterMap_rdropWhile_idle (ps : List String) :
    (ps.rdropWhile idle).filterMap component? = ps.filterMap component? := by
  have htail : (ps.rtakeWhile idle).filterMap component? = [] :=
    List.filterMap_eq_nil_iff.mpr fun p hp => component?_of_idle (List.mem_rtakeWhile_imp hp)
  conv_rhs => rw [← List.rdropWhile_append_rtakeWhile (p := idle) (l := ps)]
  rw [List.filterMap_append, htail, List.append_nil]

theorem slash_not_mem_pieces {path piece : String} (h : piece ∈ pieces path) :
    '/' ∉ piece.toList := by
  obtain ⟨cs, hcs, rfl⟩ := List.mem_map.mp h
  intro hmem
  rw [String.toList_ofList] at hmem
  exact absurd (Text.sep_of_mem_splitBy hcs hmem) (by decide)

theorem pieces_joinSlash {ps : List String} (hne : ps ≠ [])
    (h : ∀ p ∈ ps, '/' ∉ p.toList) : pieces (joinWith "/" ps) = ps := by
  induction ps with
  | nil => exact absurd rfl hne
  | cons p rest ih =>
    obtain ⟨hp, hrest⟩ := List.forall_mem_cons.mp h
    cases rest with
    | nil => exact pieces_of_no_slash hp
    | cons q rest =>
      change pieces (p ++ "/" ++ joinWith "/" (q :: rest)) = _
      rw [pieces_slash, pieces_of_no_slash hp, ih (List.cons_ne_nil q rest) hrest]
      rfl

theorem isAbsolute_of_pieces {path p : String} {ps : List String} (hps : ps ≠ [])
    (h : pieces path = p :: ps) : isAbsolute path = (p == "") := by
  have hne : path ≠ "" := by
    rintro rfl
    exact hps (List.cons.inj h).2.symm
  rw [isAbsolute_eq, components_of_pieces hne h]
  by_cases hp : p = ""
  · subst hp
    rfl
  · rw [head?_lead hp, beq_eq_false_iff_ne.mpr hp]

theorem isAbsolute_of_isName {path name : String} (hname : IsName name)
    (h : pieces path = [name]) : isAbsolute path = false :=
  Plain.not_absolute fun _ hpiece => List.mem_singleton.mp (h ▸ hpiece) ▸ hname

theorem parent?_of_body {path root : String} {parts : List String} (hparts : parts ≠ [])
    (h : body path = (root, parts)) :
    parent? path = some (root ++ joinWith "/" (if root.isEmpty then dropIdle parts.dropLast
      else parts.dropLast.rdropWhile idle)) := by
  obtain ⟨p, rest, rfl⟩ := List.exists_cons_of_ne_nil hparts
  rw [parent?, h]
  rfl

theorem parent?_eq {path name : String} {ps : List String} (hname : IsName name)
    (h : pieces path = ps ++ [name]) :
    parent? path = some (if isAbsolute path then "/" ++ joinWith "/" ((ps.drop 1).rdropWhile idle)
      else joinWith "/" (dropIdle ps)) := by
  have hlast (ps : List String) : (ps ++ [name]).rdropWhile idle = ps ++ [name] :=
    List.rdropWhile_concat_neg idle ps name (not_idle_of_isName hname)
  cases habsolute : isAbsolute path with
  | true =>
    have hdrop : (pieces path).drop 1 = ps.drop 1 ++ [name] := by
      cases ps with
      | nil => simp [isAbsolute_of_isName hname h] at habsolute
      | cons p ps => rw [h]; rfl
    have hbody : body path = ("/", ps.drop 1 ++ [name]) := by
      rw [body, if_pos habsolute, hdrop]
      exact congrArg (Prod.mk "/") (hlast (ps.drop 1))
    rw [parent?_of_body (List.concat_ne_nil _ _) hbody, List.dropLast_concat]
    rfl
  | false =>
    have hidle : dropIdle (ps ++ [name]) = ps ++ [name] := by
      change (if ((ps ++ [name]).rdropWhile idle).isEmpty && _ then _ else
        (ps ++ [name]).rdropWhile idle) = _
      rw [hlast]
      cases ps <;> rfl
    have hbody : body path = ("", ps ++ [name]) := by
      rw [body, habsolute, if_neg Bool.false_ne_true, h, hidle]
    rw [parent?_of_body (List.concat_ne_nil _ _) hbody, List.dropLast_concat]
    exact congrArg some String.empty_append

theorem filterMap_pieces_joinSlash {ps : List String} (h : ∀ p ∈ ps, '/' ∉ p.toList) :
    (pieces (joinWith "/" ps)).filterMap component? = ps.filterMap component? := by
  obtain rfl | hne := eq_or_ne ps []
  · rfl
  · rw [pieces_joinSlash hne h]

theorem exists_joinSlash_rdropWhile (ps more : List String) :
    ∃ rest, joinWith "/" (ps ++ more) = joinWith "/" (ps.rdropWhile idle) ++ rest := by
  obtain ⟨tail, htail⟩ := List.rdropWhile_prefix idle ps
  obtain ⟨rest, hrest⟩ :=
    Text.exists_joinWith_append "/" (ps.rdropWhile idle) (tail ++ more)
  refine ⟨rest, ?_⟩
  rw [← hrest, ← List.append_assoc, htail]

theorem filterMap_concat_isName (ps : List String) {name : String} (h : IsName name) :
    (ps ++ [name]).filterMap component? = ps.filterMap component? ++ [.normal name] := by
  rw [List.filterMap_append, filterMap_component? (List.forall_mem_singleton.mpr h)]
  rfl

structure IsAbove (above path name : String) : Prop where
  parent : parent? path = some above
  text : ∃ rest, path = above ++ rest
  components : components path = components above ++ [.normal name]

theorem isAbove_of_absolute {path name : String} {ps : List String} (hname : IsName name)
    (h : pieces path = "" :: (ps ++ [name])) :
    IsAbove ("/" ++ joinWith "/" (ps.rdropWhile idle)) path name where
  parent := by
    rw [@parent?_eq path name ("" :: ps) hname h,
      isAbsolute_of_pieces (List.concat_ne_nil _ _) h]
    rfl
  text := by
    obtain ⟨rest, hrest⟩ := exists_joinSlash_rdropWhile ps [name]
    have hslash : joinWith "/" ("" :: (ps ++ [name])) = "/" ++ joinWith "/" (ps ++ [name]) := by
      cases ps <;> rfl
    exact ⟨rest, by rw [← joinSlash_pieces path, h, hslash, hrest, String.append_assoc]⟩
  components := by
    have hslash : ∀ p ∈ ps.rdropWhile idle, '/' ∉ p.toList := fun p hp =>
      slash_not_mem_pieces (h ▸ List.mem_cons_of_mem "" (List.mem_append_left [name]
        ((List.rdropWhile_prefix idle ps).subset hp)))
    have habove : pieces ("/" ++ joinWith "/" (ps.rdropWhile idle)) =
        "" :: pieces (joinWith "/" (ps.rdropWhile idle)) :=
      pieces_slash "" (joinWith "/" (ps.rdropWhile idle))
    have hne : path ≠ "" := by
      rintro rfl
      simp [pieces_of_no_slash] at h
    have hne' : "/" ++ joinWith "/" (ps.rdropWhile idle) ≠ "" := by simp
    rw [components_of_pieces hne h, components_of_pieces hne' habove,
      filterMap_pieces_joinSlash hslash, filterMap_rdropWhile_idle,
      filterMap_concat_isName ps hname, List.append_assoc]

theorem dropIdle_cons {p : String} (hp : p ≠ "") (ps : List String) :
    ∃ kept, dropIdle (p :: ps) = p :: kept ∧ p :: kept <+: p :: ps ∧
      kept.filterMap component? = ps.filterMap component? := by
  have hdrop : dropIdle (p :: ps) = if (((p :: ps).rdropWhile idle).isEmpty && p == ".") = true
      then ["."] else (p :: ps).rdropWhile idle := rfl
  cases hkept : (p :: ps).rdropWhile idle with
  | nil =>
    have hidle := List.rdropWhile_eq_nil_iff.mp hkept
    obtain ⟨hp', hps⟩ := List.forall_mem_cons.mp hidle
    obtain rfl : p = "." := by simpa [idle, hp] using hp'
    refine ⟨[], by rw [hdrop, hkept]; rfl, List.cons_prefix_cons.mpr ⟨rfl, List.nil_prefix⟩, ?_⟩
    exact (List.filterMap_eq_nil_iff.mpr fun q hq => component?_of_idle (hps q hq)).symm
  | cons q kept =>
    have hstart : q :: kept <+: p :: ps := hkept ▸ List.rdropWhile_prefix idle (p :: ps)
    obtain ⟨rfl, _⟩ := List.cons_prefix_cons.mp hstart
    refine ⟨kept, by rw [hdrop, hkept]; rfl, hstart, ?_⟩
    have hmeaning := filterMap_rdropWhile_idle (q :: ps)
    rw [hkept, List.filterMap_cons, List.filterMap_cons] at hmeaning
    cases hq : component? q with
    | none => rwa [hq] at hmeaning
    | some c =>
      rw [hq] at hmeaning
      exact (List.cons.inj hmeaning).2

theorem isAbove_of_relative {path name : String} {ps : List String} (hname : IsName name)
    (h : pieces path = ps ++ [name]) (hrelative : isAbsolute path = false) :
    IsAbove (joinWith "/" (dropIdle ps)) path name := by
  have hparent : parent? path = some (joinWith "/" (dropIdle ps)) := by
    rw [parent?_eq hname h, hrelative]
    rfl
  have hne : path ≠ "" := by
    rintro rfl
    rw [pieces_of_no_slash (by simp)] at h
    have hlast := congrArg List.getLast? h
    rw [List.getLast?_concat] at hlast
    exact hname.ne_empty (Option.some.inj hlast).symm
  cases ps with
  | nil =>
    refine ⟨hparent, ⟨path, String.empty_append.symm⟩, ?_⟩
    rw [components_of_pieces hne h, lead_of_isName hname]
    rfl
  | cons p ps =>
    have h : pieces path = p :: (ps ++ [name]) := h
    -- An empty first piece would make the path absolute, so pieces are dropped at the end alone.
    have hp : p ≠ "" := by
      rintro rfl
      rw [isAbsolute_of_pieces (List.concat_ne_nil _ _) h] at hrelative
      cases hrelative
    obtain ⟨kept, hkept, ⟨tail, htail⟩, hmeaning⟩ := dropIdle_cons hp ps
    obtain ⟨rest, hrest⟩ := Text.exists_joinWith_append "/" (p :: kept) (tail ++ [name])
    have hpieces : pieces (joinWith "/" (p :: kept)) = p :: kept :=
      pieces_joinSlash (List.cons_ne_nil p kept) fun q hq => by
        refine @slash_not_mem_pieces path q ?_
        rw [h, ← List.cons_append, ← htail, List.append_assoc]
        exact List.mem_append_left _ hq
    have hne' : joinWith "/" (p :: kept) ≠ "" := by
      intro hempty
      rw [hempty] at hpieces
      exact hp (List.cons.inj hpieces).1.symm
    rw [hkept] at hparent ⊢
    refine ⟨hparent, ⟨rest, ?_⟩, ?_⟩
    · rw [← hrest, ← List.append_assoc, htail, List.cons_append, ← h, joinSlash_pieces]
    · rw [components_of_pieces hne h, components_of_pieces hne' hpieces, hmeaning,
        filterMap_concat_isName ps hname, List.append_assoc]

/-- Above a path that ends with a name are the components before this name. -/
theorem exists_isAbove {path name : String} {ps : List String} (hname : IsName name)
    (h : pieces path = ps ++ [name]) : ∃ above, IsAbove above path name := by
  cases habsolute : isAbsolute path with
  | false => exact ⟨_, isAbove_of_relative hname h habsolute⟩
  | true =>
    cases ps with
    | nil =>
      rw [isAbsolute_of_isName hname h] at habsolute
      cases habsolute
    | cons p ps =>
      rw [isAbsolute_of_pieces (List.concat_ne_nil _ _) h] at habsolute
      obtain rfl := eq_of_beq habsolute
      exact ⟨_, isAbove_of_absolute hname h⟩

theorem pieces_join (dir : String) {path : String} (h : Plain path) :
    ∃ ps, pieces (join dir path) = ps ++ pieces path := by
  rcases join_cases dir h.not_absolute with ⟨_, hjoin⟩ | ⟨d, _, hjoin⟩ | ⟨_, hjoin⟩
  · exact ⟨[], by rw [hjoin, List.nil_append]⟩
  · exact ⟨pieces d, by rw [hjoin, pieces_slash]⟩
  · exact ⟨pieces dir, by rw [hjoin, pieces_slash]⟩

theorem exists_parent_join (dir : String) {name : String} (h : IsName name) :
    ∃ above, IsAbove above (join dir name) name ∧ components above = components dir := by
  obtain ⟨ps, hps⟩ := pieces_join dir (plain_of_isName h)
  rw [pieces_of_no_slash h.no_slash] at hps
  obtain ⟨above, habove⟩ := exists_isAbove h hps
  refine ⟨above, habove, List.append_cancel_right (habove.components.symm.trans ?_)⟩
  rw [components_join dir (plain_of_isName h), pieces_of_no_slash h.no_slash]
  rfl

theorem components_ne_nil {path : String} (h : path ≠ "") : components path ≠ [] := by
  obtain ⟨p, ps, hps⟩ := List.exists_cons_of_ne_nil (pieces_ne_nil path)
  rw [components_of_pieces h hps]
  refine List.append_ne_nil_of_left_ne_nil ?_ _
  unfold lead
  split
  · exact List.cons_ne_nil _ _
  · exact List.cons_ne_nil _ _
  · unfold component?
    split
    all_goals first | contradiction | exact List.cons_ne_nil _ _

theorem usable_of_append {above rest : String} (h : Usable (above ++ rest)) (hne : above ≠ "") :
    Usable above where
  no_nul hmem := h.no_nul (by rw [String.toList_append]; exact List.mem_append_left _ hmem)
  ne_empty := hne
  size_le := by
    have hsize := h.size_le
    rw [String.utf8ByteSize_append] at hsize
    exact Nat.le_trans (Nat.le_add_right _ _) hsize

end AppScaffold.Host.Path

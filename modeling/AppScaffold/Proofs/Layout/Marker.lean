import AppScaffold.Proofs.Layout.Element
import AppScaffold.Proofs.Text.Occurrence

/-!
# Markers in printed markup

At how many places a text opens the comment that stands for children left out. An escaped value
opens no comment at all, and inside a comment the two hyphens of another opening are parted.
-/

set_option autoImplicit false

namespace AppScaffold.Render

open App (Component NavItem)
open Text (WholeLines occurrences)
open Xml (Attribute Markup indent partHyphens)

def markerStart : List Char := '<' :: '!' :: '-' :: '-' :: " Nesting limit of ".toList

def markers (text : String) : Nat := occurrences markerStart text.toList

theorem markers_append {s : String} (hs : WholeLines s.toList) (t : String) :
    markers (s ++ t) = markers s + markers t := by
  rw [markers, String.toList_append]
  exact Text.occurrences_append (by simp [markerStart]) (by simp [markerStart]) hs t.toList

/-- Whole lines in which no marker begins. -/
structure Unmarked (text : String) : Prop where
  wholeLines : WholeLines text.toList
  markers_eq : markers text = 0

theorem unmarked_empty : Unmarked "" :=
  ⟨Or.inl (by simp), by simp [markers, Text.occurrences_nil, markerStart]⟩

theorem Unmarked.append {s t : String} (hs : Unmarked s) (ht : Unmarked t) :
    Unmarked (s ++ t) := by
  refine ⟨?_, ?_⟩
  · rw [String.toList_append]
    exact hs.wholeLines.append ht.wholeLines
  · rw [markers_append hs.wholeLines, hs.markers_eq, ht.markers_eq]

theorem wholeLines_of_ending {s : String} (t : String) (h : s = t ++ "\n") :
    WholeLines s.toList :=
  Or.inr ⟨t.toList, by simp [h]⟩

theorem occurrences_of_lt_not_mem {xs : List Char} (h : '<' ∉ xs) (ys : List Char) :
    occurrences markerStart (xs ++ ys) = occurrences markerStart ys :=
  Text.occurrences_append_of_not_mem _ h ys

/-! ## Tags -/

theorem lt_not_mem_indent (level : Nat) : '<' ∉ (indent level).toList := fun h =>
  absurd (List.all_eq_true.mp (Xml.all_isSpace_indent level) _ h) (by decide)

theorem lt_not_mem_name {s : String} (h : Xml.isName s) : '<' ∉ s.toList := by
  obtain ⟨c, cs, heq, hc, hcs⟩ := Xml.toList_of_isName h
  rw [heq, List.mem_cons, not_or]
  exact ⟨(Xml.ne_of_isNameStart hc rfl).symm,
    fun hmem => absurd (List.all_eq_true.mp hcs _ hmem) (by decide)⟩

theorem lt_not_mem_escape (s : String) : '<' ∉ (Xml.escape s).toList := by
  rw [Xml.escape, String.toList_ofList]
  exact fun h => (Xml.mem_escapeChars h).2 rfl

theorem lt_not_mem_attributeLines (level : Nat) {attributes : List Attribute}
    (h : attributes.all fun a => Xml.isName a.name) :
    '<' ∉ (String.join (attributes.map fun a =>
      indent level ++ indent 1 ++ a.name ++ "=\"" ++ Xml.escape a.value ++ "\"\n")).toList := by
  have hname : ∀ a ∈ attributes, '<' ∉ a.name.toList := fun a ha =>
    lt_not_mem_name (List.all_eq_true.mp h a ha)
  simpa [lt_not_mem_indent, lt_not_mem_escape] using hname

/-- Behind the indentation of a tag comes an angle bracket, and neither an exclamation mark after
it nor a second bracket. -/
theorem markers_tag (level : Nat) {s : String} {c : Char} {cs : List Char}
    (hs : s.toList = (indent level).toList ++ '<' :: c :: cs) (hc : c ≠ '!')
    (hlt : '<' ∉ c :: cs) :
    markers s = 0 := by
  have hnot : ¬ markerStart <+: '<' :: c :: cs := by
    intro h
    have htail := (List.cons_prefix_cons.mp h).2
    exact hc (List.cons_prefix_cons.mp htail).1.symm
  rw [markers, hs, occurrences_of_lt_not_mem (lt_not_mem_indent level), Text.occurrences_cons,
    if_neg hnot, Nat.add_zero]
  exact Text.occurrences_of_not_mem _ hlt

theorem unmarked_startTag (level : Nat) {tag : String} {attributes : List Attribute}
    (htag : Xml.isName tag) (hnames : attributes.all fun a => Xml.isName a.name) (ending : String)
    (hlt : '<' ∉ ending.toList) :
    Unmarked (Xml.startTag level tag attributes ++ (ending ++ "\n")) := by
  obtain ⟨c, cs, heq, hc, -⟩ := Xml.toList_of_isName htag
  have htext : '<' ∉ c :: cs := heq ▸ lt_not_mem_name htag
  refine ⟨wholeLines_of_ending (Xml.startTag level tag attributes ++ ending)
    (by simp [String.append_assoc]), ?_⟩
  have hrest : '<' ∉ c :: cs ++ ("\n" ++ String.join (attributes.map fun a =>
      indent level ++ indent 1 ++ a.name ++ "=\"" ++ Xml.escape a.value ++ "\"\n") ++
        (ending ++ "\n")).toList := by
    simp only [String.toList_append, List.mem_append, not_or]
    exact ⟨htext, ⟨by simp, lt_not_mem_attributeLines level hnames⟩, hlt, by simp⟩
  refine markers_tag level ?_ (Xml.ne_of_isNameStart hc rfl) hrest
  simp [Xml.startTag, heq]

theorem unmarked_leaf (level : Nat) {tag : String} {attributes : List Attribute}
    (htag : Xml.isName tag) (hnames : attributes.all fun a => Xml.isName a.name) :
    Unmarked ((Markup.leaf tag attributes).print level) := by
  have htext := unmarked_startTag level htag hnames (indent level ++ "/>\n")
    (by simp [lt_not_mem_indent])
  simpa [Markup.print, Xml.selfClose, String.append_assoc] using htext

theorem unmarked_opening (level : Nat) {tag : String} {attributes : List Attribute}
    (htag : Xml.isName tag) (hnames : attributes.all fun a => Xml.isName a.name) :
    Unmarked (Xml.startTag level tag attributes ++ Xml.openBody level) := by
  have htext := unmarked_startTag level htag hnames (indent level ++ ">\n")
    (by simp [lt_not_mem_indent])
  simpa [Xml.openBody, String.append_assoc] using htext

theorem unmarked_closeTag (level : Nat) {tag : String} (htag : Xml.isName tag) :
    Unmarked (Xml.closeTag level tag) := by
  have htext : (Xml.closeTag level tag).toList =
      (indent level).toList ++ '<' :: '/' :: (tag.toList ++ ">\n\n".toList) := by
    simp [Xml.closeTag]
  have hlt : '<' ∉ '/' :: (tag.toList ++ ">\n\n".toList) := by simp [lt_not_mem_name htag]
  exact ⟨wholeLines_of_ending (indent level ++ "</" ++ tag ++ ">\n")
    (by simp [Xml.closeTag, String.append_assoc]), markers_tag level htext (by decide) hlt⟩

/-! ## Comments -/

theorem markerStart_not_at_lt (cs ys : List Char) :
    ¬ markerStart <+: '<' :: (partHyphens cs ++ ' ' :: ys) := by
  intro h
  have htail := (List.cons_prefix_cons.mp h).2
  have hhead := Xml.head?_partHyphens cs
  cases cs with
  | nil => exact absurd (List.cons_prefix_cons.mp htail).1 (by decide)
  | cons d ds =>
    have hbang : d = '!' := by
      cases hpart : partHyphens (d :: ds) with
      | nil => simp [hpart] at hhead
      | cons e es =>
        rw [hpart] at htail hhead
        exact (Option.some.inj hhead).symm.trans (List.cons_prefix_cons.mp htail).1.symm
    subst hbang
    have hpart : partHyphens (['!'] ++ ds) = ['!'] ++ partHyphens ds :=
      Xml.partHyphens_append (by decide) ds
    change _ <+: partHyphens (['!'] ++ ds) ++ ' ' :: ys at htail
    rw [hpart] at htail
    exact Xml.not_pair_prefix_partHyphens _ ds ys (List.cons_prefix_cons.mp htail).2

theorem occurrences_partHyphens (cs ys : List Char) :
    occurrences markerStart (partHyphens cs ++ ' ' :: ys) = occurrences markerStart ys := by
  have hskip (c : Char) (rest : List Char) (hc : c ≠ '<') :
      occurrences markerStart (c :: rest) = occurrences markerStart rest :=
    Text.occurrences_cons_of_ne _ rest hc
  fun_induction partHyphens cs with
  | case1 cs ih =>
    simp only [List.cons_append]
    rw [hskip _ _ (by decide), hskip _ _ (by decide), hskip _ _ (by decide), ih]
  | case2 c cs hpair ih =>
    rw [List.cons_append]
    by_cases hc : c = '<'
    · rw [hc, Text.occurrences_cons, if_neg (markerStart_not_at_lt cs ys), Nat.add_zero, ih]
    · rw [hskip _ _ hc, ih]
  | case3 => exact hskip _ _ (by decide)

theorem unmarked_unknown (level : Nat) (kind : String) :
    Unmarked (Xml.comment level ("Unknown component type: " ++ kind)) := by
  refine ⟨wholeLines_of_ending (indent level ++ "<!-- " ++
    Xml.commentText ("Unknown component type: " ++ kind) ++ " -->")
    (by simp [Xml.comment, String.append_assoc]), ?_⟩
  have htext : (Xml.comment level ("Unknown component type: " ++ kind)).toList =
      (indent level).toList ++ '<' :: ("!-- Unknown component type: ".toList ++
        (partHyphens kind.toList ++ ' ' :: "-->\n".toList)) := by
    simp only [Xml.comment, Xml.commentText, String.toList_append, String.toList_ofList]
    rw [Xml.partHyphens_append (by simp)]
    simp
  have hnot : ¬ markerStart <+: '<' :: ("!-- Unknown component type: ".toList ++
      (partHyphens kind.toList ++ ' ' :: "-->\n".toList)) := by
    simp [markerStart]
  rw [markers, htext, occurrences_of_lt_not_mem (lt_not_mem_indent level), Text.occurrences_cons,
    if_neg hnot, Nat.add_zero, occurrences_of_lt_not_mem (by simp), occurrences_partHyphens]
  exact Text.occurrences_of_not_mem _ (by simp)

theorem wholeLines_comment (level : Nat) (text : String) :
    WholeLines (Xml.comment level text).toList :=
  wholeLines_of_ending (indent level ++ "<!-- " ++ Xml.commentText text ++ " -->")
    (by simp [Xml.comment, String.append_assoc])

theorem markers_omission (level limit : Nat) :
    markers (Xml.comment level (omissionText limit)) = 1 := by
  have htext : (Xml.comment level (omissionText limit)).toList =
      (indent level).toList ++ (markerStart ++
        (Nat.repr limit ++ " reached; children omitted -->\n").toList) := by
    rw [Xml.comment, Xml.commentText,
      Xml.partHyphens_of_hyphensApart (hyphensApart_omissionText limit), String.ofList_toList]
    unfold omissionText
    simp [markerStart]
  have hrest : '<' ∉ (Nat.repr limit ++ " reached; children omitted -->\n").toList := by
    simp [not_mem_toDigits (c := '<') rfl]
  rw [markers, htext, occurrences_of_lt_not_mem (lt_not_mem_indent level)]
  exact Text.occurrences_self_append (by simp) hrest

/-! ## Views without children -/

theorem unmarked_group (level : Nat) {tag : String} {attributes : List Attribute}
    {body : List Markup} (htag : Xml.isName tag)
    (hnames : attributes.all fun a => Xml.isName a.name)
    (hbody : Unmarked (Markup.printAll (level + 1) body)) :
    Unmarked ((Markup.group tag attributes body).print level) :=
  ((unmarked_opening level htag hnames).append hbody).append (unmarked_closeTag level htag)

theorem unmarked_navButtons (level index : Nat) (items : List NavItem) :
    Unmarked (Markup.printAll level (navButtons index items)) := by
  induction items generalizing index with
  | nil => exact unmarked_empty
  | cons item rest ih =>
    have hnames := (readable_navButtons index (item :: rest)).1.2
    exact (unmarked_leaf level rfl (List.all_eq_true.mpr hnames)).append (ih (index + 1))

end AppScaffold.Render

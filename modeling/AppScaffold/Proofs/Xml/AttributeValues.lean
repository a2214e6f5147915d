import AppScaffold.Proofs.Xml.Processor
import AppScaffold.Proofs.Xml.RoundTrip

/-!
# Values of attributes

What a processor reads from the attributes of a printed element. All marks of XML are written as
references and come back; a tab or an end of a line is written as itself and comes back as a blank.
Main statement: `attribute_values_read_back_iff`.
-/

set_option autoImplicit false

namespace AppScaffold.Xml.Processor

/-! ## Ends of lines -/

theorem lineEnds_cons {c : Char} (h : c ≠ '\r') (cs : List Char) :
    lineEnds (c :: cs) = c :: lineEnds cs := by
  rw [lineEnds.eq_def]
  split <;> simp_all

theorem lineEnds_append {xs : List Char} (h : '\r' ∉ xs) (ys : List Char) :
    lineEnds (xs ++ ys) = xs ++ lineEnds ys := by
  induction xs with
  | nil => rfl
  | cons c xs ih =>
    obtain ⟨hc, hxs⟩ := not_or.mp (List.mem_cons.not.mp h)
    rw [List.cons_append, lineEnds_cons (Ne.symm hc), ih hxs, List.cons_append]

theorem lineEnds_of_not_mem {cs : List Char} (h : '\r' ∉ cs) : lineEnds cs = cs := by
  have happend := lineEnds_append h []
  rwa [List.append_nil, lineEnds, List.append_nil] at happend

theorem lineEnds_return {cs : List Char} (h : cs.head? ≠ some '\n') :
    lineEnds ('\r' :: cs) = '\n' :: lineEnds cs := by
  cases cs with
  | nil => rfl
  | cons c cs =>
    rw [lineEnds]
    rintro _ ⟨rfl, _⟩
    exact h rfl

theorem return_not_mem_escapeChar {c : Char} (h : c ≠ '\r') : '\r' ∉ escapeChar c := by
  unfold escapeChar
  split
  case h_5 => simpa using Ne.symm h
  all_goals simp

theorem head?_escapeChar (c : Char) (h : c ≠ '\n') (rest : List Char) :
    (escapeChar c ++ rest).head? ≠ some '\n' := by
  unfold escapeChar
  split
  case h_5 => simpa using h
  all_goals simp

/-- An escaped text that a mark follows has the ends of lines of the text. -/
theorem lineEnds_escapeChars (cs : List Char) {c : Char} (hc : c ≠ '\n') (rest : List Char) :
    lineEnds (escapeChars cs ++ c :: rest) = escapeChars (lineEnds cs) ++ lineEnds (c :: rest) := by
  fun_induction lineEnds cs with
  | case1 cs ih =>
    have hpair : escapeChars ('\r' :: '\n' :: cs) = '\r' :: '\n' :: escapeChars cs := rfl
    rw [hpair, List.cons_append, List.cons_append, lineEnds, ih]
    rfl
  | case2 cs hcs ih =>
    have hhead : escapeChars ('\r' :: cs) = '\r' :: escapeChars cs := rfl
    -- The return stands alone in the text, and no escape puts a line feed behind it.
    have hnext : (escapeChars cs ++ c :: rest).head? ≠ some '\n' := by
      cases cs with
      | nil => simpa [escapeChars] using hc
      | cons d ds =>
        have hd : d ≠ '\n' := by
          rintro rfl
          exact hcs ds rfl
        have hsplit : escapeChars (d :: ds) = escapeChar d ++ escapeChars ds := rfl
        rw [hsplit, List.append_assoc]
        exact head?_escapeChar d hd _
    rw [hhead, List.cons_append, lineEnds_return hnext, ih]
    rfl
  | case3 d cs _ hd ih =>
    have hsplit (ds : List Char) : escapeChars (d :: ds) = escapeChar d ++ escapeChars ds := rfl
    rw [hsplit, hsplit, List.append_assoc, List.append_assoc,
      lineEnds_append (return_not_mem_escapeChar hd), ih]
  | case4 => rfl

theorem all_isAllowed_lineEnds (cs : List Char) :
    (lineEnds cs).all isAllowed = cs.all isAllowed := by
  have hreturn : isAllowed '\r' = true := rfl
  have hfeed : isAllowed '\n' = true := rfl
  fun_induction lineEnds cs with
  | case1 cs ih => simp [hreturn, hfeed, ih]
  | case2 cs _ ih => simp [hreturn, hfeed, ih]
  | case3 c cs _ _ ih => simp [ih]
  | case4 => rfl

/-! ## What a value is read as -/

def readValue (cs : List Char) : List Char := (lineEnds cs).map blankOf

theorem readValue_eq_self_iff {cs : List Char} :
    readValue cs = cs ↔ ∀ c ∈ cs, c ≠ '\t' ∧ c ≠ '\n' ∧ c ≠ '\r' := by
  constructor
  · intro h c hc
    -- What is read holds none of the three, whatever it is read from.
    have hblank (d : Char) : blankOf d ≠ '\t' ∧ blankOf d ≠ '\n' ∧ blankOf d ≠ '\r' := by
      unfold blankOf
      split
      · decide
      · rename_i hspace
        simp only [isSpace, Bool.or_eq_true, beq_iff_eq, not_or] at hspace
        exact ⟨hspace.1.1.2, hspace.2, hspace.1.2⟩
    rw [← h] at hc
    obtain ⟨d, _, rfl⟩ := List.mem_map.mp hc
    exact hblank d
  · intro h
    have hreturn : '\r' ∉ cs := fun hmem => (h '\r' hmem).2.2 rfl
    have hblank : ∀ c ∈ cs, blankOf c = c := by
      intro c hc
      obtain ⟨htab, hfeed, hreturn⟩ := h c hc
      by_cases hspace : c = ' '
      · rw [hspace]
        rfl
      · simp [blankOf, isSpace, hspace, htab, hfeed, hreturn]
    rw [readValue, lineEnds_of_not_mem hreturn, List.map_congr_left hblank, List.map_id']

/-! ## Runs of the processor -/

namespace Mode

theorem run_append (m : Mode) (xs ys : List Char) :
    m.run (xs ++ ys) = (m.run xs).bind fun next => next.run ys := by
  rw [run, List.foldlM_append]
  rfl

theorem run_cons (m : Mode) (c : Char) (cs : List Char) :
    m.run (c :: cs) = (m.step c).bind fun next => next.run cs := by
  rw [run, List.foldlM_cons]
  rfl

/-- A mode that takes every character of a kind by growing what it has seen. -/
theorem run_grow (grow : List Char → Mode) {p : Char → Bool}
    (hstep : ∀ seen c, p c → (grow seen).step c = some (grow (seen ++ [c])))
    {cs : List Char} (hcs : cs.all p) (seen : List Char) :
    (grow seen).run cs = some (grow (seen ++ cs)) := by
  induction cs generalizing seen with
  | nil =>
    rw [List.append_nil]
    rfl
  | cons c cs ih =>
    obtain ⟨hc, hrest⟩ := Bool.and_eq_true_iff.mp (List.all_cons ▸ hcs)
    rw [run_cons, hstep seen c hc, Option.bind_some, ih hrest, List.append_assoc,
      List.singleton_append]

theorem run_closed (tag : Tag) (cs : List Char) : (closed tag).run cs = some (.closed tag) :=
  run_grow (fun _ => .closed tag) (p := fun _ => true) (fun _ _ _ => rfl) (by simp) []

theorem run_blank {m : Mode} (hstep : ∀ c, isSpace c → m.step c = some m) {cs : List Char}
    (hcs : cs.all isSpace) : m.run cs = some m :=
  run_grow (fun _ => m) (fun _ c hc => hstep c hc) hcs []

theorem run_escapeChar (tag : Tag) (key seen : List Char) (c : Char) :
    (value tag key '"' seen).run (escapeChar c) =
      if isAllowed c then some (.value tag key '"' (seen ++ [blankOf c])) else none := by
  unfold escapeChar
  split
  case h_5 =>
    rename_i hamp hlt _ hquote
    rw [run_cons, step, if_neg hquote, if_neg hamp]
    by_cases hallowed : isAllowed c
    · have hmark : ¬ (c = '<' ∨ isAllowed c = false) := by
        rintro (hc | hc)
        · exact hlt hc
        · simp [hallowed] at hc
      rw [if_neg hmark, if_pos hallowed]
      rfl
    · simp [hallowed]
  all_goals rfl

theorem run_escapeChars (tag : Tag) (key seen cs : List Char) :
    (value tag key '"' seen).run (escapeChars cs) =
      if cs.all isAllowed then some (.value tag key '"' (seen ++ cs.map blankOf)) else none := by
  induction cs generalizing seen with
  | nil =>
    rw [List.map_nil, List.append_nil]
    rfl
  | cons c cs ih =>
    have hsplit : escapeChars (c :: cs) = escapeChar c ++ escapeChars cs := rfl
    rw [hsplit, run_append, run_escapeChar]
    by_cases hallowed : isAllowed c
    · rw [if_pos hallowed, Option.bind_some, ih, List.all_cons, hallowed, Bool.true_and,
        List.append_assoc, List.map_cons, List.singleton_append]
    · simp [hallowed]

end Mode

/-! ## Names -/

def isName (s : String) : Bool :=
  match s.toList with
  | [] => false
  | c :: cs => startsName c && cs.all inName

theorem toList_of_isName {s : String} (h : isName s) :
    ∃ c cs, s.toList = c :: cs ∧ startsName c ∧ cs.all inName := by
  unfold isName at h
  split at h
  · simp at h
  · rename_i c cs heq
    obtain ⟨hc, hcs⟩ := Bool.and_eq_true_iff.mp h
    exact ⟨c, cs, heq, hc, hcs⟩

theorem ne_of_inName {c x : Char} (hc : inName c) (hx : inName x = false) : c ≠ x := by
  rintro rfl
  simp [hc] at hx

theorem ne_of_startsName {c x : Char} (hc : startsName c) (hx : inName x = false) : c ≠ x := by
  apply ne_of_inName _ hx
  simp [inName, hc]

theorem not_isSpace_of_startsName {c : Char} (h : startsName c) : isSpace c = false := by
  have hne (x : Char) (hx : inName x = false) : (c == x) = false :=
    beq_eq_false_iff_ne.mpr (ne_of_startsName h hx)
  simp [isSpace, hne ' ' (by decide), hne '\t' (by decide), hne '\r' (by decide),
    hne '\n' (by decide)]

theorem return_not_mem_of_isName {s : String} (h : isName s) : '\r' ∉ s.toList := by
  obtain ⟨c, cs, heq, hc, hcs⟩ := toList_of_isName h
  rw [heq]
  intro hmem
  rcases List.mem_cons.mp hmem with hfirst | hrest
  · exact ne_of_startsName hc (by decide) hfirst.symm
  · exact ne_of_inName (List.all_eq_true.mp hcs _ hrest) (by decide) rfl

theorem return_not_mem_indent (level : Nat) : '\r' ∉ (indent level).toList := by
  intro hmem
  unfold indent Text.repeated at hmem
  rw [String.toList_join] at hmem
  obtain ⟨_, hs, hc⟩ := List.mem_flatMap.mp hmem
  obtain ⟨_, rfl⟩ := List.mem_replicate.mp hs
  simp at hc

namespace Mode

theorem run_tagName {tag : String} (h : isName tag) :
    opening.run tag.toList = some (.name tag.toList) := by
  obtain ⟨c, cs, heq, hc, hcs⟩ := toList_of_isName h
  have hfirst : opening.step c = some (.name [c]) := by simp [step, hc]
  have hrest := run_grow .name (fun seen x hx => by simp [step, hx]) hcs [c]
  rw [heq, run_cons, hfirst, Option.bind_some, hrest]
  rfl

theorem run_key {key : String} (h : isName key) (tag : Tag) :
    (inside tag true).run key.toList = some (.naming tag key.toList) := by
  obtain ⟨c, cs, heq, hc, hcs⟩ := toList_of_isName h
  have hfirst : (inside tag true).step c = some (.naming tag [c]) := by
    simp [step, stepInside, hc, not_isSpace_of_startsName hc,
      ne_of_startsName hc (x := '/') (by decide), ne_of_startsName hc (x := '>') (by decide)]
  have hrest := run_grow (.naming tag) (fun seen x hx => by simp [step, hx]) hcs [c]
  rw [heq, run_cons, hfirst, Option.bind_some, hrest]
  rfl

theorem run_indent (tag : Tag) (level : Nat) :
    (inside tag true).run (indent level).toList = some (.inside tag true) :=
  run_blank (fun _ hc => by simp [step, stepInside, hc]) (all_isSpace_indent level)

end Mode

/-! ## Printed attributes -/

def isWritable (a : Attribute) : Bool := a.value.toList.all isAllowed

def readAttribute (a : Attribute) : Attribute := ⟨a.name, String.ofList (readValue a.value.toList)⟩

theorem readAttribute_eq_self_iff {a : Attribute} :
    readAttribute a = a ↔ ∀ c ∈ a.value.toList, c ≠ '\t' ∧ c ≠ '\n' ∧ c ≠ '\r' := by
  rw [← readValue_eq_self_iff]
  constructor
  · intro h
    simpa [readAttribute] using congrArg (fun b : Attribute => b.value.toList) h
  · intro h
    rw [readAttribute, h, String.ofList_toList]

def attributeLine (level : Nat) (a : Attribute) : String :=
  indent level ++ indent 1 ++ a.name ++ "=\"" ++ escape a.value ++ "\"\n"

namespace Mode

theorem run_attributeLine (level : Nat) {a : Attribute} (h : isName a.name) (tag : Tag)
    (rest : List Char) :
    (inside tag true).run (lineEnds ((attributeLine level a).toList ++ rest)) =
      if isWritable a then
        (inside ⟨tag.name, tag.attributes ++ [readAttribute a]⟩ true).run (lineEnds rest)
      else none := by
  have hsplit : (attributeLine level a).toList ++ rest =
      (indent level).toList ++ ((indent 1).toList ++ (a.name.toList ++ ('=' :: '"' ::
        (escapeChars a.value.toList ++ '"' :: '\n' :: rest)))) := by
    simp [attributeLine, escape, String.toList_append]
  have hequals (cs : List Char) : (naming tag a.name.toList).run ('=' :: '"' :: cs) =
      (value tag a.name.toList '"' []).run cs := by
    have hname : inName '=' = false := by decide
    have hspace : isSpace '=' = false := rfl
    have hquote : isSpace '"' = false := rfl
    simp [run_cons, step, stepKey, hname, hspace, hquote]
  have hend (cs : List Char) : (value tag a.name.toList '"' (readValue a.value.toList)).run
      ('"' :: '\n' :: cs) =
        (inside ⟨tag.name, tag.attributes ++ [readAttribute a]⟩ true).run cs := by
    simp [run_cons, step, stepInside, isSpace, Tag.add, readAttribute]
  rw [hsplit, lineEnds_append (return_not_mem_indent level),
    lineEnds_append (return_not_mem_indent 1), lineEnds_append (return_not_mem_of_isName h),
    lineEnds_cons (by decide), lineEnds_cons (by decide), lineEnds_escapeChars _ (by decide),
    lineEnds_cons (by decide), lineEnds_cons (by decide), run_append, run_indent, Option.bind_some,
    run_append, run_indent, Option.bind_some, run_append, run_key h, Option.bind_some, hequals,
    run_append, run_escapeChars, all_isAllowed_lineEnds, isWritable]
  split
  · exact hend _
  · rfl

theorem run_attributeLines (level : Nat) {attributes : List Attribute}
    (h : ∀ a ∈ attributes, isName a.name) (tag : Tag) (rest : List Char) :
    (inside tag true).run
        (lineEnds ((String.join (attributes.map (attributeLine level))).toList ++ rest)) =
      if attributes.all isWritable then
        (inside ⟨tag.name, tag.attributes ++ attributes.map readAttribute⟩ true).run (lineEnds rest)
      else none := by
  induction attributes generalizing tag with
  | nil => simp
  | cons a attributes ih =>
    obtain ⟨ha, hrest⟩ := List.forall_mem_cons.mp h
    rw [List.map_cons, String.join_cons, String.toList_append, List.append_assoc,
      run_attributeLine level ha]
    by_cases hwritable : isWritable a
    · rw [if_pos hwritable, ih hrest, List.all_cons, hwritable, Bool.true_and, List.map_cons,
        List.append_assoc, List.singleton_append]
    · simp [hwritable]

theorem run_startTag (level : Nat) {tag : Tag} (htag : isName tag.name)
    (h : ∀ a ∈ tag.attributes, isName a.name) (rest : List Char) :
    before.run (lineEnds ((startTag level tag.name tag.attributes).toList ++ rest)) =
      if tag.attributes.all isWritable then
        (inside ⟨tag.name, tag.attributes.map readAttribute⟩ true).run (lineEnds rest)
      else none := by
  have hsplit : (startTag level tag.name tag.attributes).toList ++ rest =
      (indent level).toList ++ ('<' :: (tag.name.toList ++ ('\n' ::
        ((String.join (tag.attributes.map (attributeLine level))).toList ++ rest)))) := by
    simp only [startTag, String.toList_append, List.append_assoc]
    rfl
  have hindent : before.run (indent level).toList = some .before :=
    run_blank (fun _ hc => by simp [step, hc]) (all_isSpace_indent level)
  have hopen (cs : List Char) : before.run ('<' :: cs) = opening.run cs := rfl
  have hline (cs : List Char) : (name tag.name.toList).run ('\n' :: cs) =
      (inside ⟨tag.name, []⟩ true).run cs := by
    have hfeed : inName '\n' = false := by decide
    simp [run_cons, step, stepInside, isSpace, hfeed]
  rw [hsplit, lineEnds_append (return_not_mem_indent level), lineEnds_cons (by decide),
    lineEnds_append (return_not_mem_of_isName htag), lineEnds_cons (by decide), run_append,
    hindent, Option.bind_some, hopen, run_append, run_tagName htag, Option.bind_some, hline,
    run_attributeLines level h, List.nil_append]

end Mode

/-! ## Printed elements -/

/-- The tag that a piece of markup begins with, unless it is a comment. -/
def tag? : Markup → Option Tag
  | .comment _ => none
  | .leaf tag attributes => some ⟨tag, attributes⟩
  | .group tag attributes _ => some ⟨tag, attributes⟩

def Tag.Named (t : Tag) : Prop := isName t.name ∧ ∀ a ∈ t.attributes, isName a.name

theorem readTag?_startTag {t : Tag} (h : t.Named) (level : Nat) {rest : String}
    (hrest : (Mode.inside ⟨t.name, t.attributes.map readAttribute⟩ true).run
      (lineEnds rest.toList) = some (.closed ⟨t.name, t.attributes.map readAttribute⟩)) :
    readTag? (startTag level t.name t.attributes ++ rest) =
      if t.attributes.all isWritable then some ⟨t.name, t.attributes.map readAttribute⟩
      else none := by
  rw [readTag?, String.toList_append, Mode.run_startTag level h.1 h.2, hrest]
  by_cases hwritable : t.attributes.all isWritable
  · rw [if_pos hwritable, if_pos hwritable]
  · rw [if_neg hwritable, if_neg hwritable]

theorem readTag?_print {m : Markup} {t : Tag} (hm : tag? m = some t) (h : t.Named) (level : Nat) :
    readTag? (m.print level) =
      if t.attributes.all isWritable then some ⟨t.name, t.attributes.map readAttribute⟩
      else none := by
  have hclose (tag : Tag) (cs : List Char) : (Mode.inside tag true).run ('/' :: '>' :: cs) =
      some (.closed tag) := by
    simp [Mode.run_cons, Mode.step, Mode.stepInside, isSpace, Mode.run_closed]
  have hopen (tag : Tag) (cs : List Char) : (Mode.inside tag true).run ('>' :: cs) =
      some (.closed tag) := by
    simp [Mode.run_cons, Mode.step, Mode.stepInside, isSpace, Mode.run_closed]
  cases m with
  | comment text => cases hm
  | leaf tag attributes =>
    obtain rfl := Option.some.inj hm
    apply readTag?_startTag h level
    have hsplit : (selfClose level).toList = (indent level).toList ++ ['/', '>', '\n', '\n'] := by
      simp [selfClose, String.toList_append]
    rw [hsplit, lineEnds_append (return_not_mem_indent level), Mode.run_append, Mode.run_indent]
    exact hclose _ _
  | group tag attributes body =>
    obtain rfl := Option.some.inj hm
    have hsplit : (Markup.group tag attributes body).print level =
        startTag level tag attributes ++ (openBody level ++
          (Markup.printAll (level + 1) body ++ closeTag level tag)) := by
      simp only [Markup.print, String.append_assoc]
    rw [hsplit]
    apply readTag?_startTag h level
    have hbody (s : String) : (openBody level ++ s).toList =
        (indent level).toList ++ '>' :: '\n' :: '\n' :: s.toList := by
      simp [openBody, String.toList_append]
    rw [hbody, lineEnds_append (return_not_mem_indent level), lineEnds_cons (by decide),
      Mode.run_append, Mode.run_indent]
    exact hopen _ _

theorem map_readAttribute_eq_self_iff {attributes : List Attribute} :
    attributes.map readAttribute = attributes ↔
      ∀ a ∈ attributes, ∀ c ∈ a.value.toList, c ≠ '\t' ∧ c ≠ '\n' ∧ c ≠ '\r' := by
  have hid := List.map_inj_left (l := attributes) (f := readAttribute) (g := id)
  rw [List.map_id] at hid
  exact hid.trans (forall₂_congr fun a _ => readAttribute_eq_self_iff)

/-- The attributes of a printed element are read with their values, in which a tab or an end of a
line has become a blank, when all characters may stand in a document. So they are read as they were
given exactly when besides none of them is a tab, a line feed or a carriage return. -/
theorem attribute_values_read_back_iff {m : Markup} {t : Tag} (hm : tag? m = some t)
    (h : t.Named) (level : Nat) :
    ((∀ a ∈ t.attributes, ∀ c ∈ a.value.toList, isAllowed c) →
      readTag? (m.print level) = some ⟨t.name, t.attributes.map readAttribute⟩) ∧
    (readTag? (m.print level) = some t ↔ ∀ a ∈ t.attributes, ∀ c ∈ a.value.toList,
      isAllowed c ∧ c ≠ '\t' ∧ c ≠ '\n' ∧ c ≠ '\r') := by
  have hwritable : t.attributes.all isWritable ↔
      ∀ a ∈ t.attributes, ∀ c ∈ a.value.toList, isAllowed c := by
    simp only [List.all_eq_true, isWritable]
  rw [readTag?_print hm h level, ← hwritable]
  refine ⟨fun hall => if_pos hall, ?_⟩
  by_cases hall : t.attributes.all isWritable
  · have hread : some (Tag.mk t.name (t.attributes.map readAttribute)) = some t ↔
        t.attributes.map readAttribute = t.attributes := by
      simp [Tag.ext_iff]
    rw [if_pos hall, hread, map_readAttribute_eq_self_iff]
    constructor
    · intro hplain a ha c hc
      exact ⟨hwritable.mp hall a ha c hc, hplain a ha c hc⟩
    · intro hplain a ha c hc
      exact (hplain a ha c hc).2
  · rw [if_neg hall]
    constructor
    · intro hread
      cases hread
    · intro hplain
      exact absurd (hwritable.mpr fun a ha c hc => (hplain a ha c hc).1) hall

def markedLabel : Markup := .leaf "TextView" [android "text" "\"R&D\" isn't <b>&amp;</b>"]

theorem markedLabel_read_back :
    tag? markedLabel = some ⟨"TextView", [android "text" "\"R&D\" isn't <b>&amp;</b>"]⟩ ∧
      readTag? (markedLabel.print 1) =
        some ⟨"TextView", [android "text" "\"R&D\" isn't <b>&amp;</b>"]⟩ := by
  have hnamed : Tag.Named ⟨"TextView", [android "text" "\"R&D\" isn't <b>&amp;</b>"]⟩ :=
    ⟨by decide, by decide⟩
  refine ⟨rfl, (attribute_values_read_back_iff rfl hnamed 1).2.mpr ?_⟩
  simp [android, isAllowed]

def twoLineLabel : Tag := ⟨"TextView", [android "text" "Open\nSunday"]⟩

/-- The two lines of a label become one. -/
theorem line_break_read_as_blank :
    ¬ ∀ (m : Markup) (t : Tag) (level : Nat), tag? m = some t → t.Named →
      (∀ a ∈ t.attributes, ∀ c ∈ a.value.toList, isAllowed c) →
        readTag? (m.print level) = some t := by
  intro h
  have hallowed : ∀ a ∈ twoLineLabel.attributes, ∀ c ∈ a.value.toList, isAllowed c := by
    simp [twoLineLabel, android, isAllowed]
  have hread := h (.leaf "TextView" twoLineLabel.attributes) twoLineLabel 0 rfl
    ⟨by decide, by decide⟩ hallowed
  have hblank : readTag? ((Markup.leaf "TextView" twoLineLabel.attributes).print 0) =
      some ⟨"TextView", [android "text" "Open Sunday"]⟩ := by
    decide
  rw [hblank] at hread
  revert hread
  decide

end AppScaffold.Xml.Processor

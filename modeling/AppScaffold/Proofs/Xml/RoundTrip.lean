import AppScaffold.Proofs.Xml.Hyphens
import AppScaffold.Proofs.Xml.Reader

/-!
# Reading what was printed

Printed markup reads back as the forest it stands for. What lies between two tags is white space,
so the reader is always between tags when a piece of markup begins and when it ends; `ReadsAs` is
that invariant.
-/

set_option autoImplicit false

namespace AppScaffold.Xml

/-! ## Escaped text -/

theorem decode?_escapeChar (c : Char) (rest : List Char) :
    decode? (escapeChar c ++ rest) = (decode? rest).map (c :: ·) := by
  unfold escapeChar
  split
  · rfl
  · rfl
  · rfl
  · rfl
  · rename_i hamp _ _ _
    simp only [List.singleton_append]
    rw [decode?.eq_def]
    split <;> simp_all

theorem decode?_escapeChars (cs : List Char) : decode? (escapeChars cs) = some cs := by
  induction cs with
  | nil => rfl
  | cons c cs ih =>
    have happ : escapeChars (c :: cs) = escapeChar c ++ escapeChars cs := rfl
    rw [happ, decode?_escapeChar, ih]
    rfl

theorem escape_of_isNameChar {s : String} (h : s.toList.all isNameChar) : escape s = s := by
  have hchar (c : Char) (hc : isNameChar c) : escapeChar c = [c] := by
    unfold escapeChar
    split
    case h_5 => rfl
    all_goals exact absurd hc (by decide)
  have hchars : escapeChars s.toList = s.toList := by
    rw [escapeChars, List.flatMap_congr fun c hc => hchar c (List.all_eq_true.mp h c hc)]
    exact List.flatMap_singleton' s.toList
  rw [escape, hchars, String.ofList_toList]

theorem mem_escapeChar {c x : Char} (h : x ∈ escapeChar c) : x ≠ '"' ∧ x ≠ '<' := by
  unfold escapeChar at h
  split at h
  case h_5 hlt _ hquot => exact List.mem_singleton.mp h ▸ ⟨hquot, hlt⟩
  all_goals
    revert x
    simp

theorem mem_escapeChars {cs : List Char} {x : Char} (h : x ∈ escapeChars cs) :
    x ≠ '"' ∧ x ≠ '<' := by
  obtain ⟨c, _, hx⟩ := List.mem_flatMap.mp h
  exact mem_escapeChar hx

/-! ## Runs of the reader -/

namespace Mode

theorem steps_append {m m₁ m₂ : Mode} {xs ys : List Char} {ts us : List Token}
    (hx : m.steps xs = some (m₁, ts)) (hy : m₁.steps ys = some (m₂, us)) :
    m.steps (xs ++ ys) = some (m₂, ts ++ us) := by
  induction xs generalizing m ts with
  | nil =>
    cases hx
    exact hy
  | cons c xs ih =>
    rw [List.cons_append, steps]
    rw [steps] at hx
    cases hc : m.step c with
    | none => simp [hc] at hx
    | some r =>
      simp only [hc, Option.map_eq_some_iff, Prod.mk.injEq] at hx
      obtain ⟨⟨m', vs⟩, hrun, rfl, rfl⟩ := hx
      simp [ih hrun]

theorem steps_cons {m m₁ m₂ : Mode} {c : Char} {cs : List Char} {ts us : List Token}
    (hc : m.step c = some (m₁, ts)) (hcs : m₁.steps cs = some (m₂, us)) :
    m.steps (c :: cs) = some (m₂, ts ++ us) := by
  simp [steps, hc, hcs]

/-- A mode that takes every character of a kind by growing what it has seen. -/
theorem steps_grow (grow : List Char → Mode) {p : Char → Bool}
    (hstep : ∀ seen c, p c → (grow seen).step c = some (grow (seen ++ [c]), []))
    {cs : List Char} (hcs : cs.all p) (seen : List Char) :
    (grow seen).steps cs = some (grow (seen ++ cs), []) := by
  induction cs generalizing seen with
  | nil => simp [steps]
  | cons c cs ih =>
    obtain ⟨hc, hrest⟩ := Bool.and_eq_true_iff.mp (List.all_cons ▸ hcs)
    have hrun := steps_cons (hstep seen c hc) (ih hrest (seen ++ [c]))
    simpa using hrun

theorem ne_of_isSpace {c x : Char} (hc : isSpace c) (hx : isSpace x = false) : c ≠ x := by
  rintro rfl
  simp [hc] at hx

theorem ne_of_isNameChar {c x : Char} (hc : isNameChar c) (hx : isNameChar x = false) :
    c ≠ x := by
  rintro rfl
  simp [hc] at hx

theorem steps_blank {cs : List Char} (hcs : cs.all isSpace) (seen : List Char) :
    (Mode.text seen).steps cs = some (.text (seen ++ cs), []) :=
  steps_grow .text (fun _ _ hc => by simp [step, ne_of_isSpace hc (x := '<') rfl]) hcs seen

theorem steps_inside {cs : List Char} (hcs : cs.all isSpace) (tag : List Char)
    (attributes : List Attribute) :
    (Mode.inside tag attributes true).steps cs = some (.inside tag attributes true, []) :=
  steps_grow (fun _ => .inside tag attributes true)
    (fun _ _ hc => by simp [step, stepInside, hc]) hcs []

theorem steps_value {cs : List Char} (hcs : ∀ c ∈ cs, c ≠ '"' ∧ c ≠ '<') (tag : List Char)
    (attributes : List Attribute) (key seen : List Char) :
    (Mode.value tag attributes key seen).steps cs =
      some (.value tag attributes key (seen ++ cs), []) :=
  steps_grow (.value tag attributes key) (p := fun c => c != '"' && c != '<')
    (fun seen c hc => by
      simp only [Bool.and_eq_true, bne_iff_ne] at hc
      simp [step, hc])
    (by simpa using hcs) seen

end Mode

/-! ## Names, attributes and tags -/

def isName (s : String) : Bool :=
  match s.toList with
  | [] => false
  | c :: cs => isNameStart c && cs.all isNameChar

theorem toList_of_isName {s : String} (h : isName s) :
    ∃ c cs, s.toList = c :: cs ∧ isNameStart c ∧ cs.all isNameChar := by
  unfold isName at h
  split at h
  · simp at h
  · rename_i c cs heq
    obtain ⟨hc, hcs⟩ := Bool.and_eq_true_iff.mp h
    exact ⟨c, cs, heq, hc, hcs⟩

theorem isNameChar_of_isNameStart {c : Char} (h : isNameStart c) : isNameChar c := by
  unfold isNameStart at h
  simp only [Bool.or_eq_true] at h
  unfold isNameChar Char.isAlphanum
  rcases h with (h | h) | h <;> simp [h]

theorem ne_of_isNameStart {c x : Char} (hc : isNameStart c) (hx : isNameChar x = false) : c ≠ x :=
  Mode.ne_of_isNameChar (isNameChar_of_isNameStart hc) hx

theorem not_isSpace_of_isNameStart {c : Char} (h : isNameStart c) : isSpace c = false := by
  have hne (x : Char) (hx : isNameChar x = false) : (c == x) = false :=
    beq_eq_false_iff_ne.mpr (ne_of_isNameStart h hx)
  simp [isSpace, hne ' ' rfl, hne '\t' rfl, hne '\r' rfl, hne '\n' rfl]

theorem all_isSpace_indent (level : Nat) : (indent level).toList.all isSpace := by
  unfold indent Text.repeated
  rw [String.toList_join, List.all_flatMap]
  simp only [List.all_eq_true]
  intro s hs
  obtain ⟨_, rfl⟩ := List.mem_replicate.mp hs
  simp [isSpace]

namespace Mode

theorem steps_startTag {tag : String} (h : isName tag) :
    opening.steps tag.toList = some (.startTag tag.toList, []) := by
  obtain ⟨c, cs, heq, hc, hcs⟩ := toList_of_isName h
  have hfirst : opening.step c = some (.startTag [c], []) := by
    simp [step, hc, ne_of_isNameStart hc (x := '!') rfl, ne_of_isNameStart hc (x := '?') rfl,
      ne_of_isNameStart hc (x := '/') rfl]
  have hrest := steps_grow .startTag (fun seen x hx => by simp [step, hx]) hcs [c]
  rw [heq]
  exact steps_cons hfirst hrest

theorem steps_endTag {tag : String} (h : isName tag) :
    (endTag []).steps tag.toList = some (.endTag tag.toList, []) := by
  obtain ⟨c, cs, heq, hc, hcs⟩ := toList_of_isName h
  have hall : (c :: cs).all isNameChar := by
    rw [List.all_cons, isNameChar_of_isNameStart hc, hcs]
    rfl
  rw [heq]
  exact steps_grow .endTag (fun seen x hx => by simp [step, hx]) hall []

theorem steps_key {key : String} (h : isName key) (tag : List Char)
    (attributes : List Attribute) :
    (inside tag attributes true).steps key.toList = some (.name tag attributes key.toList, []) := by
  obtain ⟨c, cs, heq, hc, hcs⟩ := toList_of_isName h
  have hfirst : (inside tag attributes true).step c = some (.name tag attributes [c], []) := by
    simp [step, stepInside, hc, not_isSpace_of_isNameStart hc,
      ne_of_isNameStart hc (x := '>') rfl, ne_of_isNameStart hc (x := '/') rfl]
  have hrest := steps_grow (.name tag attributes) (fun seen x hx => by simp [step, hx]) hcs [c]
  rw [heq]
  exact steps_cons hfirst hrest

theorem steps_assignment {a : Attribute} (h : isName a.name) (tag : List Char)
    (attributes : List Attribute) :
    (inside tag attributes true).steps (a.name ++ "=\"" ++ escape a.value ++ "\"").toList =
      some (.inside tag (attributes ++ [a]) false, []) := by
  have hequals : (name tag attributes a.name.toList).steps "=\"".toList =
      some (.value tag attributes a.name.toList [], []) := rfl
  have hvalue : (value tag attributes a.name.toList []).steps (escape a.value).toList =
      some (.value tag attributes a.name.toList (escapeChars a.value.toList), []) := by
    unfold escape
    rw [String.toList_ofList]
    exact steps_value (fun _ hx => mem_escapeChars hx) tag attributes a.name.toList []
  have hend : (value tag attributes a.name.toList (escapeChars a.value.toList)).steps
      "\"".toList = some (.inside tag (attributes ++ [a]) false, []) := by
    simp [steps, step, decode?_escapeChars]
  simp only [String.toList_append]
  exact steps_append (steps_append (steps_append (steps_key h tag attributes) hequals) hvalue) hend

theorem steps_attribute (level : Nat) {a : Attribute} (h : isName a.name) (tag : List Char)
    (attributes : List Attribute) :
    (inside tag attributes true).steps
        (indent level ++ indent 1 ++ a.name ++ "=\"" ++ escape a.value ++ "\"\n").toList =
      some (.inside tag (attributes ++ [a]) true, []) := by
  have hlead : (inside tag attributes true).steps (indent level ++ indent 1).toList =
      some (.inside tag attributes true, []) := by
    apply steps_inside
    rw [String.toList_append, List.all_append, all_isSpace_indent, all_isSpace_indent]
    rfl
  have hline : (inside tag (attributes ++ [a]) false).steps ['\n'] =
      some (.inside tag (attributes ++ [a]) true, []) := rfl
  have hrun := steps_append (steps_append hlead (steps_assignment h tag attributes)) hline
  simpa [String.toList_append] using hrun

theorem steps_attributes (level : Nat) {added : List Attribute} (h : ∀ a ∈ added, isName a.name)
    (tag : List Char) (attributes : List Attribute) :
    (inside tag attributes true).steps (String.join (added.map fun a =>
        indent level ++ indent 1 ++ a.name ++ "=\"" ++ escape a.value ++ "\"\n")).toList =
      some (.inside tag (attributes ++ added) true, []) := by
  induction added generalizing attributes with
  | nil => simp [steps]
  | cons a added ih =>
    have hfirst := steps_attribute level (h a List.mem_cons_self) tag attributes
    have hrest := ih (fun b hb => h b (List.mem_cons_of_mem a hb)) (attributes ++ [a])
    rw [List.map_cons, String.join_cons, String.toList_append]
    simpa using steps_append hfirst hrest

theorem finish_of_isSpace {after : List Char} (h : after.all isSpace) (ts : List Token) :
    finish (.text after, ts) = some ts := by
  rw [finish, flush, if_pos h, Option.map_some, List.append_nil]

theorem steps_prolog : (text []).steps prolog.toList =
    some (.text ['\n'], [.instruction "xml version=\"1.0\" encoding=\"utf-8\""]) := by
  decide

end Mode

/-! ## Comments -/

namespace Mode

/-- The text of a comment up to the blank before its end, read from inside the comment and, when
it does not begin with a hyphen, from after a hyphen. -/
theorem steps_comment {cs : List Char} (h : HyphensApart cs) (seen : List Char) :
    (comment seen).steps (cs ++ " -->".toList) =
        some (.text [], [.comment (String.ofList (seen ++ cs ++ [' ']))]) ∧
      (cs.head? ≠ some '-' → (commentHyphen seen).steps (cs ++ " -->".toList) =
        some (.text [], [.comment (String.ofList (seen ++ '-' :: cs ++ [' ']))])) := by
  induction cs generalizing seen with
  | nil =>
    refine ⟨by simp [steps, step], fun _ => ?_⟩
    simp [steps, step]
  | cons c cs ih =>
    have hrest : HyphensApart cs := List.IsChain.tail h
    by_cases hc : c = '-'
    · subst hc
      have hhead : cs.head? ≠ some '-' := by
        cases cs with
        | nil => simp
        | cons d cs => simpa using (List.isChain_cons_cons.mp h).1 rfl
      refine ⟨?_, fun hne => absurd rfl hne⟩
      have hrun := steps_cons (m := comment seen) (c := '-') rfl ((ih hrest seen).2 hhead)
      simpa using hrun
    · have hstep : (comment seen).step c = some (.comment (seen ++ [c]), []) := by simp [step, hc]
      have hback : (commentHyphen seen).step c = some (.comment (seen ++ ['-', c]), []) := by
        simp [step, hc]
      refine ⟨?_, fun _ => ?_⟩
      · simpa using steps_cons hstep (ih hrest (seen ++ [c])).1
      · simpa using steps_cons hback (ih hrest (seen ++ ['-', c])).1

end Mode

/-! ## Markup -/

def commentBody (text : String) : String :=
  String.ofList (' ' :: partHyphens text.toList ++ [' '])

mutual

def Markup.tokens : Markup → List Token
  | .comment text => [.comment (commentBody text)]
  | .leaf tag attributes => [.emptyTag tag attributes]
  | .group tag attributes body =>
    .startTag tag attributes :: (Markup.tokensAll body ++ [.endTag tag])

def Markup.tokensAll : List Markup → List Token
  | [] => []
  | m :: rest => m.tokens ++ Markup.tokensAll rest

end

mutual

def Markup.node : Markup → Node
  | .comment text => .comment (commentBody text)
  | .leaf tag attributes => .element tag attributes []
  | .group tag attributes body => .element tag attributes (Markup.nodes body)

def Markup.nodes : List Markup → List Node
  | [] => []
  | m :: rest => m.node :: Markup.nodes rest

end

mutual

/-- Names are names, and no comment holds two hyphens in a row. -/
def Markup.Readable : Markup → Prop
  | .comment text => HyphensApart (partHyphens text.toList)
  | .leaf tag attributes => isName tag ∧ ∀ a ∈ attributes, isName a.name
  | .group tag attributes body =>
    isName tag ∧ (∀ a ∈ attributes, isName a.name) ∧ Markup.ReadableAll body

def Markup.ReadableAll : List Markup → Prop
  | [] => True
  | m :: rest => m.Readable ∧ Markup.ReadableAll rest

end

theorem Markup.nodes_append (ms ns : List Markup) :
    Markup.nodes (ms ++ ns) = Markup.nodes ms ++ Markup.nodes ns := by
  induction ms with
  | nil => rfl
  | cons m ms ih => simp [Markup.nodes, ih]

theorem Markup.readableAll_append {ms ns : List Markup} (hm : Markup.ReadableAll ms)
    (hn : Markup.ReadableAll ns) : Markup.ReadableAll (ms ++ ns) := by
  induction ms with
  | nil => exact hn
  | cons m ms ih => exact ⟨hm.1, ih hm.2⟩

/-- Between tags, the characters read as the tokens and lead to a place between tags. -/
def ReadsAs (cs : List Char) (ts : List Token) : Prop :=
  ∀ seen, seen.all isSpace → ∃ after, after.all isSpace ∧
    (Mode.text seen).steps cs = some (.text after, ts)

namespace ReadsAs

theorem nil : ReadsAs [] [] := fun seen hseen => ⟨seen, hseen, rfl⟩

theorem append {xs ys : List Char} {ts us : List Token} (hx : ReadsAs xs ts)
    (hy : ReadsAs ys us) : ReadsAs (xs ++ ys) (ts ++ us) := by
  intro seen hseen
  obtain ⟨middle, hmiddle, hrun⟩ := hx seen hseen
  obtain ⟨after, hafter, hrest⟩ := hy middle hmiddle
  exact ⟨after, hafter, Mode.steps_append hrun hrest⟩

theorem of_line (level : Nat) (line : List Char) {cs rest after : List Char} {ts : List Token}
    (hline : line = (indent level).toList ++ '<' :: cs)
    (hrun : Mode.opening.steps (cs ++ rest) = some (.text after, ts)) (hafter : after.all isSpace) :
    ReadsAs (line ++ rest) ts := by
  intro seen hseen
  refine ⟨after, hafter, ?_⟩
  have hall : (seen ++ (indent level).toList).all isSpace := by
    rw [List.all_append, hseen, all_isSpace_indent]
    rfl
  have hopen : (Mode.text (seen ++ (indent level).toList)).step '<' = some (.opening, []) := by
    simp only [Mode.step, Mode.flush, hall]
    rfl
  rw [hline, List.append_assoc, List.cons_append]
  exact Mode.steps_append (Mode.steps_blank (all_isSpace_indent level) seen)
    (Mode.steps_cons hopen hrun)

theorem of_opening (level : Nat) (blank : List Char) {cs : List Char} {ts : List Token}
    (hblank : blank.all isSpace) (hrun : Mode.opening.steps cs = some (.text [], ts)) :
    ReadsAs ((indent level).toList ++ '<' :: (cs ++ blank)) ts := by
  have hend := Mode.steps_append hrun (Mode.steps_blank hblank [])
  have hread : ReadsAs ((indent level).toList ++ '<' :: (cs ++ blank) ++ []) ts :=
    of_line level _ rfl (by simpa using hend) hblank
  rwa [List.append_nil] at hread

end ReadsAs

/-- The characters of a start tag behind its `<`, up to the mark that ends it. -/
def tagHead (level : Nat) (tag : String) (attributes : List Attribute) : List Char :=
  tag.toList ++ '\n' :: (String.join (attributes.map fun a =>
    indent level ++ indent 1 ++ a.name ++ "=\"" ++ escape a.value ++ "\"\n")).toList ++
      (indent level).toList

theorem steps_tagHead (level : Nat) {tag : String} {attributes : List Attribute}
    (htag : isName tag) (hkeys : ∀ a ∈ attributes, isName a.name) :
    Mode.opening.steps (tagHead level tag attributes) =
      some (.inside tag.toList attributes true, []) := by
  have hline : (Mode.startTag tag.toList).step '\n' = some (.inside tag.toList [] true, []) := rfl
  have hattributes := Mode.steps_attributes level hkeys tag.toList []
  have hindent := Mode.steps_inside (all_isSpace_indent level) tag.toList attributes
  exact Mode.steps_append (Mode.steps_append (Mode.steps_startTag htag)
    (Mode.steps_cons hline hattributes)) hindent

theorem steps_leaf {seen : List Char} {ts : List Token} {level : Nat} {tag : String}
    {attributes : List Attribute} (hseen : Mode.flush (seen ++ (indent level).toList) = some ts)
    (htag : isName tag) (hkeys : ∀ a ∈ attributes, isName a.name) :
    (Mode.text seen).steps (startTag level tag attributes ++ selfClose level).toList =
      some (.text ['\n', '\n'], ts ++ [.emptyTag tag attributes]) := by
  have hopen : (Mode.text (seen ++ (indent level).toList)).step '<' = some (.opening, ts) := by
    simp [Mode.step, hseen]
  have hend : (Mode.inside tag.toList attributes true).steps ['/', '>', '\n', '\n'] =
      some (.text ['\n', '\n'], [.emptyTag tag attributes]) := by
    simp [Mode.steps, Mode.step, Mode.stepInside, isSpace]
  have hrun := Mode.steps_append (Mode.steps_blank (all_isSpace_indent level) seen)
    (Mode.steps_cons hopen (Mode.steps_append (steps_tagHead level htag hkeys) hend))
  simpa [startTag, selfClose, tagHead, String.toList_append] using hrun

theorem readsAs_leaf (level : Nat) {tag : String} {attributes : List Attribute}
    (htag : isName tag) (hkeys : ∀ a ∈ attributes, isName a.name) :
    ReadsAs (startTag level tag attributes ++ selfClose level).toList
      [.emptyTag tag attributes] := by
  intro seen hseen
  have hblank : Mode.flush (seen ++ (indent level).toList) = some [] := by
    simp only [Mode.flush, List.all_append, hseen, all_isSpace_indent]
    rfl
  exact ⟨['\n', '\n'], rfl, steps_leaf hblank htag hkeys⟩

theorem readsAs_groupStart (level : Nat) {tag : String} {attributes : List Attribute}
    (htag : isName tag) (hkeys : ∀ a ∈ attributes, isName a.name) :
    ReadsAs (startTag level tag attributes ++ openBody level).toList
      [.startTag tag attributes] := by
  have hend : (Mode.inside tag.toList attributes true).steps ['>'] =
      some (.text [], [.startTag tag attributes]) := by
    simp [Mode.steps, Mode.step, Mode.stepInside, isSpace]
  have hread := ReadsAs.of_opening level ['\n', '\n'] rfl
    (Mode.steps_append (steps_tagHead level htag hkeys) hend)
  simpa [startTag, openBody, tagHead, String.toList_append] using hread

theorem readsAs_closeTag (level : Nat) {tag : String} (htag : isName tag) :
    ReadsAs (closeTag level tag).toList [.endTag tag] := by
  have hend : (Mode.endTag tag.toList).steps ['>'] = some (.text [], [.endTag tag]) := by
    obtain ⟨c, cs, heq, _, _⟩ := toList_of_isName htag
    have hname : isNameChar '>' = false := rfl
    have hne : tag.toList ≠ [] := by simp [heq]
    simp [Mode.steps, Mode.step, hname, String.toList_eq_nil_iff.not.mp hne]
  have hread := ReadsAs.of_opening level ['\n', '\n'] rfl
    (Mode.steps_cons (m := .opening) (c := '/') rfl
      (Mode.steps_append (Mode.steps_endTag htag) hend))
  simpa [closeTag, String.toList_append] using hread

theorem readsAs_comment (level : Nat) {text : String}
    (h : HyphensApart (partHyphens text.toList)) :
    ReadsAs (comment level text).toList [.comment (commentBody text)] := by
  have hfirst : Mode.opening.steps ['!', '-', '-', ' '] = some (.comment [' '], []) := rfl
  have hread := ReadsAs.of_opening level ['\n'] rfl
    (Mode.steps_append hfirst (Mode.steps_comment h [' ']).1)
  simpa [comment, commentText, commentBody, String.toList_append] using hread

mutual

theorem Markup.readsAs_print (level : Nat) :
    ∀ m : Markup, m.Readable → ReadsAs (m.print level).toList m.tokens
  | .comment _, h => readsAs_comment level h
  | .leaf _ _, h => readsAs_leaf level h.1 h.2
  | .group tag attributes body, h => by
    have hbody := Markup.readsAs_printAll (level + 1) body h.2.2
    have hread := (readsAs_groupStart level h.1 h.2.1).append
      (hbody.append (readsAs_closeTag level h.1))
    simpa [Markup.print, Markup.tokens, String.toList_append] using hread

theorem Markup.readsAs_printAll (level : Nat) :
    ∀ ms : List Markup, Markup.ReadableAll ms →
      ReadsAs (Markup.printAll level ms).toList (Markup.tokensAll ms)
  | [], _ => by
    rw [Markup.printAll, String.toList_empty]
    exact ReadsAs.nil
  | m :: rest, h => by
    rw [Markup.printAll, Markup.tokensAll, String.toList_append]
    exact (m.readsAs_print level h.1).append (Markup.readsAs_printAll level rest h.2)

end

/-! ## Forests -/

mutual

theorem Markup.assemble_tokens (stack : List Frame) (done : List Node) (rest : List Token) :
    ∀ m : Markup, Node.assemble stack done (m.tokens ++ rest) =
      Node.assemble stack (done ++ [m.node]) rest
  | .comment _ => by simp [Markup.tokens, Markup.node, Node.assemble]
  | .leaf _ _ => by simp [Markup.tokens, Markup.node, Node.assemble]
  | .group tag attributes body => by
    have hbody := Markup.assemble_tokensAll (⟨tag, attributes, done⟩ :: stack) []
      (.endTag tag :: rest) body
    simpa [Markup.tokens, Markup.node, Node.assemble] using hbody

theorem Markup.assemble_tokensAll (stack : List Frame) (done : List Node) (rest : List Token) :
    ∀ ms : List Markup, Node.assemble stack done (Markup.tokensAll ms ++ rest) =
      Node.assemble stack (done ++ Markup.nodes ms) rest
  | [] => by simp [Markup.tokensAll, Markup.nodes]
  | m :: ms => by
    rw [Markup.tokensAll, List.append_assoc, Markup.assemble_tokens stack done _ m,
      Markup.assemble_tokensAll stack _ rest ms, Markup.nodes, List.append_assoc]
    rfl

end

end AppScaffold.Xml

import AppScaffold.Proofs.Xml.RoundTrip
import AppScaffold.Toml.Statement

/-!
# The text of string resources

A resource compiler reads the text of a string twice: entities first, and then backslashes. The
writer escapes in the same two layers, but in the second it knows apostrophes only: a backslash of
the value stands in the text as it is. Main statement: `resource_text_reads_back_iff`, a value is
read back exactly when it holds no backslash.
-/

set_option autoImplicit false

namespace AppScaffold.Xml

/-! ## Reading -/

/-- What a letter behind a backslash stands for; all but two stand for themselves. -/
def controlOf : Char → Char
  | 'n' => '\n'
  | 't' => '\t'
  | c => c

/-- What a resource compiler makes of backslashes. A backslash with nothing behind it is dropped;
an apostrophe without a backslash and a `\u` without four digits of a character are refused.
Quotation marks and runs of white space are no matter of this reader. -/
def unescape? : List Char → Option (List Char)
  | [] => some []
  | '\\' :: 'u' :: a :: b :: c :: d :: cs =>
    match Toml.codePoint? [a, b, c, d] with
    | some x => (unescape? cs).map (x :: ·)
    | none => none
  | '\\' :: 'u' :: _ => none
  | '\\' :: c :: cs => (unescape? cs).map (controlOf c :: ·)
  | '\\' :: [] => some []
  | c :: cs => if c = '\'' then none else (unescape? cs).map (c :: ·)

def unguardApostrophes : List Char → List Char
  | '\\' :: '\'' :: cs => '\'' :: unguardApostrophes cs
  | c :: cs => c :: unguardApostrophes cs
  | [] => []

def endingBackslashes (cs : List Char) : Nat := (cs.reverse.takeWhile (· == '\\')).length

/-- Every apostrophe has an odd number of backslashes right before it. -/
def ApostrophesGuarded (cs : List Char) : Prop :=
  ∀ before after, cs = before ++ '\'' :: after → endingBackslashes before % 2 = 1

/-! ## The two layers of the writer -/

theorem guardApostrophes_cons (c : Char) (cs : List Char) :
    guardApostrophes (c :: cs) =
      (if c == '\'' then ['\\', '\''] else [c]) ++ guardApostrophes cs := rfl

theorem escapeChars_cons (c : Char) (cs : List Char) :
    escapeChars (c :: cs) = escapeChar c ++ escapeChars cs := rfl

theorem guardApostrophes_escapeChar {c : Char} (h : c ≠ '\'') :
    guardApostrophes (escapeChar c) = escapeChar c := by
  unfold escapeChar
  split
  case h_5 => simp [guardApostrophes, h]
  all_goals rfl

theorem guardApostrophes_append (xs ys : List Char) :
    guardApostrophes (xs ++ ys) = guardApostrophes xs ++ guardApostrophes ys :=
  List.flatMap_append

/-- No entity holds an apostrophe or a backslash, so the order of the layers is no matter. -/
theorem guardApostrophes_escapeChars (cs : List Char) :
    guardApostrophes (escapeChars cs) = escapeChars (guardApostrophes cs) := by
  induction cs with
  | nil => rfl
  | cons c cs ih =>
    rw [escapeChars_cons, guardApostrophes_append, ih, guardApostrophes_cons]
    by_cases hc : c = '\''
    · subst hc
      rfl
    · rw [guardApostrophes_escapeChar hc, if_neg (by simpa using hc), List.singleton_append,
        escapeChars_cons]

theorem toList_resourceText (s : String) :
    (resourceText s).toList = escapeChars (guardApostrophes s.toList) := by
  rw [resourceText, String.toList_ofList, guardApostrophes_escapeChars]

theorem decode?_resourceText (s : String) :
    decode? (resourceText s).toList = some (guardApostrophes s.toList) := by
  rw [toList_resourceText, decode?_escapeChars]

/-! ## Reading what was written -/

theorem head?_guardApostrophes (cs : List Char) : (guardApostrophes cs).head? ≠ some '\'' := by
  cases cs with
  | nil => simp [guardApostrophes]
  | cons c cs =>
    rw [guardApostrophes_cons]
    by_cases hc : c = '\'' <;> simp [hc]

theorem unguardApostrophes_cons {c : Char} {cs : List Char} (h : cs.head? ≠ some '\'') :
    unguardApostrophes (c :: cs) = c :: unguardApostrophes cs := by
  rw [unguardApostrophes.eq_def]
  split <;> simp_all

theorem unguardApostrophes_guardApostrophes (cs : List Char) :
    unguardApostrophes (guardApostrophes cs) = cs := by
  induction cs with
  | nil => rfl
  | cons c cs ih =>
    rw [guardApostrophes_cons]
    by_cases hc : c = '\''
    · subst hc
      simp [unguardApostrophes, ih]
    · rw [if_neg (by simpa using hc), List.singleton_append,
        unguardApostrophes_cons (head?_guardApostrophes cs), ih]

theorem length_guardApostrophes (cs : List Char) :
    (guardApostrophes cs).length = cs.length + cs.count '\'' := by
  induction cs with
  | nil => rfl
  | cons c cs ih =>
    rw [guardApostrophes_cons, List.length_append, ih, List.length_cons, List.count_cons]
    split
    · simp
      omega
    · simp
      omega

def isMark (c : Char) : Bool := c == '\\' || c == '\''

theorem countP_isMark_guardApostrophes (cs : List Char) :
    (guardApostrophes cs).countP isMark = cs.count '\\' + 2 * cs.count '\'' := by
  induction cs with
  | nil => rfl
  | cons c cs ih =>
    rw [guardApostrophes_cons, List.countP_append, ih]
    by_cases hquote : c = '\''
    · subst hquote
      have hpair : ['\\', '\''].countP isMark = 2 := rfl
      rw [if_pos (beq_self_eq_true '\''), List.count_cons_self, List.count_cons_of_ne (by decide),
        hpair]
      omega
    · rw [if_neg (by simpa using hquote), List.count_cons_of_ne hquote, List.count_cons]
      by_cases hslash : c = '\\' <;> simp [isMark, hquote, hslash]
      omega

/-- Every escape takes at least one character more than it gives, and one without an apostrophe
takes more than its marks pay for. -/
theorem countP_isMark_add_length_le {t v : List Char} (h : unescape? t = some v) :
    t.countP isMark + 2 * v.length ≤ 2 * t.length := by
  fun_induction unescape? t generalizing v with
  | case1 =>
    cases h
    simp
  | case2 a b c d cs x _ ih =>
    obtain ⟨w, hw, rfl⟩ := Option.map_eq_some_iff.mp h
    have hrest := ih hw
    -- The five characters behind the backslash hold five marks at most and give one character.
    have hdigits := List.countP_le_length (p := isMark) (l := ['u', a, b, c, d])
    have hsplit : '\\' :: 'u' :: a :: b :: c :: d :: cs = '\\' :: (['u', a, b, c, d] ++ cs) := rfl
    rw [hsplit, List.countP_cons_of_pos rfl, List.countP_append]
    simp only [List.length_cons, List.length_append, List.length_nil] at hdigits ⊢
    omega
  | case3 => cases h
  | case4 => cases h
  | case5 c cs _ _ ih =>
    obtain ⟨w, hw, rfl⟩ := Option.map_eq_some_iff.mp h
    have hrest := ih hw
    have hnext := List.countP_le_length (p := isMark) (l := [c])
    have hsplit : '\\' :: c :: cs = '\\' :: ([c] ++ cs) := rfl
    rw [hsplit, List.countP_cons_of_pos rfl, List.countP_append]
    simp only [List.length_cons, List.length_append, List.length_nil] at hnext ⊢
    omega
  | case6 =>
    cases h
    decide
  | case7 => cases h
  | case8 c cs _ _ hpair hlast hquote ih =>
    obtain ⟨w, hw, rfl⟩ := Option.map_eq_some_iff.mp h
    have hrest := ih hw
    have hslash : c ≠ '\\' := by
      intro hc
      cases cs with
      | nil => exact hlast hc rfl
      | cons d ds => exact hpair d ds hc rfl
    rw [List.countP_cons_of_neg (by simp [isMark, hslash, hquote]), List.length_cons,
      List.length_cons]
    omega

theorem unescape?_guardApostrophes {cs : List Char} (h : '\\' ∉ cs) :
    unescape? (guardApostrophes cs) = some cs := by
  induction cs with
  | nil => rfl
  | cons c cs ih =>
    obtain ⟨hc, hcs⟩ := not_or.mp (List.mem_cons.not.mp h)
    rw [guardApostrophes_cons]
    by_cases hquote : c = '\''
    · subst hquote
      simp [unescape?, controlOf, ih hcs]
    · rw [if_neg (by simpa using hquote), List.singleton_append, unescape?.eq_def]
      split <;> simp_all

/-- A backslash of the value is taken for the start of an escape, and then one character too few
is read. -/
theorem unescape?_guardApostrophes_iff (cs : List Char) :
    unescape? (guardApostrophes cs) = some cs ↔ '\\' ∉ cs := by
  constructor
  · intro h
    have hle := countP_isMark_add_length_le h
    rw [countP_isMark_guardApostrophes, length_guardApostrophes] at hle
    have hnone : cs.count '\\' = 0 := by omega
    exact List.count_eq_zero.mp hnone
  · exact unescape?_guardApostrophes

/-! ## Bare apostrophes -/

theorem endingBackslashes_concat (cs : List Char) :
    endingBackslashes (cs ++ ['\\']) = endingBackslashes cs + 1 := by
  simp [endingBackslashes]

theorem endingBackslashes_eq_zero {cs : List Char} {d : Char} (h : cs.getLast? = some d)
    (hd : d ≠ '\\') : endingBackslashes cs = 0 := by
  obtain ⟨xs, rfl⟩ := List.getLast?_eq_some_iff.mp h
  simp [endingBackslashes, hd]

/-- What the two layers of the writer make of a character. -/
def resourceChar (c : Char) : List Char := if c = '\'' then ['\\', '\''] else escapeChar c

theorem toList_resourceText_eq_flatMap (s : String) :
    (resourceText s).toList = s.toList.flatMap resourceChar := by
  rw [toList_resourceText, guardApostrophes, escapeChars, List.flatMap_assoc]
  apply List.flatMap_congr
  intro c _
  by_cases hc : c = '\'' <;> simp [resourceChar, hc, escapeChar]

theorem getLast?_resourceChar {c : Char} (h : c ≠ '\\') :
    ∃ d, (resourceChar c).getLast? = some d ∧ d ≠ '\\' := by
  unfold resourceChar escapeChar
  split_ifs
  · exact ⟨'\'', rfl, by decide⟩
  · split
    case h_5 => exact ⟨c, rfl, h⟩
    all_goals exact ⟨';', rfl, by decide⟩

theorem apostrophe_mem_resourceChar {c : Char} (h : '\'' ∈ resourceChar c) : c = '\'' := by
  by_contra hquote
  unfold resourceChar escapeChar at h
  rw [if_neg hquote] at h
  split at h
  case h_5 => exact hquote (List.mem_singleton.mp h).symm
  all_goals exact absurd h (by decide)

theorem endingBackslashes_flatMap (cs : List Char) :
    endingBackslashes (cs.flatMap resourceChar) = endingBackslashes cs := by
  induction cs using List.reverseRecOn with
  | nil => rfl
  | append_singleton cs c ih =>
    rw [List.flatMap_append, List.flatMap_singleton]
    by_cases hc : c = '\\'
    · subst hc
      have hself : resourceChar '\\' = ['\\'] := rfl
      rw [hself, endingBackslashes_concat, endingBackslashes_concat, ih]
    · obtain ⟨d, hlast, hd⟩ := getLast?_resourceChar hc
      have htext : (cs.flatMap resourceChar ++ resourceChar c).getLast? = some d := by
        rw [List.getLast?_append, hlast, Option.some_or]
      rw [endingBackslashes_eq_zero htext hd, endingBackslashes_eq_zero (by simp) hc]

/-- An apostrophe of the text comes from one of the value, and its backslash with it. -/
theorem exists_of_flatMap_resourceChar {cs before after : List Char}
    (h : cs.flatMap resourceChar = before ++ '\'' :: after) :
    ∃ xs ys, cs = xs ++ '\'' :: ys ∧ before = xs.flatMap resourceChar ++ ['\\'] := by
  induction cs generalizing before with
  | nil => simp at h
  | cons c cs ih =>
    rw [List.flatMap_cons, List.append_eq_append_iff] at h
    rcases h with ⟨zs, rfl, hrest⟩ | ⟨zs, hfirst, hrest⟩
    · obtain ⟨xs, ys, rfl, rfl⟩ := ih hrest
      exact ⟨c :: xs, ys, rfl, by simp⟩
    · cases zs with
      | nil =>
        have hstart : cs.flatMap resourceChar = [] ++ '\'' :: after := hrest.symm
        obtain ⟨xs, ys, _, hnil⟩ := ih hstart
        simp at hnil
      | cons z zs =>
        obtain ⟨rfl, _⟩ := List.cons.inj hrest
        obtain rfl : c = '\'' := by
          apply apostrophe_mem_resourceChar
          rw [hfirst]
          simp
        refine ⟨[], cs, rfl, ?_⟩
        cases before with
        | nil => exact absurd (List.cons.inj hfirst).1 (by decide)
        | cons b before =>
          obtain ⟨rfl, hsecond⟩ := List.cons.inj hfirst
          cases before with
          | nil => rfl
          | cons d before => simp at hsecond

theorem apostrophesGuarded_resourceText_iff (s : String) :
    ApostrophesGuarded (resourceText s).toList ↔
      ∀ before after, s.toList = before ++ '\'' :: after → endingBackslashes before % 2 = 0 := by
  rw [toList_resourceText_eq_flatMap]
  constructor
  · intro h before after hs
    have hodd := h (before.flatMap resourceChar ++ ['\\']) (after.flatMap resourceChar) (by
      rw [hs, List.flatMap_append, List.flatMap_cons]
      simp [resourceChar])
    rw [endingBackslashes_concat, endingBackslashes_flatMap] at hodd
    omega
  · intro h before after htext
    obtain ⟨xs, ys, hs, rfl⟩ := exists_of_flatMap_resourceChar htext
    have heven := h xs ys hs
    rw [endingBackslashes_concat, endingBackslashes_flatMap]
    omega

/-! ## Values -/

/-- A value is read back from its text, entities first and backslashes then, exactly when it holds
no backslash; and the text has no bare apostrophe exactly when every apostrophe of the value has
an even number of backslashes before it. -/
theorem resource_text_reads_back_iff (s : String) :
    ((decode? (resourceText s).toList).bind unescape? = some s.toList ↔ '\\' ∉ s.toList) ∧
      (ApostrophesGuarded (resourceText s).toList ↔
        ∀ before after, s.toList = before ++ '\'' :: after →
          endingBackslashes before % 2 = 0) := by
  refine ⟨?_, apostrophesGuarded_resourceText_iff s⟩
  rw [decode?_resourceText, Option.bind_some]
  exact unescape?_guardApostrophes_iff s.toList

/-- A backslash before an apostrophe takes the one that was added for itself. -/
theorem bare_apostrophe_in_resource_text :
    ¬ (∀ s : String, (decode? (resourceText s).toList).bind unescape? = some s.toList) ∧
      ¬ ∀ s : String, ApostrophesGuarded (resourceText s).toList := by
  constructor
  · intro h
    exact absurd (h "it\\'s") (by decide)
  · intro h
    exact absurd (h "it\\'s" "it\\\\".toList "s".toList (by decide)) (by decide)

end AppScaffold.Xml

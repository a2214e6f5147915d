import AppScaffold.Render.Sources
import AppScaffold.Toml.Statement

/-!
# Double-quoted literals

How Groovy reads a literal between double quotes: a backslash starts an escape, a `$` an expression
that is evaluated, and the line may not end. Text that is written with `doubleQuoted` is read up to
its first `$`; everything else in it stands for itself.
-/

set_option autoImplicit false

namespace AppScaffold.Groovy

open Render (singleLine doubleQuoted)

/-- What a literal turns out to be. -/
inductive Literal where
  /-- A text without expressions, and what is behind the closing quote. -/
  | plain (value rest : List Char)
  /-- The text before the first `$`, and what is behind it. -/
  | interpolated (before rest : List Char)
  | malformed
deriving DecidableEq, Repr

def Literal.prepend (xs : List Char) : Literal → Literal
  | .plain value rest => .plain (xs ++ value) rest
  | .interpolated before rest => .interpolated (xs ++ before) rest
  | .malformed => .malformed

/-- What the character behind a backslash stands for. Groovy also knows octal numbers and the end of
a line there; both are malformed here, and no text is written with them. -/
def escape? : Char → Option Char
  | 'b' => some '\x08'
  | 'f' => some '\x0c'
  | 'n' => some '\n'
  | 'r' => some '\r'
  | 's' => some ' '
  | 't' => some '\t'
  | c => if c ∈ ['\\', '\'', '"', '$'] then some c else none

def readBody : List Char → Literal
  | [] => .malformed
  | '"' :: rest => .plain [] rest
  | '$' :: rest => .interpolated [] rest
  | '\\' :: 'u' :: a :: b :: c :: d :: rest =>
    match Toml.codePoint? [a, b, c, d] with
    | some x => (readBody rest).prepend [x]
    | none => .malformed
  | '\\' :: c :: rest =>
    match escape? c with
    | some x => (readBody rest).prepend [x]
    | none => .malformed
  | c :: rest =>
    if c ∈ ['\\', '\n', '\r'] then .malformed else (readBody rest).prepend [c]

/-- Reads a literal from its opening quote on. Three quotes open another kind of literal. -/
def readLiteral : List Char → Literal
  | '"' :: '"' :: '"' :: _ => .malformed
  | '"' :: rest => readBody rest
  | _ => .malformed

/-! ## Written texts -/

def quoteChar (c : Char) : List Char := if c == '\\' || c == '"' then ['\\', c] else [c]

theorem toList_doubleQuoted (s : String) :
    (doubleQuoted s).toList = (singleLine s.toList).flatMap quoteChar := by
  rw [doubleQuoted, String.toList_ofList]
  rfl

theorem prepend_prepend (xs ys : List Char) (l : Literal) :
    (l.prepend ys).prepend xs = l.prepend (xs ++ ys) := by
  cases l <;> simp [Literal.prepend]

theorem prepend_nil (l : Literal) : l.prepend [] = l := by
  cases l <;> rfl

/-- A character that stands for itself: on the line, and no start of an expression. -/
def IsPlain (c : Char) : Prop := c ≠ '$' ∧ c ≠ '\n' ∧ c ≠ '\r'

theorem readBody_quoteChar {c : Char} (h : IsPlain c) (rest : List Char) :
    readBody (quoteChar c ++ rest) = (readBody rest).prepend [c] := by
  obtain ⟨hdollar, hfeed, hreturn⟩ := h
  by_cases hslash : c = '\\'
  · subst hslash
    simp [quoteChar, readBody, escape?]
  · by_cases hquote : c = '"'
    · subst hquote
      simp [quoteChar, readBody, escape?]
    · have hself : quoteChar c = [c] := by simp [quoteChar, hslash, hquote]
      rw [hself, List.singleton_append, readBody.eq_def]
      split <;> simp_all

theorem readBody_flatMap {xs : List Char} (h : ∀ c ∈ xs, IsPlain c) (rest : List Char) :
    readBody (xs.flatMap quoteChar ++ rest) = (readBody rest).prepend xs := by
  induction xs with
  | nil => exact (prepend_nil _).symm
  | cons c xs ih =>
    obtain ⟨hc, hxs⟩ := List.forall_mem_cons.mp h
    rw [List.flatMap_cons, List.append_assoc, readBody_quoteChar hc, ih hxs, prepend_prepend]
    rfl

theorem not_break_of_mem_singleLine {cs : List Char} {c : Char} (h : c ∈ singleLine cs) :
    c ≠ '\n' ∧ c ≠ '\r' := by
  obtain ⟨d, _, rfl⟩ := List.mem_map.mp h
  split <;> simp_all

theorem dollar_mem_singleLine_iff {cs : List Char} : '$' ∈ singleLine cs ↔ '$' ∈ cs := by
  rw [singleLine, List.mem_map]
  constructor
  · rintro ⟨c, hc, heq⟩
    split at heq
    · exact absurd heq (by decide)
    · exact heq ▸ hc
  · intro h
    exact ⟨'$', h, rfl⟩

/-- A text without a `$` is read as it was given, on one line. -/
theorem readBody_doubleQuoted {s : String} (h : '$' ∉ s.toList) (rest : List Char) :
    readBody ((doubleQuoted s).toList ++ '"' :: rest) = .plain (singleLine s.toList) rest := by
  have hplain : ∀ c ∈ singleLine s.toList, IsPlain c := by
    intro c hc
    refine ⟨?_, not_break_of_mem_singleLine hc⟩
    rintro rfl
    exact h (dollar_mem_singleLine_iff.mp hc)
  rw [toList_doubleQuoted, readBody_flatMap hplain, readBody]
  simp [Literal.prepend]

theorem readBody_doubleQuoted_of_dollar {s : String} (h : '$' ∈ s.toList) (rest : List Char) :
    ∃ after, readBody ((doubleQuoted s).toList ++ rest) =
      .interpolated ((singleLine s.toList).takeWhile (· != '$')) after := by
  obtain ⟨xs, ys, heq, hxs⟩ :=
    List.eq_append_cons_of_mem (dollar_mem_singleLine_iff.mpr h)
  have hplain : ∀ c ∈ xs, IsPlain c := by
    intro c hc
    refine ⟨?_, not_break_of_mem_singleLine (heq ▸ List.mem_append_left _ hc)⟩
    rintro rfl
    exact hxs hc
  have htake : (xs ++ '$' :: ys).takeWhile (· != '$') = xs := by
    rw [List.takeWhile_append_of_pos fun c hc => bne_iff_ne.mpr (hplain c hc).1]
    simp
  have hdollar : quoteChar '$' = ['$'] := rfl
  refine ⟨ys.flatMap quoteChar ++ rest, ?_⟩
  rw [toList_doubleQuoted, heq, htake, List.flatMap_append, List.append_assoc,
    readBody_flatMap hplain, List.flatMap_cons, hdollar, List.append_assoc, List.singleton_append,
    readBody]
  simp [Literal.prepend]

theorem head?_quoteChar_ne (c : Char) (rest : List Char) :
    (quoteChar c ++ rest).head? ≠ some '"' := by
  unfold quoteChar
  split <;> simp_all

/-- The quotes around a text are two, also when nothing stands between them. -/
theorem readLiteral_doubleQuoted (s : String) {rest : List Char} (h : rest.head? ≠ some '"') :
    readLiteral ('"' :: ((doubleQuoted s).toList ++ '"' :: rest)) =
      readBody ((doubleQuoted s).toList ++ '"' :: rest) := by
  have hopen : ∀ cs, (doubleQuoted s).toList ++ '"' :: rest ≠ '"' :: '"' :: cs := by
    intro cs heq
    rw [toList_doubleQuoted] at heq
    cases hline : singleLine s.toList with
    | nil => simp_all
    | cons c line =>
      rw [hline, List.flatMap_cons, List.append_assoc] at heq
      exact head?_quoteChar_ne c _ (congrArg List.head? heq)
  rw [readLiteral.eq_def]
  split
  · rename_i heq
    exact absurd (List.cons.inj heq).2 (hopen _)
  · rename_i heq
    rw [(List.cons.inj heq).2]
  · rename_i hnone
    exact absurd rfl (hnone _)

end AppScaffold.Groovy

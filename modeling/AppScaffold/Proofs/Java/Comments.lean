import Mathlib.Data.List.Chain
import AppScaffold.Proofs.Java.Escapes
import AppScaffold.Proofs.Render.Sources
import AppScaffold.Proofs.Text.Occurrence

/-!
# Doc comments

Java looks for comments behind the translation of escapes, so the star and the slash that end one
can be written as escapes. Text for a comment is guarded before: a backslash parts a star from a
slash where both stand in it as they are. Main statement: `keepsComment_iff`, which texts can be
translated and do not end a comment once they are guarded.
-/

set_option autoImplicit false

namespace AppScaffold.Java

open Render (blockComment guardCommentEnd singleLine)

def codes (cs : List Char) : List Nat := cs.map Char.toNat

/-- The text of the first doc comment of a program and what is behind it. -/
def docComment? (source : String) : Option (List Nat × List Nat) := do
  let symbols ← translate? source.toList
  let (_, rest) ← Text.cutAt? (codes "/**".toList) (symbols.map Symbol.code)
  Text.cutAt? (codes "*/".toList) rest

def EndsApart (cs : List Nat) : Prop :=
  cs.IsChain fun a b => ¬ (a = '*'.toNat ∧ b = '/'.toNat)

/-- Where a star is followed by a slash, neither is written as an escape. -/
def EndsShown (us : List Symbol) : Prop :=
  us.IsChain fun x y => x.code = '*'.toNat → y.code = '/'.toNat → ¬ x.escaped ∧ ¬ y.escaped

/-- A text can be translated, and no escape takes part in the end of a comment. -/
def KeepsComment (text : String) : Prop :=
  ∃ us, translate? text.toList = some us ∧ EndsShown us

instance : DecidablePred EndsShown := fun us =>
  inferInstanceAs (Decidable (us.IsChain _))

instance (text : String) : Decidable (KeepsComment text) :=
  match h : translate? text.toList with
  | none => isFalse (by simp [KeepsComment, h])
  | some us => decidable_of_iff (EndsShown us) (by simp [KeepsComment, h])

/-- A backslash between each star and a slash that follows it, where both stand for themselves. -/
def guardEnds : List Symbol → List Symbol
  | x :: y :: us =>
    if x = .raw '*' ∧ y = .raw '/' then x :: .raw '\\' :: guardEnds (y :: us)
    else x :: guardEnds (y :: us)
  | us => us

/-! ## Guarding symbols -/

variable {x y : Symbol} {us : List Symbol}

theorem head?_guardEnds (us : List Symbol) : (guardEnds us).head? = us.head? := by
  fun_cases guardEnds us <;> rfl

theorem guardEnds_cons (h : x = .raw '*' → us.head? ≠ some (.raw '/')) :
    guardEnds (x :: us) = x :: guardEnds us := by
  cases us with
  | nil => rfl
  | cons y us =>
    have hnot : ¬ (x = .raw '*' ∧ y = .raw '/') := fun ⟨hx, hy⟩ => h hx (congrArg some hy)
    rw [guardEnds, if_neg hnot]

theorem endsApart_cons_iff {a : Nat} {cs : List Nat} :
    EndsApart (a :: cs) ↔ (a = '*'.toNat → cs.head? ≠ some '/'.toNat) ∧ EndsApart cs := by
  cases cs <;> simp [EndsApart]

/-- A star and a slash that are not both raw are the same to a reader that sees their numbers and to
one that looks for escapes. -/
theorem ends_iff_shown (h : ¬ (x = .raw '*' ∧ y = .raw '/')) :
    (x.code = '*'.toNat → y.code ≠ '/'.toNat) ↔
      (x.code = '*'.toNat → y.code = '/'.toNat → ¬ x.escaped ∧ ¬ y.escaped) := by
  refine forall_congr' fun hx => forall_congr' fun hy => iff_of_false id ?_
  rintro ⟨hxraw, hyraw⟩
  refine h ⟨?_, ?_⟩
  · rw [Symbol.raw, ← hx, ← Bool.eq_false_iff.mpr hxraw]
  · rw [Symbol.raw, ← hy, ← Bool.eq_false_iff.mpr hyraw]

theorem endsApart_guardEnds_iff (us : List Symbol) :
    EndsApart ((guardEnds us).map Symbol.code) ↔ EndsShown us := by
  fun_induction guardEnds us with
  | case1 x y us hpair ih =>
    obtain ⟨rfl, rfl⟩ := hpair
    rw [List.map_cons, List.map_cons, endsApart_cons_iff, endsApart_cons_iff, ih, EndsShown,
      EndsShown, List.isChain_cons_cons]
    simp [Symbol.raw]
  | case2 x y us hpair ih =>
    have hhead : ((guardEnds (y :: us)).map Symbol.code).head? = some y.code := by
      rw [List.head?_map, head?_guardEnds]
      rfl
    rw [List.map_cons, endsApart_cons_iff, ih, hhead, EndsShown, EndsShown,
      List.isChain_cons_cons, ← ends_iff_shown hpair, ne_eq, Option.some_inj]
  | case3 us hus =>
    cases us with
    | nil => exact iff_of_true List.IsChain.nil List.IsChain.nil
    | cons x us =>
      cases us with
      | nil => exact iff_of_true (List.IsChain.singleton _) (List.IsChain.singleton _)
      | cons y us => exact absurd rfl (hus x y us)

/-! ## Translating guarded texts -/

theorem head?_of_run {m : Mode} {cs : List Char} (h : m.run cs = some us)
    (hslash : us.head? = some (.raw '/')) : m = .plain ∧ cs.head? = some '/' := by
  induction cs generalizing m us with
  | nil =>
    cases m with
    | plain =>
      obtain rfl : [] = us := Option.some.inj h
      exact absurd hslash (by decide)
    | backslash =>
      obtain rfl : [.raw '\\'] = us := Option.some.inj h
      exact absurd hslash (by decide)
    | marks => cases h
    | digits missing code => cases h
  | cons c cs ih =>
    obtain ⟨⟨next, out⟩, hstep, hrest⟩ := Option.bind_eq_some_iff.mp h
    obtain ⟨vs, hvs, rfl⟩ := Option.map_eq_some_iff.mp hrest
    rcases Mode.step_cases hstep with ⟨hnext, rfl⟩ | ⟨_, ⟨hm, rfl⟩ | rfl | ⟨code, rfl⟩⟩
    · exact absurd (ih hvs hslash).1 hnext
    · rw [Symbol.raw_inj.mp (Option.some.inj hslash)]
      exact ⟨hm, rfl⟩
    · exact absurd (Option.some.inj hslash) (by decide)
    · exact absurd (congrArg Symbol.escaped (Option.some.inj hslash)) (by simp [Symbol.raw])

theorem guardEnds_append_of_step {m next : Mode} {c : Char} {out : List Symbol}
    (hstep : m.step c = some (next, out))
    (h : c = '*' → next = .plain → us.head? ≠ some (.raw '/')) :
    guardEnds (out ++ us) = out ++ guardEnds us := by
  rcases Mode.step_cases hstep with ⟨_, rfl⟩ | ⟨hnext, ⟨_, rfl⟩ | rfl | ⟨code, rfl⟩⟩
  · rfl
  · exact guardEnds_cons fun hstar => h (Symbol.raw_inj.mp hstar) hnext
  · rw [List.cons_append, guardEnds_cons fun hstar => absurd hstar (by decide)]
    exact congrArg _ (guardEnds_cons fun hstar => h (Symbol.raw_inj.mp hstar) hnext)
  · exact guardEnds_cons fun hstar => absurd (congrArg Symbol.escaped hstar) (by simp [Symbol.raw])

theorem guardEnds_end (us : List Symbol) :
    guardEnds (.raw '*' :: .raw '/' :: us) =
      .raw '*' :: .raw '\\' :: .raw '/' :: guardEnds us := by
  rw [guardEnds, if_pos ⟨rfl, rfl⟩, guardEnds_cons fun hstar => absurd hstar (by decide)]

/-- Guarding a text and translating it may change places: no escape is made or broken. -/
theorem run_guardCommentEnd (m : Mode) (cs : List Char) :
    m.run (guardCommentEnd cs) = (m.run cs).map guardEnds := by
  fun_induction guardCommentEnd cs generalizing m with
  | case1 cs ih =>
    -- The backslash that is put in stands behind a star and before a slash: it starts no escape, and
    -- no other backslash is next to it.
    cases m with
    | plain => simp [Mode.run, Mode.step, ih, guardEnds_end, Function.comp_def]
    | backslash =>
      have hcons (us : List Symbol) : guardEnds (.raw '\\' :: us) = .raw '\\' :: guardEnds us :=
        guardEnds_cons fun hstar => absurd hstar (by decide)
      simp [Mode.run, Mode.step, ih, hcons, guardEnds_end, Function.comp_def]
    | marks => rfl
    | digits missing code => rfl
  | case2 c cs hpair ih =>
    cases hstep : m.step c with
    | none =>
      rw [Mode.run_cons_of_step_none hstep, Mode.run_cons_of_step_none hstep, Option.map_none]
    | some r =>
      obtain ⟨next, out⟩ := r
      rw [Mode.run_cons_of_step hstep, Mode.run_cons_of_step hstep, ih, Option.map_map,
        Option.map_map]
      refine Option.map_congr fun us hus => (guardEnds_append_of_step hstep ?_).symm
      intro hstar _ hslash
      obtain ⟨ds, rfl⟩ := List.head?_eq_some_iff.mp (head?_of_run hus hslash).2
      exact hpair ds hstar rfl
  | case3 => cases m <;> rfl

/-! ## Texts on one line -/

def Symbol.onLine (x : Symbol) : Symbol :=
  if x = .raw '\r' ∨ x = .raw '\n' then .raw ' ' else x

theorem onLine_raw {c : Char} (hc : ¬ (c = '\r' ∨ c = '\n')) : (Symbol.raw c).onLine = .raw c := by
  simp [Symbol.onLine, Symbol.raw_inj, hc]

/-- A blank does to a reader of escapes what the end of a line does. -/
theorem step_onLine (m : Mode) (c : Char) :
    m.step (if c == '\r' || c == '\n' then ' ' else c) =
      (m.step c).map fun r => (r.1, r.2.map Symbol.onLine) := by
  by_cases hc : c = '\r' ∨ c = '\n'
  · rcases hc with rfl | rfl <;> cases m <;> rfl
  · have hline : (if c == '\r' || c == '\n' then ' ' else c) = c := by simp [hc]
    rw [hline]
    cases hstep : m.step c with
    | none => rfl
    | some r =>
      obtain ⟨next, out⟩ := r
      -- only a raw end of a line would change, and `c` is none
      have hout : out.map Symbol.onLine = out := by
        rcases Mode.step_cases hstep with ⟨_, rfl⟩ | ⟨_, ⟨_, rfl⟩ | rfl | ⟨code, rfl⟩⟩
        · rfl
        · rw [List.map_singleton, onLine_raw hc]
        · rw [List.map_cons, List.map_singleton, onLine_raw hc, onLine_raw (by decide)]
        · simp [Symbol.onLine, Symbol.raw]
      rw [Option.map_some, hout]

theorem run_singleLine (m : Mode) (cs : List Char) :
    m.run (singleLine cs) = (m.run cs).map (·.map Symbol.onLine) := by
  induction cs generalizing m with
  | nil => cases m <;> rfl
  | cons c cs ih =>
    have hstep := step_onLine m c
    rw [singleLine, List.map_cons, ← singleLine, Mode.run, hstep, Mode.run]
    cases m.step c with
    | none => rfl
    | some r => simp [ih, Function.comp_def]

theorem escaped_onLine (x : Symbol) : x.onLine.escaped = x.escaped := by
  unfold Symbol.onLine
  split
  · rename_i h
    rcases h with rfl | rfl <;> rfl
  · rfl

theorem code_onLine_iff (x : Symbol) {n : Nat} (h : n ∉ [10, 13, 32]) :
    x.onLine.code = n ↔ x.code = n := by
  obtain ⟨hfeed, hreturn, hblank⟩ : n ≠ 10 ∧ n ≠ 13 ∧ n ≠ 32 := by simpa using h
  unfold Symbol.onLine
  split
  · rename_i hx
    rcases hx with rfl | rfl
    · exact iff_of_false hblank.symm hreturn.symm
    · exact iff_of_false hblank.symm hfeed.symm
  · exact Iff.rfl

theorem endsShown_map_onLine_iff (us : List Symbol) :
    EndsShown (us.map Symbol.onLine) ↔ EndsShown us := by
  rw [EndsShown, List.isChain_map]
  refine List.IsChain.iff fun x y => ?_
  rw [code_onLine_iff x (by decide), code_onLine_iff y (by decide), escaped_onLine, escaped_onLine]

theorem translate?_blockComment (text : String) :
    translate? (blockComment text).toList =
      (translate? text.toList).map fun us => guardEnds (us.map Symbol.onLine) := by
  rw [blockComment, String.toList_ofList, translate?, run_guardCommentEnd, run_singleLine,
    Option.map_map]
  rfl

theorem keepsComment_iff (text : String) :
    KeepsComment text ↔
      ∃ us, translate? (blockComment text).toList = some us ∧ EndsApart (us.map Symbol.code) := by
  simp only [KeepsComment, translate?_blockComment, Option.map_eq_some_iff]
  constructor
  · rintro ⟨us, hus, hshown⟩
    exact ⟨_, ⟨us, hus, rfl⟩,
      (endsApart_guardEnds_iff _).mpr ((endsShown_map_onLine_iff us).mpr hshown)⟩
  · rintro ⟨_, ⟨us, hus, rfl⟩, happart⟩
    exact ⟨us, hus, (endsShown_map_onLine_iff us).mp ((endsApart_guardEnds_iff _).mp happart)⟩

/-! ## Finding a comment -/

theorem endsApart_append_iff {xs ys : List Nat}
    (h : xs.getLast? ≠ some '*'.toNat ∨ ys.head? ≠ some '/'.toNat) :
    EndsApart (xs ++ ys) ↔ EndsApart xs ∧ EndsApart ys := by
  have hbetween : ∀ x ∈ xs.getLast?, ∀ y ∈ ys.head?, ¬ (x = '*'.toNat ∧ y = '/'.toNat) := by
    rintro x hx y hy ⟨rfl, rfl⟩
    exact h.elim (fun hlast => hlast hx) fun hhead => hhead hy
  rw [EndsApart, List.isChain_append, and_iff_left hbetween]
  rfl

theorem endsApart_of_not_mem {xs : List Nat} (h : '/'.toNat ∉ xs) : EndsApart xs := by
  induction xs with
  | nil => exact List.IsChain.nil
  | cons x xs ih =>
    obtain ⟨_, hxs⟩ := not_or.mp (List.mem_cons.not.mp h)
    exact endsApart_cons_iff.mpr ⟨fun _ hhead => hxs (List.mem_of_mem_head? hhead), ih hxs⟩

theorem mem_codes_iff {c : Char} {cs : List Char} : c.toNat ∈ codes cs ↔ c ∈ cs := by
  simp [codes, Char.toNat_inj]

theorem codes_append (xs ys : List Char) : codes (xs ++ ys) = codes xs ++ codes ys :=
  List.map_append

theorem map_code_raw (cs : List Char) : (cs.map Symbol.raw).map Symbol.code = codes cs := by
  rw [List.map_map]
  rfl

/-- A comment ends at the first star that is followed by a slash. -/
theorem cutAt?_end_eq_some_iff {xs ys zs : List Nat} :
    Text.cutAt? (codes "*/".toList) zs = some (xs, ys) ↔
      zs = xs ++ (codes "*/".toList ++ ys) ∧ EndsApart xs := by
  have hend : codes "*/".toList = ['*'.toNat, '/'.toNat] := rfl
  rw [Text.cutAt?_eq_some_iff (by decide), hend, List.cons_append,
    Text.noneBegins_pair_iff (by decide)]
  rfl

theorem docComment?_of_translate? {source : String} {before rest : List Nat}
    (h : (translate? source.toList).map (·.map Symbol.code) =
      some (before ++ (codes "/**".toList ++ rest)))
    (hbefore : '/'.toNat ∉ before) :
    docComment? source = Text.cutAt? (codes "*/".toList) rest := by
  obtain ⟨us, hus, hcodes⟩ := Option.map_eq_some_iff.mp h
  have hstart : codes "/**".toList = '/'.toNat :: codes "**".toList := rfl
  have hcut : Text.cutAt? (codes "/**".toList) (us.map Symbol.code) = some (before, rest) :=
    (Text.cutAt?_eq_some_iff (by decide)).mpr
      ⟨hcodes, hstart ▸ Text.noneBegins_of_not_mem hbefore⟩
  simp only [docComment?, hus, hcut, Option.bind_eq_bind, Option.bind_some]

theorem docComment?_eq_none {source : String} (h : translate? source.toList = none) :
    docComment? source = none := by
  rw [docComment?, h]
  rfl

end AppScaffold.Java

import AppScaffold.Proofs.Xml.RoundTrip

/-!
# Documents with their texts

The reader of documents drops what is blank between two tags. Where texts matter they are all kept,
also blank and empty ones, with their entities decoded and their line ends as they are: the two
readers differ at a `<` behind a text only, so a run of the one within a tag is a run of the other.
-/

set_option autoImplicit false

namespace AppScaffold.Xml

namespace Mode

/-- One step of the reader that keeps every text. -/
def stepKept : Mode → Char → Option (Mode × List Token)
  | .text seen, c =>
    if c = '<' then (decode? seen).map fun t => (.opening, [.text (String.ofList t)])
    else some (.text (seen ++ [c]), [])
  | m, c => m.step c

def readKept : Mode → List Char → Option (List Token)
  | .text seen, [] => (decode? seen).map fun t => [.text (String.ofList t)]
  | _, [] => none
  | m, c :: cs =>
    match m.stepKept c with
    | none => none
    | some (next, found) => (next.readKept cs).map (found ++ ·)

theorem stepKept_eq_step (m : Mode) {c : Char} (h : c ≠ '<') : m.stepKept c = m.step c := by
  cases m with
  | text seen => simp [stepKept, step, h]
  | _ => rfl

theorem readKept_cons (m : Mode) (c : Char) (cs : List Char) :
    m.readKept (c :: cs) =
      (m.stepKept c).bind fun r => (r.1.readKept cs).map (r.2 ++ ·) := by
  rw [readKept]
  cases m.stepKept c <;> rfl

theorem readKept_append {m next : Mode} {xs : List Char} {ts : List Token}
    (h : m.steps xs = some (next, ts)) (hlt : '<' ∉ xs) (ys : List Char) :
    m.readKept (xs ++ ys) = (next.readKept ys).map (ts ++ ·) := by
  induction xs generalizing m ts with
  | nil =>
    cases h
    simp
  | cons c xs ih =>
    obtain ⟨hc, hxs⟩ := not_or.mp (List.mem_cons.not.mp hlt)
    rw [List.cons_append, readKept_cons, stepKept_eq_step m (Ne.symm hc)]
    rw [steps] at h
    cases hstep : m.step c with
    | none => simp [hstep] at h
    | some r =>
      simp only [hstep, Option.map_eq_some_iff, Prod.mk.injEq] at h
      obtain ⟨⟨last, us⟩, hrun, rfl, rfl⟩ := h
      rw [Option.bind_some, ih hrun hxs, Option.map_map]
      simp [Function.comp_def]

theorem readKept_part (seen xs : List Char) (text : String) {tag after : List Char}
    {ts : List Token} (htext : decode? (seen ++ xs) = some text.toList) (hxs : '<' ∉ xs)
    (htag : opening.steps tag = some (.text after, ts)) (hlt : '<' ∉ tag) (ys : List Char) :
    (Mode.text seen).readKept (xs ++ '<' :: tag ++ ys) =
      ((Mode.text after).readKept ys).map (.text text :: ts ++ ·) := by
  have hall : xs.all (· != '<') :=
    List.all_eq_true.mpr fun c hc => bne_iff_ne.mpr fun heq => hxs (heq ▸ hc)
  have hgrow := steps_grow .text (fun _ _ hc => by simp [step, bne_iff_ne.mp hc]) hall seen
  have hopen : (Mode.text (seen ++ xs)).stepKept '<' = some (.opening, [.text text]) := by
    simp [stepKept, htext]
  rw [List.append_assoc, List.cons_append, readKept_append hgrow hxs, readKept_cons, hopen,
    Option.bind_some, readKept_append htag hlt, Option.map_map, Option.map_map]
  rfl

end Mode

/-- The forest of a document with all its texts. -/
def Node.ofKeptText? (s : String) : Option (List Node) :=
  ((Mode.text []).readKept s.toList).bind (assemble [] [])

end AppScaffold.Xml

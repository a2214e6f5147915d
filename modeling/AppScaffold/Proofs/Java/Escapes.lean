import Mathlib.Logic.Basic
import AppScaffold.Toml.Statement

/-!
# Unicode escapes

Before Java looks for anything in a program, it puts a character in the place of each escape: a
backslash, one or more `u` and four hexadecimal digits. A second backslash in a row starts no
escape, an escape that is cut short is an error, and what an escape gives starts no other one.
-/

set_option autoImplicit false

namespace AppScaffold.Java

/-- A character of a program by its number, and whether it was written as an escape. One that stands
for itself counts once, also where Java has two units for it. -/
structure Symbol where
  code : Nat
  escaped : Bool
deriving DecidableEq, Repr

def Symbol.raw (c : Char) : Symbol := ⟨c.toNat, false⟩

theorem Symbol.raw_inj {c d : Char} : Symbol.raw c = Symbol.raw d ↔ c = d := by
  rw [raw, raw, Symbol.mk.injEq, Char.toNat_inj, and_iff_left rfl]

inductive Mode where
  | plain
  /-- Behind a backslash that can start an escape. -/
  | backslash
  | marks
  /-- Between two digits: how many are missing, and the number so far. -/
  | digits (missing code : Nat)
deriving DecidableEq, Repr

namespace Mode

def step : Mode → Char → Option (Mode × List Symbol)
  | plain, c => some (if c = '\\' then (backslash, []) else (plain, [.raw c]))
  | backslash, c => some (if c = 'u' then (marks, []) else (plain, [.raw '\\', .raw c]))
  | marks, c => if c = 'u' then some (marks, []) else (Toml.hexValue? c).map (digits 3 ·, [])
  | digits missing code, c => (Toml.hexValue? c).map fun d =>
    if missing ≤ 1 then (plain, [⟨code * 16 + d, true⟩])
    else (digits (missing - 1) (code * 16 + d), [])

/-- What is left to give at the end of a text. -/
def finish : Mode → Option (List Symbol)
  | plain => some []
  | backslash => some [.raw '\\']
  | marks | digits _ _ => none

def run : Mode → List Char → Option (List Symbol)
  | m, [] => m.finish
  | m, c :: cs => (m.step c).bind fun (next, out) => (next.run cs).map (out ++ ·)

end Mode

/-- A text with its escapes translated; `none` when one of them is cut short. -/
def translate? (cs : List Char) : Option (List Symbol) := Mode.plain.run cs

namespace Mode

variable {m next : Mode} {c : Char} {out : List Symbol}

/-- A step gives nothing as long as an escape can come of what was read. -/
theorem step_cases (h : m.step c = some (next, out)) :
    next ≠ plain ∧ out = [] ∨ next = plain ∧ (m = plain ∧ out = [.raw c] ∨
      out = [.raw '\\', .raw c] ∨ ∃ code, out = [⟨code, true⟩]) := by
  cases m with
  | plain =>
    simp only [step, Option.some.injEq] at h
    split at h <;> obtain ⟨rfl, rfl⟩ := Prod.mk.inj h <;> simp
  | backslash =>
    simp only [step, Option.some.injEq] at h
    split at h <;> obtain ⟨rfl, rfl⟩ := Prod.mk.inj h <;> simp
  | marks =>
    simp only [step] at h
    split at h
    · obtain ⟨rfl, rfl⟩ := Prod.mk.inj (Option.some.inj h)
      simp
    · obtain ⟨d, _, heq⟩ := Option.map_eq_some_iff.mp h
      obtain ⟨rfl, rfl⟩ := Prod.mk.inj heq
      simp
  | digits missing code =>
    obtain ⟨d, _, heq⟩ := Option.map_eq_some_iff.mp h
    split at heq <;> obtain ⟨rfl, rfl⟩ := Prod.mk.inj heq <;> simp

theorem run_cons_of_step (h : m.step c = some (next, out)) (cs : List Char) :
    m.run (c :: cs) = (next.run cs).map (out ++ ·) := by
  rw [run, h, Option.bind_some]

theorem run_cons_of_step_none (h : m.step c = none) (cs : List Char) : m.run (c :: cs) = none := by
  rw [run, h, Option.bind_none]

/-- A character that can neither start an escape nor stand in one. -/
def Parts (c : Char) : Prop := c ≠ '\\' ∧ c ≠ 'u' ∧ Toml.hexValue? c = none

instance : DecidablePred Parts := fun c =>
  inferInstanceAs (Decidable (c ≠ '\\' ∧ c ≠ 'u' ∧ Toml.hexValue? c = none))

theorem run_cons_of_parts (h : Parts c) (m : Mode) (cs : List Char) :
    m.run (c :: cs) = m.finish.bind fun us => (plain.run (c :: cs)).map (us ++ ·) := by
  obtain ⟨hslash, hmark, hdigit⟩ := h
  cases m <;> simp [run, step, finish, hslash, hmark, hdigit, Function.comp_def]

theorem run_append_of_parts (h : Parts c) (m : Mode) (xs ys : List Char) :
    m.run (xs ++ c :: ys) = (m.run xs).bind fun us => (plain.run (c :: ys)).map (us ++ ·) := by
  induction xs generalizing m with
  | nil => exact run_cons_of_parts h m ys
  | cons x xs ih =>
    rw [List.cons_append, run, run, Option.bind_assoc]
    congr 1
    funext ⟨next, out⟩
    cases hxs : next.run xs <;> simp [ih, hxs, Function.comp_def]

end Mode

/-- Texts with a character between them that belongs to no escape are translated apart. -/
theorem translate?_append_of_parts {c : Char} (h : Mode.Parts c) (xs ys : List Char) :
    translate? (xs ++ c :: ys) =
      (translate? xs).bind fun us => (translate? (c :: ys)).map (us ++ ·) :=
  Mode.run_append_of_parts h .plain xs ys

theorem translate?_cons_of_ne {c : Char} (h : c ≠ '\\') (cs : List Char) :
    translate? (c :: cs) = (translate? cs).map (.raw c :: ·) := by
  simp [translate?, Mode.run, Mode.step, h]

theorem translate?_append_of_not_mem {xs : List Char} (h : '\\' ∉ xs) (ys : List Char) :
    translate? (xs ++ ys) = (translate? ys).map (xs.map .raw ++ ·) := by
  induction xs with
  | nil => simp
  | cons c xs ih =>
    obtain ⟨hc, hxs⟩ := not_or.mp (List.mem_cons.not.mp h)
    rw [List.cons_append, translate?_cons_of_ne (Ne.symm hc), ih hxs, Option.map_map]
    rfl

theorem translate?_of_not_mem {xs : List Char} (h : '\\' ∉ xs) :
    translate? xs = some (xs.map .raw) := by
  have hend : translate? [] = some [] := rfl
  simpa [hend] using translate?_append_of_not_mem h []

end AppScaffold.Java

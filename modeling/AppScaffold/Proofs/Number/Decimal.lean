import AppScaffold.Proofs.Number.Rounding
import AppScaffold.Proofs.Text.Split

/-!
# Decimal texts

The decimal text of a natural number consists of digits, different numbers have different texts, and
no text has a needless zero. A reader of decimals, with or without a point, gets the rounded number
back from a text with a fixed count of decimal places; this is `decimal?_fixed`.
-/

set_option autoImplicit false

namespace AppScaffold.Number

open Text (cut? cut?_append_cons cut?_of_not_mem eq_of_cut?)

variable {n n' : Nat} {cs whole fraction : List Char} {q : ℚ}

/-! ## Natural numbers -/

theorem isDigit_of_mem_repr {c : Char} (h : c ∈ (Nat.repr n).toList) : c.isDigit = true := by
  rw [Nat.toList_repr] at h
  exact Nat.isDigit_of_mem_toDigits (by decide) (by decide) h

theorem not_mem_repr {c : Char} (hc : c.isDigit = false) : c ∉ (Nat.repr n).toList := fun h =>
  Bool.false_ne_true (hc.symm.trans (isDigit_of_mem_repr h))

theorem repr_inj : Nat.repr n = Nat.repr n' ↔ n = n' := by
  refine ⟨fun h => ?_, congrArg Nat.repr⟩
  have hdigits := congrArg (Nat.ofDigitChars 10 · 0) (congrArg String.toList h)
  simpa only [Nat.toList_repr, Nat.ofDigitChars_toDigits (b := 10) (by decide) (by decide)]
    using hdigits

/-- The number that digits say, of which those behind a point are decimal places. -/
def decimal? (cs : List Char) : Option ℚ :=
  let parts := (cut? '.' cs).getD (cs, [])
  if !parts.1.isEmpty && (parts.1 ++ parts.2).all Char.isDigit then
    some (Nat.ofDigitChars 10 (parts.1 ++ parts.2) 0 / 10 ^ parts.2.length)
  else none

theorem point_not_mem (h : ∀ c ∈ cs, c.isDigit = true) : '.' ∉ cs := by
  intro hmem
  cases h '.' hmem

theorem decimal?_of_digits (hne : cs ≠ []) (h : ∀ c ∈ cs, c.isDigit = true) :
    decimal? cs = some (Nat.ofDigitChars 10 cs 0 : ℚ) := by
  unfold decimal?
  rw [cut?_of_not_mem (point_not_mem h)]
  simp [hne, List.all_eq_true.mpr h]

theorem decimal?_of_point (hne : whole ≠ []) (hwhole : ∀ c ∈ whole, c.isDigit = true)
    (hfraction : ∀ c ∈ fraction, c.isDigit = true) : decimal? (whole ++ '.' :: fraction) =
      some (Nat.ofDigitChars 10 (whole ++ fraction) 0 / 10 ^ fraction.length : ℚ) := by
  unfold decimal?
  rw [cut?_append_cons (point_not_mem hwhole)]
  simp [hne, List.all_eq_true.mpr hwhole, List.all_eq_true.mpr hfraction]

theorem of_decimal?_eq_some (h : decimal? cs = some q) :
    cs ≠ [] ∧ ∀ c ∈ cs, c.isDigit = true ∨ c = '.' := by
  unfold decimal? at h
  obtain ⟨hdigits, -⟩ := Option.ite_none_right_eq_some.mp h
  obtain ⟨hne, hdigits⟩ := Bool.and_eq_true_iff.mp hdigits
  have hall := List.all_eq_true.mp hdigits
  cases hcut : cut? '.' cs with
  | none =>
    rw [hcut] at hne hall
    constructor
    · intro hnil
      subst hnil
      cases hne
    · intro c hc
      exact Or.inl (hall c (List.mem_append_left [] hc))
  | some parts =>
    obtain ⟨whole, fraction⟩ := parts
    rw [hcut] at hall
    rw [eq_of_cut? hcut]
    constructor
    · intro hnil
      cases whole <;> cases hnil
    · intro c hc
      rcases List.mem_append.mp hc with hc | hc
      · exact Or.inl (hall c (List.mem_append_left fraction hc))
      · rcases List.mem_cons.mp hc with rfl | hc
        · exact Or.inr rfl
        · exact Or.inl (hall c (List.mem_append_right whole hc))

/-! ## Decimal places -/

namespace Binary

/-- The number in units of the last of some decimal places. -/
def scaled (places : Nat) (x : Binary) : Nat :=
  roundQuotient (x.num * Nat.pow 10 places) x.den

theorem scaled_mono {places : Nat} {x y : Binary} (h : x.value ≤ y.value) :
    x.scaled places ≤ y.scaled places := by
  apply roundQuotient_le_of_div_le x.den_pos y.den_pos
  rw [Nat.cast_mul, Nat.cast_mul, mul_div_right_comm, mul_div_right_comm, num_div_den, num_div_den]
  gcongr

/-- An even number of these units is reached from the half below it on. -/
theorem le_scaled_iff {places n : Nat} {x : Binary} (hn : n % 2 = 0) :
    n ≤ x.scaled places ↔ (n : ℚ) ≤ x.value * 10 ^ places + 1 / 2 := by
  have hden : (0 : ℚ) < x.den := Nat.cast_pos.mpr x.den_pos
  have hdouble : (0 : ℚ) < (2 * x.den : Nat) := Nat.cast_pos.mpr (Nat.mul_pos two_pos x.den_pos)
  have hscale : x.value * 10 ^ places + 1 / 2 =
      ((2 * (x.num * Nat.pow 10 places) + x.den : Nat) : ℚ) / (2 * x.den : Nat) := by
    rw [← num_div_den, Nat.pow_eq]
    push_cast
    field_simp
  rw [scaled, le_roundQuotient_iff x.den_pos hn, hscale, le_div_iff₀ hdouble,
    ← Nat.cast_mul, Nat.cast_le, Nat.mul_left_comm]

def paddedDigits (places n : Nat) : List Char :=
  List.replicate (places + 1 - (Nat.repr n).toList.length) '0' ++ (Nat.repr n).toList

variable {places : Nat}

theorem isDigit_of_mem_paddedDigits {c : Char} (h : c ∈ paddedDigits places n) :
    c.isDigit = true := by
  rcases List.mem_append.mp h with hc | hc
  · rw [List.eq_of_mem_replicate hc]
    rfl
  · exact isDigit_of_mem_repr hc

theorem lt_length_paddedDigits (places n : Nat) : places < (paddedDigits places n).length := by
  rw [paddedDigits, List.length_append, List.length_replicate]
  omega

theorem ofDigitChars_paddedDigits (places n : Nat) :
    Nat.ofDigitChars 10 (paddedDigits places n) 0 = n := by
  rw [paddedDigits, Nat.ofDigitChars_append, Nat.ofDigitChars_replicate_zero, Nat.mul_zero,
    Nat.toList_repr, Nat.ofDigitChars_toDigits (by decide) (by decide)]

theorem toList_fixed (places : Nat) (x : Binary) : (x.fixed places).toList =
    let digits := paddedDigits places (x.scaled places)
    let whole := digits.length - places
    if places = 0 then digits else digits.take whole ++ '.' :: digits.drop whole := by
  unfold fixed
  dsimp only
  split
  · exact String.toList_ofList
  · exact String.toList_ofList

/-- What is written with decimal places reads as the number rounded to these places. -/
theorem decimal?_fixed (places : Nat) (x : Binary) :
    decimal? (x.fixed places).toList = some (x.scaled places / 10 ^ places : ℚ) := by
  have hdigit (c : Char) (hc : c ∈ paddedDigits places (x.scaled places)) : c.isDigit = true :=
    isDigit_of_mem_paddedDigits hc
  have hlength := lt_length_paddedDigits places (x.scaled places)
  rw [toList_fixed]
  dsimp only
  split
  · rename_i hplaces
    subst hplaces
    have hne : paddedDigits 0 (x.scaled 0) ≠ [] := List.length_pos_iff.mp hlength
    rw [decimal?_of_digits hne hdigit, ofDigitChars_paddedDigits, pow_zero, div_one]
  · have hne : (paddedDigits places (x.scaled places)).take
        ((paddedDigits places (x.scaled places)).length - places) ≠ [] := by
      apply List.length_pos_iff.mp
      rw [List.length_take]
      omega
    rw [decimal?_of_point hne (fun c hc => hdigit c (List.mem_of_mem_take hc))
      (fun c hc => hdigit c (List.mem_of_mem_drop hc)), List.take_append_drop,
      ofDigitChars_paddedDigits, List.length_drop]
    rw [Nat.sub_sub_self hlength.le]

end Binary

end AppScaffold.Number

import Mathlib.Algebra.Order.Field.Power
import Mathlib.Algebra.Order.Floor.Semifield
import Mathlib.Data.Rat.Floor
import AppScaffold.Number.Binary

/-!
# Rounding

Rounding to a number of bits keeps the order of numbers, and an integer that has room in the bits
stays what it is. So arithmetic that is rounded grows with its operands.
-/

set_option autoImplicit false

namespace AppScaffold.Number

variable {a b a' b' : Nat}

theorem roundQuotient_mono (hb : 0 < b) (hb' : 0 < b') (h : a * b' ≤ a' * b) :
    roundQuotient a b ≤ roundQuotient a' b' := by
  have hquotient : a / b ≤ a' / b' := by
    rw [Nat.le_div_iff_mul_le hb']
    refine Nat.le_of_mul_le_mul_right (c := b) ?_ hb
    calc a / b * b' * b = a / b * b * b' := Nat.mul_right_comm _ _ _
      _ ≤ a * b' := Nat.mul_le_mul_right b' (Nat.div_mul_le_self a b)
      _ ≤ a' * b := h
  rcases Nat.lt_or_eq_of_le hquotient with hlt | heq
  · unfold roundQuotient
    dsimp only
    split <;> split <;> omega
  · -- of equal quotients the remainders are compared
    have hremainder : a % b * b' ≤ a' % b' * b := by
      have hleft : a * b' = b * (a / b) * b' + a % b * b' := by
        rw [← Nat.add_mul, Nat.div_add_mod]
      have hright : a' * b = b' * (a' / b') * b + a' % b' * b := by
        rw [← Nat.add_mul, Nat.div_add_mod]
      have hsame : b * (a / b) * b' = b' * (a' / b') * b := by rw [heq]; ring
      omega
    have hdouble : 2 * (a % b) * b' ≤ 2 * (a' % b') * b := by
      rw [Nat.mul_assoc, Nat.mul_assoc]
      exact Nat.mul_le_mul_left 2 hremainder
    unfold roundQuotient
    dsimp only
    rw [heq]
    split
    · rename_i hcase
      rw [if_pos]
      rcases hcase with hmore | ⟨htie, hodd⟩
      · refine Or.inl (Nat.lt_of_mul_lt_mul_right (a := b) ?_)
        rw [Nat.mul_comm b']
        exact (Nat.mul_lt_mul_of_pos_right hmore hb').trans_le hdouble
      · have hhalf : b' ≤ 2 * (a' % b') := by
          rw [htie, Nat.mul_comm b] at hdouble
          exact Nat.le_of_mul_le_mul_right hdouble hb
        rcases Nat.lt_or_eq_of_le hhalf with hmore | hsame
        · exact Or.inl hmore
        · exact Or.inr ⟨hsame.symm, hodd⟩
    · split <;> omega

theorem roundQuotient_mul (hb : 0 < b) (a : Nat) : roundQuotient (a * b) b = a := by
  simp [roundQuotient, Nat.mul_div_cancel a hb, hb.ne]

theorem roundQuotient_le_of_div_le (hb : 0 < b) (hb' : 0 < b') (h : (a : ℚ) / b ≤ a' / b') :
    roundQuotient a b ≤ roundQuotient a' b' := by
  rw [div_le_div_iff₀ (Nat.cast_pos.mpr hb) (Nat.cast_pos.mpr hb')] at h
  exact roundQuotient_mono hb hb' (by exact_mod_cast h)

theorem roundQuotient_of_div_eq {n : Nat} (hb : 0 < b) (h : (a : ℚ) / b = n) :
    roundQuotient a b = n := by
  rw [div_eq_iff (Nat.cast_ne_zero.mpr hb.ne')] at h
  rw [show a = n * b by exact_mod_cast h, roundQuotient_mul hb]

/-- An even integer is reached from the half below it on, since a tie goes to it. -/
theorem le_roundQuotient_iff {n : Nat} (hb : 0 < b) (hn : n % 2 = 0) :
    n ≤ roundQuotient a b ↔ 2 * (n * b) ≤ 2 * a + b := by
  have hdiv := Nat.div_add_mod a b
  have hmod := Nat.mod_lt a hb
  have hquotient (h : n ≤ a / b) : n * b ≤ b * (a / b) := by
    rw [Nat.mul_comm]
    exact Nat.mul_le_mul_left b h
  unfold roundQuotient
  dsimp only
  rcases Nat.lt_trichotomy n (a / b + 1) with hlt | rfl | hgt
  · have hle := hquotient (by omega)
    split <;> omega
  · have hmul : (a / b + 1) * b = b * (a / b) + b := by ring
    split <;> omega
  · have hmul : (a / b + 2) * b = b * (a / b) + 2 * b := by ring
    have hle : (a / b + 2) * b ≤ n * b := Nat.mul_le_mul_right b (by omega)
    split <;> omega

namespace Binary

def value (x : Binary) : ℚ := x.mantissa * 2 ^ x.exponent

theorem den_pos (x : Binary) : 0 < x.den := Nat.two_pow_pos _

theorem cast_pow (n : Nat) : ((Nat.pow 2 n : Nat) : ℚ) = 2 ^ n := by
  rw [Nat.pow_eq]
  exact Nat.cast_pow 2 n

theorem pow_toNat_div (e : Int) : (2 : ℚ) ^ e.toNat / 2 ^ (-e).toNat = 2 ^ e := by
  rcases Int.le_total 0 e with h | h
  · obtain ⟨n, rfl⟩ := Int.eq_ofNat_of_zero_le h
    simp
  · obtain ⟨n, hn⟩ := Int.eq_ofNat_of_zero_le (Int.neg_nonneg_of_nonpos h)
    obtain rfl : e = -(n : Int) := by omega
    simp

theorem num_div_den (x : Binary) : (x.num : ℚ) / x.den = x.value := by
  rw [num, den, Nat.cast_mul, cast_pow, cast_pow, mul_div_assoc, pow_toNat_div, value]

theorem value_nonneg (x : Binary) : 0 ≤ x.value := by
  rw [← num_div_den]
  positivity

variable {k num den num' den' : Nat}

/-! ## Rounding to bits -/

theorem scaled_div (num den : Nat) (e : Int) :
    ((num * Nat.pow 2 (-e).toNat : Nat) : ℚ) / (den * Nat.pow 2 e.toNat : Nat) =
      num / den / 2 ^ e := by
  rw [Nat.cast_mul, Nat.cast_mul, cast_pow, cast_pow, mul_div_mul_comm, div_eq_mul_inv _ (2 ^ e),
    ← zpow_neg, ← pow_toNat_div (-e), neg_neg]

theorem log_bounds {n : Nat} (h : 0 < n) : (2 : ℚ) ^ n.log2 ≤ n ∧ (n : ℚ) < 2 ^ (n.log2 + 1) :=
  ⟨by exact_mod_cast Nat.log2_self_le h.ne', by exact_mod_cast Nat.lt_log2_self⟩

/-- A fraction lies within a factor of two of the quotient of the leading powers of its parts. -/
theorem div_bounds (hnum : 0 < num) (hden : 0 < den) :
    (2 : ℚ) ^ ((num.log2 : Int) - den.log2 - 1) < num / den ∧
      (num : ℚ) / den < 2 ^ ((num.log2 : Int) - den.log2 + 1) := by
  obtain ⟨hlow, hhigh⟩ := log_bounds hnum
  obtain ⟨hlow', hhigh'⟩ := log_bounds hden
  have hpos : (0 : ℚ) < den := Nat.cast_pos.mpr hden
  have hpos' : (0 : ℚ) < num := Nat.cast_pos.mpr hnum
  have hleft : (2 : ℚ) ^ ((num.log2 : Int) - den.log2 - 1) =
      2 ^ num.log2 / 2 ^ (den.log2 + 1) := by
    rw [sub_sub, zpow_sub₀ two_ne_zero]
    norm_cast
  have hright : (2 : ℚ) ^ ((num.log2 : Int) - den.log2 + 1) =
      2 ^ (num.log2 + 1) / 2 ^ den.log2 := by
    rw [sub_add_eq_add_sub, zpow_sub₀ two_ne_zero]
    norm_cast
  rw [hleft, hright]
  exact ⟨div_lt_div₀' hlow hhigh' hpos' hpos,
    div_lt_div₀ hhigh hlow' (by positivity) (by positivity)⟩

/-- What rounding to bits does: the fraction is scaled until its integer part has just these
bits, and then rounded to an integer. -/
theorem exists_ofQuotient (k : Nat) (hnum : 0 < num) (hden : 0 < den) :
    ∃ (n d : Nat) (e : Int), ofQuotient (k + 1) num den = ⟨roundQuotient n d, e⟩ ∧ 0 < d ∧
      (n : ℚ) / d = num / den / 2 ^ e ∧ (2 : ℚ) ^ k ≤ n / d ∧ (n : ℚ) / d < 2 ^ (k + 1) := by
  obtain ⟨hlow, hhigh⟩ := div_bounds hnum hden
  set low : Int := (num.log2 : Int) - den.log2 - (k + 1 : Nat) with hlowDef
  have hd (e : Int) : 0 < den * Nat.pow 2 e.toNat := Nat.mul_pos hden (Nat.two_pow_pos _)
  -- the least exponent in question leaves the bits asked for or one bit more
  have hfew : (2 : ℚ) ^ k < num / den / 2 ^ low := by
    rw [lt_div_iff₀ (by positivity), ← zpow_natCast, ← zpow_add₀ two_ne_zero]
    rwa [show (k : Int) + low = (num.log2 : Int) - den.log2 - 1 by omega]
  have hmany : (num : ℚ) / den / 2 ^ low < 2 ^ (k + 2) := by
    rw [div_lt_iff₀ (by positivity), ← zpow_natCast, ← zpow_add₀ two_ne_zero]
    rwa [show ((k + 2 : Nat) : Int) + low = (num.log2 : Int) - den.log2 + 1 by omega]
  have hof : ofQuotient (k + 1) num den =
      let e := if Nat.pow 2 (k + 1) * (den * Nat.pow 2 low.toNat) ≤ num * Nat.pow 2 (-low).toNat
        then low + 1 else low
      ⟨roundQuotient (num * Nat.pow 2 (-e).toNat) (den * Nat.pow 2 e.toNat), e⟩ := by
    rw [ofQuotient, if_neg hnum.ne']
  have hcompare : Nat.pow 2 (k + 1) * (den * Nat.pow 2 low.toNat) ≤ num * Nat.pow 2 (-low).toNat ↔
      (2 : ℚ) ^ (k + 1) ≤ num / den / 2 ^ low := by
    rw [← scaled_div, le_div_iff₀ (Nat.cast_pos.mpr (hd low)), ← cast_pow]
    norm_cast
  rw [hof]
  dsimp only
  split
  · rename_i hcase
    refine ⟨_, _, _, rfl, hd _, scaled_div _ _ _, ?_, ?_⟩
    all_goals rw [scaled_div, zpow_add_one₀ two_ne_zero, ← div_div]
    · rw [le_div_iff₀ two_pos, ← pow_succ]
      exact hcompare.mp hcase
    · rwa [div_lt_iff₀ two_pos, ← pow_succ]
  · rename_i hcase
    refine ⟨_, _, _, rfl, hd _, scaled_div _ _ _, ?_, ?_⟩
    all_goals rw [scaled_div]
    · exact hfew.le
    · exact lt_of_not_ge (hcompare.not.mp hcase)

theorem ofQuotient_zero (k den : Nat) : (ofQuotient k 0 den).value = 0 := by
  simp [ofQuotient, value]

theorem value_ofQuotient_mono (hden : 0 < den) (hden' : 0 < den')
    (h : (num : ℚ) / den ≤ num' / den') :
    (ofQuotient (k + 1) num den).value ≤ (ofQuotient (k + 1) num' den').value := by
  obtain rfl | hnum := Nat.eq_zero_or_pos num
  · rw [ofQuotient_zero]
    exact value_nonneg _
  have hnum' : 0 < num' := by
    by_contra hzero
    rw [Nat.eq_zero_of_not_pos hzero, Nat.cast_zero, zero_div] at h
    have hpos : (0 : ℚ) < num / den := by positivity
    exact absurd hpos (not_lt.mpr h)
  obtain ⟨n, d, e, heq, hd, hscaled, hfew, hmany⟩ := exists_ofQuotient k hnum hden
  obtain ⟨n', d', e', heq', hd', hscaled', hfew', hmany'⟩ := exists_ofQuotient k hnum' hden'
  -- The greater fraction has its first bit at least as high, so it is not scaled down by less.
  have hexponent : e ≤ e' := by
    rw [hscaled, le_div_iff₀ (by positivity)] at hfew
    rw [hscaled', div_lt_iff₀ (by positivity)] at hmany'
    have hpowers := (hfew.trans h).trans_lt hmany'
    rw [← zpow_natCast, ← zpow_natCast, ← zpow_add₀ two_ne_zero, ← zpow_add₀ two_ne_zero,
      zpow_lt_zpow_iff_right₀ one_lt_two] at hpowers
    omega
  rw [heq, heq', value, value]
  dsimp only
  rcases Int.lt_or_eq_of_le hexponent with hlt | rfl
  · -- a power of two lies between the numbers, and stays what it is when it is rounded
    have hbelow : roundQuotient n d ≤ 2 ^ (k + 1) := by
      rw [← roundQuotient_mul Nat.one_pos (2 ^ (k + 1)), Nat.mul_one]
      exact roundQuotient_le_of_div_le hd Nat.one_pos (by simpa using hmany.le)
    have habove : 2 ^ k ≤ roundQuotient n' d' := by
      rw [← roundQuotient_mul Nat.one_pos (2 ^ k), Nat.mul_one]
      exact roundQuotient_le_of_div_le Nat.one_pos hd' (by simpa using hfew')
    calc (roundQuotient n d : ℚ) * 2 ^ e ≤ 2 ^ (k + 1) * 2 ^ e := by
          gcongr
          exact_mod_cast hbelow
      _ = 2 ^ k * 2 ^ (e + 1) := by rw [zpow_add_one₀ two_ne_zero, pow_succ]; ring
      _ ≤ 2 ^ k * 2 ^ e' := by
          gcongr
          · exact one_le_two
          · exact hlt
      _ ≤ roundQuotient n' d' * 2 ^ e' := by
          gcongr
          exact_mod_cast habove
  -- Scaled alike, the fractions are rounded to integers in the same order.
  · gcongr
    refine roundQuotient_le_of_div_le hd hd' ?_
    rw [hscaled, hscaled']
    gcongr

/-- A number that has room in the bits is its own rounding, wherever its digits stand. -/
theorem value_ofQuotient_of_eq {n : Nat} {e : Int} (hden : 0 < den)
    (h : (num : ℚ) / den = n * 2 ^ e) (hn : n < 2 ^ (k + 1)) :
    (ofQuotient (k + 1) num den).value = n * 2 ^ e := by
  obtain rfl | hnum := Nat.eq_zero_or_pos num
  · rw [ofQuotient_zero, ← h, Nat.cast_zero, zero_div]
  obtain ⟨m, d, e', heq, hd, hscaled, hfew, hmany⟩ := exists_ofQuotient k hnum hden
  have hexponent : e' ≤ e := by
    rw [hscaled, h, le_div_iff₀ (by positivity)] at hfew
    have hroom : (n : ℚ) * 2 ^ e < 2 ^ (k + 1) * 2 ^ e := by
      gcongr
      exact_mod_cast hn
    have hpowers := hfew.trans_lt hroom
    rw [← zpow_natCast, ← zpow_natCast, ← zpow_add₀ two_ne_zero, ← zpow_add₀ two_ne_zero,
      zpow_lt_zpow_iff_right₀ one_lt_two] at hpowers
    omega
  obtain ⟨j, hj⟩ := Int.eq_ofNat_of_zero_le (Int.sub_nonneg_of_le hexponent)
  have hwhole : (m : ℚ) / d = (n * 2 ^ j : Nat) := by
    rw [hscaled, h, mul_div_assoc, ← zpow_sub₀ two_ne_zero, hj]
    norm_cast
  rw [heq, value, roundQuotient_of_div_eq hd hwhole]
  dsimp only
  rw [Nat.cast_mul, Nat.cast_pow, Nat.cast_ofNat, mul_assoc, ← zpow_natCast,
    ← zpow_add₀ two_ne_zero, ← hj, sub_add_cancel]

theorem value_ofQuotient_natCast {n : Nat} (hden : 0 < den) (h : (num : ℚ) / den = n)
    (hn : n < 2 ^ (k + 1)) : (ofQuotient (k + 1) num den).value = n := by
  have hvalue := value_ofQuotient_of_eq (e := 0) hden (by rw [h, zpow_zero, mul_one]) hn
  rwa [zpow_zero, mul_one] at hvalue

/-- What was rounded to bits is a mantissa of no more than these bits at some place, or the next
power of two. -/
theorem exists_value_ofQuotient (k : Nat) (hden : 0 < den) : ∃ (n : Nat) (e : Int),
    n ≤ 2 ^ (k + 1) ∧ (ofQuotient (k + 1) num den).value = n * 2 ^ e := by
  obtain rfl | hnum := Nat.eq_zero_or_pos num
  · exact ⟨0, 0, Nat.zero_le _, by rw [ofQuotient_zero, Nat.cast_zero, zero_mul]⟩
  obtain ⟨n, d, e, heq, hd, -, -, hmany⟩ := exists_ofQuotient k hnum hden
  refine ⟨roundQuotient n d, e, ?_, by rw [heq, value]⟩
  rw [← roundQuotient_mul Nat.one_pos (2 ^ (k + 1)), Nat.mul_one]
  exact roundQuotient_le_of_div_le hd Nat.one_pos (by simpa using hmany.le)

/-! ## Arithmetic -/

variable {x x' y y' : Binary} {n n' : Nat}

theorem value_ofNat_mono (h : n ≤ n') : (ofNat (k + 1) n).value ≤ (ofNat (k + 1) n').value := by
  refine value_ofQuotient_mono Nat.one_pos Nat.one_pos ?_
  gcongr

theorem value_ofNat (hn : n < 2 ^ (k + 1)) : (ofNat (k + 1) n).value = n :=
  value_ofQuotient_natCast Nat.one_pos (by rw [Nat.cast_one, div_one]) hn

theorem mul_num_div_den (x y : Binary) :
    ((x.num * y.num : Nat) : ℚ) / (x.den * y.den : Nat) = x.value * y.value := by
  rw [Nat.cast_mul, Nat.cast_mul, mul_div_mul_comm, num_div_den, num_div_den]

theorem value_mul_mono (hx : x.value ≤ x'.value) (hy : y.value ≤ y'.value) :
    (mul (k + 1) x y).value ≤ (mul (k + 1) x' y').value := by
  refine value_ofQuotient_mono (Nat.mul_pos x.den_pos y.den_pos)
    (Nat.mul_pos x'.den_pos y'.den_pos) ?_
  rw [mul_num_div_den, mul_num_div_den]
  exact mul_le_mul hx hy y.value_nonneg x'.value_nonneg

theorem value_mul_of_eq (h : x.value * y.value = n) (hn : n < 2 ^ (k + 1)) :
    (mul (k + 1) x y).value = n :=
  value_ofQuotient_natCast (Nat.mul_pos x.den_pos y.den_pos) ((mul_num_div_den x y).trans h) hn

theorem add_num_div_den (x y : Binary) :
    ((x.num * y.den + y.num * x.den : Nat) : ℚ) / (x.den * y.den : Nat) = x.value + y.value := by
  have hx : (x.den : ℚ) ≠ 0 := Nat.cast_ne_zero.mpr x.den_pos.ne'
  have hy : (y.den : ℚ) ≠ 0 := Nat.cast_ne_zero.mpr y.den_pos.ne'
  rw [← num_div_den, ← num_div_den, div_add_div _ _ hx hy]
  push_cast
  ring

theorem value_add_mono (hx : x.value ≤ x'.value) (hy : y.value ≤ y'.value) :
    (add (k + 1) x y).value ≤ (add (k + 1) x' y').value := by
  apply value_ofQuotient_mono (Nat.mul_pos x.den_pos y.den_pos)
    (Nat.mul_pos x'.den_pos y'.den_pos)
  rw [add_num_div_den, add_num_div_den]
  exact add_le_add hx hy

theorem div_num_div_den (x y : Binary) :
    ((x.num * y.den : Nat) : ℚ) / (x.den * y.num : Nat) = x.value / y.value := by
  rw [Nat.cast_mul, Nat.cast_mul, mul_div_mul_comm, num_div_den, ← num_div_den y,
    div_div_eq_mul_div, mul_div_assoc]

theorem num_pos (h : 0 < x.value) : 0 < x.num := by
  by_contra hzero
  rw [← num_div_den, Nat.eq_zero_of_not_pos hzero, Nat.cast_zero, zero_div] at h
  exact lt_irrefl 0 h

theorem value_div_mono (hx : x.value ≤ x'.value) (hy : 0 < y.value) :
    (div (k + 1) x y).value ≤ (div (k + 1) x' y).value := by
  refine value_ofQuotient_mono (Nat.mul_pos x.den_pos (num_pos hy))
    (Nat.mul_pos x'.den_pos (num_pos hy)) ?_
  rw [div_num_div_den, div_num_div_den]
  gcongr

theorem value_div_of_eq (hy : 0 < y.value) (h : x.value / y.value = n) (hn : n < 2 ^ (k + 1)) :
    (div (k + 1) x y).value = n :=
  value_ofQuotient_natCast (Nat.mul_pos x.den_pos (num_pos hy)) ((div_num_div_den x y).trans h) hn

theorem lt_iff : x.lt y = true ↔ x.value < y.value := by
  have hx : (0 : ℚ) < x.den := Nat.cast_pos.mpr x.den_pos
  have hy : (0 : ℚ) < y.den := Nat.cast_pos.mpr y.den_pos
  rw [lt, decide_eq_true_iff, ← num_div_den x, ← num_div_den y, div_lt_div_iff₀ hx hy]
  norm_cast

/-! ## Remainders -/

theorem rem_num_div_den (x y : Binary) :
    (((x.num * y.den) % (y.num * x.den) : Nat) : ℚ) / (x.den * y.den : Nat) =
      x.value - y.value * ⌊x.value / y.value⌋₊ := by
  have hx : (x.den : ℚ) ≠ 0 := Nat.cast_ne_zero.mpr x.den_pos.ne'
  have hden : (y.den : ℚ) ≠ 0 := Nat.cast_ne_zero.mpr y.den_pos.ne'
  have hfloor : ⌊x.value / y.value⌋₊ = x.num * y.den / (y.num * x.den) := by
    rw [← div_num_div_den, Nat.floor_div_eq_div, Nat.mul_comm x.den]
  have hsplit : (((x.num * y.den) % (y.num * x.den) : Nat) : ℚ) = (x.num * y.den : Nat) -
      (y.num * x.den : Nat) * (x.num * y.den / (y.num * x.den) : Nat) := by
    rw [eq_sub_iff_add_eq']
    exact_mod_cast Nat.div_add_mod (x.num * y.den) (y.num * x.den)
  rw [hsplit, hfloor, ← num_div_den x, ← num_div_den y]
  push_cast
  field_simp

/-- The remainder of two numbers with digits at the same places needs no rounding when the divisor
has room in the bits. -/
theorem value_rem_of_eq {m : Nat} {e : Int} (hx : x.value = n * 2 ^ e) (hy : y.value = m * 2 ^ e)
    (hm : 0 < m) (hroom : m ≤ 2 ^ (k + 1)) :
    (rem (k + 1) x y).value = x.value - y.value * ⌊x.value / y.value⌋₊ := by
  have hfloor : ⌊x.value / y.value⌋₊ = n / m := by
    rw [hx, hy, mul_div_mul_right _ _ (by positivity), Nat.floor_div_eq_div]
  have hrest : x.value - y.value * ⌊x.value / y.value⌋₊ = (n % m : Nat) * 2 ^ e := by
    have hsplit : (n : ℚ) = m * (n / m : Nat) + (n % m : Nat) := by
      exact_mod_cast (Nat.div_add_mod n m).symm
    rw [hfloor, hx, hy, hsplit]
    ring
  rw [hrest]
  apply value_ofQuotient_of_eq (Nat.mul_pos x.den_pos y.den_pos)
  · rw [rem_num_div_den, hrest]
  · exact (Nat.mod_lt n hm).trans_le hroom

/-! ## Integers -/

theorem roundUpHalf_eq (x : Binary) : x.roundUpHalf = ⌊x.value + 1 / 2⌋₊ := by
  have hden : (0 : ℚ) < x.den := Nat.cast_pos.mpr x.den_pos
  have hsum : x.value + 1 / 2 = ((2 * x.num + x.den : Nat) : ℚ) / (2 * x.den : Nat) := by
    rw [← num_div_den, div_add_div _ _ hden.ne' two_ne_zero]
    push_cast
    ring
  rw [hsum, Nat.floor_div_eq_div, roundUpHalf]

theorem roundUpHalf_mono (h : x.value ≤ y.value) : x.roundUpHalf ≤ y.roundUpHalf := by
  rw [roundUpHalf_eq, roundUpHalf_eq]
  gcongr

theorem roundUpHalf_of_value (h : x.value = n) : x.roundUpHalf = n := by
  rw [roundUpHalf_eq, h, Nat.floor_eq_iff (by positivity)]
  constructor <;> linarith

end Binary

end AppScaffold.Number

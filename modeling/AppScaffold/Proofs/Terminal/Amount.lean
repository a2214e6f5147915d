import Mathlib.Order.Monotone.Basic
import AppScaffold.Proofs.Number.Decimal
import AppScaffold.Terminal.Amount

/-!
# What amounts for the eye show

Sizes and lengths of time are read back from their texts. As the unit is chosen before the number
is rounded, the amounts just below the next unit are shown as this unit in the smaller one; the
main statement says which amounts these are.
-/

set_option autoImplicit false

namespace AppScaffold.Terminal

open Number (Binary decimal? of_decimal?_eq_some)
open Telemetry (Duration)
open Text (append_cons_inj_of_not_mem_right)

def Shows (text unit : String) (q : ℚ) : Prop :=
  ∃ number : String, text = number ++ unit ∧ decimal? number.toList = some q

def ShowsMinutes (text : String) (q : ℚ) : Prop :=
  ∃ minutes rest : String, text = minutes ++ "m " ++ rest ∧ Shows rest "s" q

variable {text unit : String} {q q' : ℚ} {x : Binary} {d d' : Duration} {places bytes : Nat}

/-! ## Reading -/

theorem not_mem_of_decimal? {cs : List Char} {c : Char} (h : decimal? cs = some q)
    (hdigit : c.isDigit = false) (hpoint : c ≠ '.') : c ∉ cs := by
  intro hmem
  rcases (of_decimal?_eq_some h).2 c hmem with hc | hc
  · exact Bool.false_ne_true (hdigit.symm.trans hc)
  · exact hpoint hc

theorem shows_append_iff {number : String} :
    Shows (number ++ unit) unit q ↔ decimal? number.toList = some q := by
  constructor
  · rintro ⟨number', htext, hread⟩
    rw [← String.toList_inj, String.toList_append, String.toList_append] at htext
    rwa [List.append_cancel_right htext]
  · intro hread
    exact ⟨number, rfl, hread⟩

theorem shows_fixed_iff : Shows (x.fixed places ++ unit) unit q ↔
    q = x.scaled places / 10 ^ places := by
  rw [shows_append_iff, x.decimal?_fixed, Option.some_inj, eq_comm]

theorem Shows.space_not_mem (h : Shows text unit q) (hunit : ' ' ∉ unit.toList) :
    ' ' ∉ text.toList := by
  obtain ⟨number, rfl, hread⟩ := h
  rw [String.toList_append, List.mem_append, not_or]
  exact ⟨not_mem_of_decimal? hread rfl (by decide), hunit⟩

theorem ShowsMinutes.space_mem (h : ShowsMinutes text q) : ' ' ∈ text.toList := by
  obtain ⟨minutes, rest, rfl, -⟩ := h
  simp

theorem ShowsMinutes.not_shows (h : ShowsMinutes text q) (hunit : ' ' ∉ unit.toList) :
    ¬ Shows text unit q' := by
  intro hshows
  exact hshows.space_not_mem hunit h.space_mem

theorem Shows.not_seconds (h : Shows text "ms" q) : ¬ Shows text "s" q' := by
  obtain ⟨number, rfl, -⟩ := h
  rw [show number ++ "ms" = number ++ "m" ++ "s" by rw [String.append_assoc]; rfl,
    shows_append_iff]
  intro hread
  refine not_mem_of_decimal? (c := 'm') hread rfl (by decide) ?_
  simp

theorem showsMinutes_append_iff {minutes rest : String} (hrest : ' ' ∉ rest.toList) :
    ShowsMinutes (minutes ++ "m " ++ rest) q ↔ Shows rest "s" q := by
  constructor
  · rintro ⟨minutes', rest', htext, hshows⟩
    have hrest' := hshows.space_not_mem (by decide)
    have hparts (s t : String) :
        (s ++ "m " ++ t).toList = (s.toList ++ ['m']) ++ ' ' :: t.toList := by simp
    rw [← String.toList_inj, hparts, hparts, append_cons_inj_of_not_mem_right hrest hrest'] at htext
    rwa [String.toList_inj.mp htext.2]
  · intro hshows
    exact ⟨minutes, rest, rfl, hshows⟩

theorem not_shows_of_unit_ne {s u v : String} (hu : ' ' ∉ u.toList) (hv : ' ' ∉ v.toList)
    (hne : u ≠ v) : ¬ Shows (s ++ (" " ++ u)) (" " ++ v) q := by
  rintro ⟨number, htext, -⟩
  rw [← String.toList_inj] at htext
  simp only [String.toList_append] at htext
  exact hne (String.toList_inj.mp ((append_cons_inj_of_not_mem_right hu hv).mp htext).2)

/-! ## Sizes -/

def inUnits (bytes unit : Nat) : Binary := Binary.div 53 (.ofNat 53 bytes) (.ofNat 53 unit)

theorem shows_size_iff : Shows (size bytes) " KB" q ↔
    kilobyte ≤ bytes ∧ bytes < megabyte ∧ q = (inUnits bytes kilobyte).scaled 1 / 10 := by
  unfold size
  dsimp only
  split
  · rename_i hmegabyte
    apply iff_of_false
    · exact not_shows_of_unit_ne (u := "MB") (v := "KB") (by decide) (by decide) (by decide)
    · omega
  · split
    · rename_i hmegabyte hkilobyte
      rw [shows_fixed_iff, pow_one, and_iff_right hkilobyte, and_iff_right (by omega)]
      rfl
    · apply iff_of_false
      · exact not_shows_of_unit_ne (u := "B") (v := "KB") (by decide) (by decide) (by decide)
      · omega

/-! ## Lengths of time -/

theorem ofNat_value {n : Nat} (hn : n < 2 ^ 24) : (Binary.ofNat 24 n).value = n :=
  Binary.value_ofNat (k := 23) hn

theorem lt_ofNat_iff {n : Nat} (hn : n < 2 ^ 24) :
    x.lt (.ofNat 24 n) = true ↔ x.value < n := by
  rw [Binary.lt_iff, ofNat_value hn]

theorem duration_of_lt_one (h : (d.toSeconds 24).value < 1) :
    duration d = (d.toMilliseconds 24).fixed 0 ++ "ms" := by
  unfold duration
  dsimp only
  rw [if_pos]
  · rfl
  · rwa [lt_ofNat_iff (by decide), Nat.cast_one]

theorem duration_of_lt_sixty (h : 1 ≤ (d.toSeconds 24).value) (h' : (d.toSeconds 24).value < 60) :
    duration d = (d.toSeconds 24).fixed 1 ++ "s" := by
  unfold duration
  dsimp only
  rw [if_neg, if_pos]
  · rwa [lt_ofNat_iff (by decide), Nat.cast_ofNat]
  · rwa [lt_ofNat_iff (by decide), Nat.cast_one, not_lt]

def pastMinutes (d : Duration) : Binary := Binary.rem 24 (d.toSeconds 24) (.ofNat 24 60)

theorem duration_of_sixty_le (h : 60 ≤ (d.toSeconds 24).value) :
    ∃ minutes, duration d = minutes ++ "m " ++ ((pastMinutes d).fixed 0 ++ "s") := by
  refine ⟨wholeNumber (Binary.div 24 (d.toSeconds 24) (.ofNat 24 60)).floor, ?_⟩
  unfold duration
  dsimp only
  rw [if_neg, if_neg, String.append_assoc]
  · rfl
  · rwa [lt_ofNat_iff (by decide), Nat.cast_ofNat, not_lt]
  · rw [lt_ofNat_iff (by decide), Nat.cast_one, not_lt]
    linarith

theorem shows_of_lt_one (h : (d.toSeconds 24).value < 1) :
    Shows (duration d) "ms" q ↔ q = (d.toMilliseconds 24).scaled 0 := by
  rw [duration_of_lt_one h, shows_fixed_iff, pow_zero, div_one]

theorem shows_of_lt_sixty (h : 1 ≤ (d.toSeconds 24).value) (h' : (d.toSeconds 24).value < 60) :
    Shows (duration d) "s" q ↔ q = (d.toSeconds 24).scaled 1 / 10 := by
  rw [duration_of_lt_sixty h h', shows_fixed_iff, pow_one]

theorem showsMinutes_of_sixty_le (h : 60 ≤ (d.toSeconds 24).value) :
    ShowsMinutes (duration d) q ↔ q = (pastMinutes d).scaled 0 := by
  obtain ⟨minutes, htext⟩ := duration_of_sixty_le h
  have hrest : ' ' ∉ ((pastMinutes d).fixed 0 ++ "s").toList :=
    (shows_fixed_iff.mpr rfl).space_not_mem (by decide)
  rw [htext, showsMinutes_append_iff hrest, shows_fixed_iff, pow_zero, div_one]

theorem shows_milliseconds_iff : Shows (duration d) "ms" q ↔
    (d.toSeconds 24).value < 1 ∧ q = (d.toMilliseconds 24).scaled 0 := by
  rcases lt_or_ge (d.toSeconds 24).value 1 with hone | hone
  · rw [shows_of_lt_one hone, and_iff_right hone]
  · apply iff_of_false _ (fun h => not_lt.mpr hone h.1)
    rcases lt_or_ge (d.toSeconds 24).value 60 with hsixty | hsixty
    · intro hshows
      exact hshows.not_seconds ((shows_of_lt_sixty hone hsixty).mpr rfl)
    · exact ((showsMinutes_of_sixty_le hsixty).mpr rfl).not_shows (by decide)

theorem shows_seconds_iff : Shows (duration d) "s" q ↔
    1 ≤ (d.toSeconds 24).value ∧ (d.toSeconds 24).value < 60 ∧
      q = (d.toSeconds 24).scaled 1 / 10 := by
  rcases lt_or_ge (d.toSeconds 24).value 1 with hone | hone
  · apply iff_of_false _ (fun h => not_lt.mpr h.1 hone)
    exact ((shows_of_lt_one hone).mpr rfl).not_seconds
  · rcases lt_or_ge (d.toSeconds 24).value 60 with hsixty | hsixty
    · rw [shows_of_lt_sixty hone hsixty, and_iff_right hone, and_iff_right hsixty]
    · apply iff_of_false _ (fun h => not_lt.mpr hsixty h.2.1)
      exact ((showsMinutes_of_sixty_le hsixty).mpr rfl).not_shows (by decide)

theorem showsMinutes_iff : ShowsMinutes (duration d) q ↔
    60 ≤ (d.toSeconds 24).value ∧ q = (pastMinutes d).scaled 0 := by
  rcases lt_or_ge (d.toSeconds 24).value 60 with hsixty | hsixty
  · apply iff_of_false _ (fun h => not_lt.mpr h.1 hsixty)
    intro hminutes
    rcases lt_or_ge (d.toSeconds 24).value 1 with hone | hone
    · exact hminutes.not_shows (by decide) ((shows_of_lt_one hone).mpr rfl)
    · exact hminutes.not_shows (by decide) ((shows_of_lt_sixty hone hsixty).mpr rfl)
  · rw [showsMinutes_of_sixty_le hsixty, and_iff_right hsixty]

/-! ## Amounts of the next unit -/

theorem inUnits_value (h : bytes < megabyte) :
    (inUnits bytes kilobyte).value = bytes * 2 ^ (-10 : Int) := by
  have hbytes : (Binary.ofNat 53 bytes).value = bytes :=
    Binary.value_ofNat (k := 52) (h.trans (by decide))
  have hunit : (Binary.ofNat 53 kilobyte).value = kilobyte :=
    Binary.value_ofNat (k := 52) (by decide)
  have hpos : 0 < (Binary.ofNat 53 kilobyte).value := by
    rw [hunit]
    norm_num [kilobyte]
  apply Binary.value_ofQuotient_of_eq (k := 52)
  · exact Nat.mul_pos (Binary.den_pos _) (Binary.num_pos hpos)
  · rw [Binary.div_num_div_den, hbytes, hunit]
    norm_num [kilobyte, div_eq_mul_inv]
  · exact h.trans (by decide)

theorem le_inUnits_iff (h : bytes < megabyte) :
    1024 ≤ ((inUnits bytes kilobyte).scaled 1 / 10 : ℚ) ↔ 1048525 ≤ bytes := by
  have htenths : 1024 ≤ ((inUnits bytes kilobyte).scaled 1 / 10 : ℚ) ↔
      10240 ≤ (inUnits bytes kilobyte).scaled 1 := by
    rw [le_div_iff₀ (by norm_num)]
    norm_num
  have hquotient : (bytes : ℚ) * 2 ^ (-10 : Int) * 10 ^ 1 + 1 / 2 =
      (20 * bytes + 1024 : Nat) / 2048 := by
    push_cast
    ring
  rw [htenths, Binary.le_scaled_iff (by decide), inUnits_value h, hquotient,
    le_div_iff₀ (by norm_num)]
  norm_cast
  omega

theorem size_of_next_unit_iff :
    (∃ q, 1024 ≤ q ∧ Shows (size bytes) " KB" q) ↔ 1048525 ≤ bytes ∧ bytes < 1048576 := by
  constructor
  · rintro ⟨q, hq, hshows⟩
    obtain ⟨-, hlt, rfl⟩ := shows_size_iff.mp hshows
    exact ⟨(le_inUnits_iff hlt).mp hq, hlt⟩
  · rintro ⟨hle, hlt⟩
    refine ⟨_, (le_inUnits_iff hlt).mpr hle, shows_size_iff.mpr ⟨?_, hlt, rfl⟩⟩
    exact le_trans (by decide) hle

theorem toSeconds_mono (hs : d.seconds ≤ d'.seconds) (hn : d.nanoseconds ≤ d'.nanoseconds) :
    (d.toSeconds 24).value ≤ (d'.toSeconds 24).value := by
  apply Binary.value_add_mono (k := 23)
  · exact Binary.value_ofNat_mono (k := 23) hs
  · apply Binary.value_div_mono (k := 23)
    · exact Binary.value_ofNat_mono (k := 23) hn
    · have hone := Binary.value_ofNat_mono (k := 23) (show 1 ≤ 1000000000 by decide)
      rw [ofNat_value (by decide), Nat.cast_one] at hone
      exact one_pos.trans_le hone

theorem toMilliseconds_mono (hs : d.seconds ≤ d'.seconds)
    (hn : d.nanoseconds ≤ d'.nanoseconds) :
    (d.toMilliseconds 24).value ≤ (d'.toMilliseconds 24).value :=
  Binary.value_mul_mono (k := 23) (toSeconds_mono hs hn) le_rfl

/-! ### Where rounding to 24 bits and to decimal places gets to -/

/-- What longer times keep, and no time below some length has, begins at this length. -/
theorem begins_iff {P : Duration → Prop} {s n : Nat}
    (hP : ∀ d d' : Duration, d.seconds ≤ d'.seconds → d.nanoseconds ≤ d'.nanoseconds → P d → P d')
    (hless : ∀ s' < s, ¬ P ⟨s', 1000000000⟩) (hbelow : ¬ P ⟨s, n⟩) (hat : P ⟨s, n + 1⟩)
    (hmore : P ⟨s + 1, 0⟩) (hd : d.nanoseconds < 1000000000) :
    P d ↔ s < d.seconds ∨ (s = d.seconds ∧ n < d.nanoseconds) := by
  rcases Nat.lt_trichotomy s d.seconds with hlt | heq | hgt
  · exact iff_of_true (hP ⟨s + 1, 0⟩ d hlt (Nat.zero_le _) hmore) (Or.inl hlt)
  · rcases Nat.lt_or_ge n d.nanoseconds with hn | hn
    · exact iff_of_true (hP ⟨s, n + 1⟩ d heq.le hn hat) (Or.inr ⟨heq, hn⟩)
    · apply iff_of_false
      · exact fun h => hbelow (hP d ⟨s, n⟩ heq.ge hn h)
      · omega
  · apply iff_of_false
    · exact fun h => hless d.seconds hgt (hP d ⟨d.seconds, 1000000000⟩ le_rfl hd.le h)
    · omega

theorem not_lt_mono {y : Binary} (hs : d.seconds ≤ d'.seconds)
    (hn : d.nanoseconds ≤ d'.nanoseconds) (h : ¬ (d.toSeconds 24).lt y) :
    ¬ (d'.toSeconds 24).lt y := by
  rw [Binary.lt_iff, not_lt] at *
  exact h.trans (toSeconds_mono hs hn)

theorem one_le_toSeconds_iff (hd : d.nanoseconds < 1000000000) :
    1 ≤ (d.toSeconds 24).value ↔
      0 < d.seconds ∨ (0 = d.seconds ∧ 999999967 < d.nanoseconds) := by
  have hone : 1 ≤ (d.toSeconds 24).value ↔ ¬ (d.toSeconds 24).lt (.ofNat 24 1) := by
    rw [lt_ofNat_iff (by decide), Nat.cast_one, not_lt]
  rw [hone]
  apply begins_iff (P := fun d => ¬ (d.toSeconds 24).lt (.ofNat 24 1)) _ _ _ _ _ hd
  · exact fun _ _ => not_lt_mono
  · exact fun s' hs' => absurd hs' (Nat.not_lt_zero s')
  · decide +kernel
  · decide +kernel
  · decide +kernel

theorem sixty_le_toSeconds_iff (hd : d.nanoseconds < 1000000000) :
    60 ≤ (d.toSeconds 24).value ↔
      59 < d.seconds ∨ (59 = d.seconds ∧ 999998047 < d.nanoseconds) := by
  have hsixty : 60 ≤ (d.toSeconds 24).value ↔ ¬ (d.toSeconds 24).lt (.ofNat 24 60) := by
    rw [lt_ofNat_iff (by decide), Nat.cast_ofNat, not_lt]
  rw [hsixty]
  apply begins_iff (P := fun d => ¬ (d.toSeconds 24).lt (.ofNat 24 60)) _ _ _ _ _ hd
  · exact fun _ _ => not_lt_mono
  · decide +kernel
  · decide +kernel
  · decide +kernel
  · decide +kernel

theorem thousand_le_scaled_iff (hd : d.nanoseconds < 1000000000) :
    1000 ≤ (d.toMilliseconds 24).scaled 0 ↔
      0 < d.seconds ∨ (0 = d.seconds ∧ 999499936 < d.nanoseconds) := by
  apply begins_iff (P := fun d => 1000 ≤ (d.toMilliseconds 24).scaled 0) _ _ _ _ _ hd
  · intro d d' hs hn h
    exact h.trans (Binary.scaled_mono (toMilliseconds_mono hs hn))
  · exact fun s' hs' => absurd hs' (Nat.not_lt_zero s')
  · decide +kernel
  · decide +kernel
  · decide +kernel

theorem sixhundred_le_scaled_iff (hd : d.nanoseconds < 1000000000) :
    600 ≤ (d.toSeconds 24).scaled 1 ↔
      59 < d.seconds ∨ (59 = d.seconds ∧ 949998880 < d.nanoseconds) := by
  apply begins_iff (P := fun d => 600 ≤ (d.toSeconds 24).scaled 1) _ _ _ _ _ hd
  · intro d d' hs hn h
    exact h.trans (Binary.scaled_mono (toSeconds_mono hs hn))
  · decide +kernel
  · decide +kernel
  · decide +kernel
  · decide +kernel

/-! ### The texts -/

theorem milliseconds_of_next_unit_iff (hd : d.nanoseconds < 1000000000) :
    (∃ q, 1000 ≤ q ∧ Shows (duration d) "ms" q) ↔
      d.seconds = 0 ∧ 999499937 ≤ d.nanoseconds ∧ d.nanoseconds < 999999968 := by
  have hone := one_le_toSeconds_iff hd
  have hthousand := thousand_le_scaled_iff hd
  constructor
  · rintro ⟨q, hq, hshows⟩
    obtain ⟨hlt, rfl⟩ := shows_milliseconds_iff.mp hshows
    have hnot := hone.not.mp (not_le.mpr hlt)
    have hscaled := hthousand.mp (by exact_mod_cast hq)
    omega
  · intro h
    have hlt := not_le.mp (hone.not.mpr (by omega))
    refine ⟨_, ?_, shows_milliseconds_iff.mpr ⟨hlt, rfl⟩⟩
    exact_mod_cast hthousand.mpr (by omega)

theorem seconds_of_next_unit_iff (hd : d.nanoseconds < 1000000000) :
    (∃ q, 60 ≤ q ∧ Shows (duration d) "s" q) ↔
      d.seconds = 59 ∧ 949998881 ≤ d.nanoseconds ∧ d.nanoseconds < 999998048 := by
  have hone := one_le_toSeconds_iff hd
  have hsixty := sixty_le_toSeconds_iff hd
  have hscaled := sixhundred_le_scaled_iff hd
  have htenths : 60 ≤ ((d.toSeconds 24).scaled 1 / 10 : ℚ) ↔ 600 ≤ (d.toSeconds 24).scaled 1 := by
    rw [le_div_iff₀ (by norm_num)]
    norm_num
  constructor
  · rintro ⟨q, hq, hshows⟩
    obtain ⟨-, hlt, rfl⟩ := shows_seconds_iff.mp hshows
    have hnot := hsixty.not.mp (not_le.mpr hlt)
    have hreached := hscaled.mp (htenths.mp hq)
    omega
  · intro h
    have hlt := not_le.mp (hsixty.not.mpr (by omega))
    have hle := hone.mpr (by omega)
    exact ⟨_, htenths.mpr (hscaled.mpr (by omega)), shows_seconds_iff.mpr ⟨hle, hlt, rfl⟩⟩

/-- From a minute on the bits leave eighteen places behind the point at most, so that taking away
the minutes needs no rounding. -/
theorem pastMinutes_value (h : 60 ≤ (d.toSeconds 24).value) :
    (pastMinutes d).value =
      (d.toSeconds 24).value - 60 * ⌊(d.toSeconds 24).value / 60⌋₊ := by
  obtain ⟨n, e, hn, hvalue⟩ : ∃ (n : Nat) (e : Int), n ≤ 2 ^ 24 ∧
      (d.toSeconds 24).value = n * 2 ^ e :=
    Binary.exists_value_ofQuotient 23 (Nat.mul_pos (Binary.den_pos _) (Binary.den_pos _))
  have hsixty : (Binary.ofNat 24 60).value = 60 := ofNat_value (by decide)
  -- A mantissa of 24 bits at a lower place would make less than a minute.
  have hexponent : -18 ≤ e := by
    by_contra hsmall
    have hpower : (2 : ℚ) ^ e ≤ 2 ^ (-19 : Int) :=
      zpow_le_zpow_right₀ one_le_two (by omega)
    have hmantissa : (n : ℚ) ≤ 2 ^ 24 := by exact_mod_cast hn
    have hproduct : (n : ℚ) * 2 ^ e ≤ 2 ^ 24 * 2 ^ (-19 : Int) := by gcongr
    rw [← hvalue] at hproduct
    norm_num at hproduct
    linarith
  obtain ⟨j, hj⟩ := Int.eq_ofNat_of_zero_le (show 0 ≤ e + 18 by omega)
  have hplaces : (d.toSeconds 24).value = (n * 2 ^ j : Nat) * 2 ^ (-18 : Int) := by
    rw [hvalue, show e = j + (-18) by omega, zpow_add₀ two_ne_zero]
    push_cast
    rw [zpow_natCast, mul_assoc]
  -- Sixty has its digits at the same places, and leaves room for 18 of them in the bits.
  have hdivisor : (Binary.ofNat 24 60).value = (60 * 2 ^ 18 : Nat) * 2 ^ (-18 : Int) := by
    rw [hsixty]
    norm_num
  have hrem := Binary.value_rem_of_eq (k := 23) hplaces hdivisor (by decide) (by decide)
  rwa [hsixty] at hrem

theorem minutes_of_next_unit_iff : (∃ q, 60 ≤ q ∧ ShowsMinutes (duration d) q) ↔
    60 ≤ (d.toSeconds 24).value ∧
      59.5 ≤ (d.toSeconds 24).value - 60 * ⌊(d.toSeconds 24).value / 60⌋₊ := by
  have hshown (h : 60 ≤ (d.toSeconds 24).value) : 60 ≤ ((pastMinutes d).scaled 0 : ℚ) ↔
      59.5 ≤ (d.toSeconds 24).value - 60 * ⌊(d.toSeconds 24).value / 60⌋₊ := by
    have heven : 60 ≤ (pastMinutes d).scaled 0 ↔
        ((60 : Nat) : ℚ) ≤ (pastMinutes d).value * 10 ^ 0 + 1 / 2 := Binary.le_scaled_iff rfl
    rw [← Nat.cast_le (α := ℚ), pastMinutes_value h, pow_zero, mul_one, Nat.cast_ofNat] at heven
    rw [heven, ← sub_le_iff_le_add]
    norm_num
  constructor
  · rintro ⟨q, hq, hshows⟩
    obtain ⟨hle, rfl⟩ := showsMinutes_iff.mp hshows
    exact ⟨hle, (hshown hle).mp hq⟩
  · rintro ⟨hle, hrest⟩
    exact ⟨_, (hshown hle).mpr hrest, showsMinutes_iff.mpr ⟨hle, rfl⟩⟩

/-- The amounts that are shown as one of the next unit, or as more. -/
theorem next_unit_shown_iff (bytes : Nat) (d : Duration) (hd : d.nanoseconds < 1000000000) :
    ((∃ q, 1024 ≤ q ∧ Shows (size bytes) " KB" q) ↔ 1048525 ≤ bytes ∧ bytes < 1048576) ∧
      ((∃ q, 1000 ≤ q ∧ Shows (duration d) "ms" q) ↔
        d.seconds = 0 ∧ 999499937 ≤ d.nanoseconds ∧ d.nanoseconds < 999999968) ∧
      ((∃ q, 60 ≤ q ∧ Shows (duration d) "s" q) ↔
        d.seconds = 59 ∧ 949998881 ≤ d.nanoseconds ∧ d.nanoseconds < 999998048) ∧
      ((∃ q, 60 ≤ q ∧ ShowsMinutes (duration d) q) ↔
        60 ≤ (d.toSeconds 24).value ∧
          59.5 ≤ (d.toSeconds 24).value - 60 * ⌊(d.toSeconds 24).value / 60⌋₊) := by
  refine ⟨size_of_next_unit_iff, ?_, ?_, minutes_of_next_unit_iff⟩
  · exact milliseconds_of_next_unit_iff hd
  · exact seconds_of_next_unit_iff hd

theorem kilobytes_and_seconds_reach_the_next_unit :
    (∃ q, 1024 ≤ q ∧ Shows (size 1048525) " KB" q) ∧
      ∃ q, 60 ≤ q ∧ Shows (duration ⟨59, 949998881⟩) "s" q := by
  have h := next_unit_shown_iff 1048525 ⟨59, 949998881⟩ (by decide)
  exact ⟨h.1.mpr (by decide), h.2.2.1.mpr (by decide)⟩

theorem next_unit_is_shown : Shows (size 1048575) " KB" 1024 ∧
    Shows (duration ⟨0, 999600000⟩) "ms" 1000 ∧ Shows (duration ⟨59, 960000000⟩) "s" 60 ∧
      ShowsMinutes (duration ⟨119, 700000000⟩) 60 := by
  refine ⟨⟨"1024.0", ?_, ?_⟩, ⟨"1000", ?_, ?_⟩, ⟨"60.0", ?_, ?_⟩, ⟨"1", "60s", ?_, "60", ?_, ?_⟩⟩
  all_goals decide +kernel

end AppScaffold.Terminal

import Mathlib.Data.List.GetD
import AppScaffold.Proofs.Number.Rounding
import AppScaffold.Proofs.Telemetry.Samples

/-!
# Percentiles

The percentiles of a histogram are samples of it and stand in the order of their shares, between the
least and the greatest sample. The index of a percentile is a product of doubles that is rounded
twice; it grows with the share all the same, and it does not leave the samples. Main statement:
`percentiles_of_samples`.
-/

set_option autoImplicit false

namespace AppScaffold.Telemetry.Histogram

open Number (Double Binary)

variable {p q count : Nat} {h : Histogram}

/-! ## The index -/

theorem value_hundred : (Binary.ofNat 53 100).value = 100 := by
  exact_mod_cast Binary.value_ofNat (k := 52) (n := 100) (by decide)

theorem percentileIndex_mono (hpq : p ≤ q) (count : Nat) :
    percentileIndex p count ≤ percentileIndex q count := by
  have hshare : (Binary.div 53 (.ofNat 53 p) (.ofNat 53 100)).value ≤
      (Binary.div 53 (.ofNat 53 q) (.ofNat 53 100)).value :=
    Binary.value_div_mono (k := 52) (Binary.value_ofNat_mono hpq) (by rw [value_hundred]; norm_num)
  exact Binary.roundUpHalf_mono (Binary.value_mul_mono (k := 52) hshare le_rfl)

/-- The whole share gives the last index, as long as doubles can count the samples. -/
theorem percentileIndex_hundred (hcount : count ≤ 2 ^ 53) :
    percentileIndex 100 count = count - 1 := by
  have hone : (Binary.div 53 (.ofNat 53 100) (.ofNat 53 100)).value = (1 : Nat) := by
    refine Binary.value_div_of_eq (k := 52) ?_ ?_ (by decide)
    all_goals rw [value_hundred]; norm_num
  have hlast : count - 1 < 2 ^ (52 + 1) := by omega
  refine Binary.roundUpHalf_of_value (Binary.value_mul_of_eq (k := 52) ?_ hlast)
  rw [hone, Binary.value_ofNat (k := 52) hlast, Nat.cast_one, one_mul]

theorem percentileIndex_lt (hp : p ≤ 100) (hpos : 0 < count) (hcount : count ≤ 2 ^ 53) :
    percentileIndex p count < count := by
  have hle := percentileIndex_mono hp count
  rw [percentileIndex_hundred hcount] at hle
  omega

/-! ## Samples in their order -/

theorem totalLe_getD {xs : List Double} (hxs : xs.Pairwise fun x y => Double.totalLe x y = true)
    {i j : Nat} (hij : i ≤ j) (hj : j < xs.length) :
    Double.totalLe (xs.getD i default) (xs.getD j default) = true := by
  rw [List.getD_eq_getElem xs default (hij.trans_lt hj), List.getD_eq_getElem xs default hj]
  rcases Nat.lt_or_eq_of_le hij with hlt | rfl
  · exact List.pairwise_iff_getElem.mp hxs i j _ hj hlt
  · exact Double.totalLe_iff.mpr le_rfl

theorem length_sorted (h : Histogram) : (sorted h).length = h.length := (sorted_perm h).length_eq

theorem getD_sorted_mem {i : Nat} (hi : i < h.length) : (sorted h).getD i default ∈ h := by
  rw [← length_sorted] at hi
  rw [List.getD_eq_getElem _ default hi]
  exact (sorted_perm h).subset (List.getElem_mem hi)

theorem totalLe_of_mem {x : Double} (hx : x ∈ h) :
    Double.totalLe ((sorted h).getD 0 default) x = true ∧
      Double.totalLe x ((sorted h).getD (h.length - 1) default) = true := by
  obtain ⟨i, hi, rfl⟩ := List.mem_iff_getElem.mp ((sorted_perm h).symm.subset hx)
  have hlength := length_sorted h
  rw [← List.getD_eq_getElem (sorted h) default hi]
  exact ⟨totalLe_getD (pairwise_sorted h) (Nat.zero_le i) hi,
    totalLe_getD (pairwise_sorted h) (by omega) (by omega)⟩

def place (p count : Nat) : Nat := min (percentileIndex p count) (count - 1)

theorem place_lt (p : Nat) (hpos : 0 < count) : place p count < count :=
  (Nat.min_le_right _ _).trans_lt (Nat.sub_lt hpos Nat.one_pos)

theorem percentile_sorted (p : Nat) (h : Histogram) :
    percentile p (sorted h) = (sorted h).getD (place p h.length) default := by
  rw [percentile, length_sorted, place]

theorem percentile_mem (p : Nat) (hne : h ≠ []) : percentile p (sorted h) ∈ h := by
  rw [percentile_sorted]
  exact getD_sorted_mem (place_lt p (List.length_pos_iff.mpr hne))

theorem percentile_mono (hpq : p ≤ q) (hne : h ≠ []) :
    Double.totalLe (percentile p (sorted h)) (percentile q (sorted h)) = true := by
  rw [percentile_sorted, percentile_sorted]
  refine totalLe_getD (pairwise_sorted h) ?_ ?_
  · exact min_le_min_right _ (percentileIndex_mono hpq h.length)
  · rw [length_sorted]
    exact place_lt q (List.length_pos_iff.mpr hne)

/-! ## Statistics -/

theorem stats_of_ne_nil (hne : h ≠ []) :
    stats h =
      { count := h.length
        min := (sorted h).getD 0 default
        max := (sorted h).getD (h.length - 1) default
        mean := mean (sorted h)
        p50 := percentile 50 (sorted h)
        p95 := percentile 95 (sorted h)
        p99 := percentile 99 (sorted h) } := by
  have hsorted : ¬ (sorted h).isEmpty = true := by
    rwa [List.isEmpty_iff, ← List.length_eq_zero_iff, length_sorted, List.length_eq_zero_iff]
  rw [stats, if_neg hsorted, length_sorted]

/-- Whatever doubles a histogram holds, its percentiles are samples in the order of their shares,
between the least and the greatest sample, and no index of a percentile leaves the samples. -/
theorem percentiles_of_samples (h : Histogram) (hne : h ≠ []) (hwindow : h.length ≤ window) :
    (∀ p ≤ 100, percentileIndex p h.length < h.length) ∧
    ((stats h).p50 ∈ h ∧ (stats h).p95 ∈ h ∧ (stats h).p99 ∈ h) ∧
    ((stats h).min ∈ h ∧ (stats h).max ∈ h ∧ ∀ x ∈ h,
      Double.totalLe (stats h).min x = true ∧ Double.totalLe x (stats h).max = true) ∧
    Double.totalLe (stats h).min (stats h).p50 = true ∧
    Double.totalLe (stats h).p50 (stats h).p95 = true ∧
    Double.totalLe (stats h).p95 (stats h).p99 = true ∧
    Double.totalLe (stats h).p99 (stats h).max = true := by
  have hpos := List.length_pos_iff.mpr hne
  have hcountable : h.length ≤ 2 ^ 53 := hwindow.trans (by decide)
  rw [stats_of_ne_nil hne]
  have hmem (p : Nat) := percentile_mem p hne
  refine ⟨fun p hp => percentileIndex_lt hp hpos hcountable, ⟨hmem 50, hmem 95, hmem 99⟩,
    ⟨getD_sorted_mem hpos, getD_sorted_mem (Nat.sub_lt hpos Nat.one_pos),
      fun x hx => totalLe_of_mem hx⟩, ?_, ?_, ?_, ?_⟩
  · exact (totalLe_of_mem (hmem 50)).1
  · exact percentile_mono (by decide) hne
  · exact percentile_mono (by decide) hne
  · exact (totalLe_of_mem (hmem 99)).2

def extremes : Histogram :=
  [Double.undefined false, ⟨0⟩, Double.infinite true, ⟨0x8000000000000000⟩, Double.infinite false]

theorem extremes_in_order :
    extremes ≠ [] ∧ extremes.length ≤ window ∧
    percentileIndex 99 extremes.length < extremes.length ∧ (stats extremes).p50 ∈ extremes ∧
    Double.totalLe (stats extremes).p50 (stats extremes).p95 = true ∧
    Double.totalLe (stats extremes).p99 (stats extremes).max = true := by
  have hne : extremes ≠ [] := by decide
  have hwindow : extremes.length ≤ window := by decide
  obtain ⟨hindex, ⟨hmem, -, -⟩, -, -, horder, -, hmax⟩ :=
    percentiles_of_samples extremes hne hwindow
  exact ⟨hne, hwindow, hindex 99 (by decide), hmem, horder, hmax⟩

end AppScaffold.Telemetry.Histogram

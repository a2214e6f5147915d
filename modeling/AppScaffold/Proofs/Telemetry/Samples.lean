import AppScaffold.Number.Double
import AppScaffold.Proofs.Telemetry.Counters

/-!
# Samples

What a registry tells of the samples under a name after any run of operations. A histogram holds the
newest samples of its name, no more than the window takes, and its statistics are made from them in
the order of doubles, in which any two can be compared, so it does not matter in which order they
came. Main statement: `stats_of_newest_samples`.
-/

set_option autoImplicit false

/-! ## The order of doubles -/

namespace AppScaffold.Number.Double

variable {x y z : Double}

theorem orderKey_inj (h : x.orderKey = y.orderKey) : x = y := by
  obtain ⟨xbits⟩ := x
  obtain ⟨ybits⟩ := y
  have hx := xbits.toNat_lt
  have hy := ybits.toNat_lt
  simp only [orderKey, isNegative, signMark, beq_iff_eq] at h
  have hbits : xbits.toNat = ybits.toNat := by
    split at h <;> split at h <;> omega
  rw [UInt64.toNat_inj.mp hbits]

theorem totalLe_iff : totalLe x y = true ↔ x.orderKey ≤ y.orderKey := by
  rw [totalLe, decide_eq_true_iff]

theorem totalLe_trans (hxy : totalLe x y = true) (hyz : totalLe y z = true) :
    totalLe x z = true := by
  rw [totalLe_iff] at *
  omega

theorem totalLe_total (x y : Double) : (totalLe x y || totalLe y x) = true := by
  rw [Bool.or_eq_true, totalLe_iff, totalLe_iff]
  omega

theorem totalLe_antisymm (hxy : totalLe x y = true) (hyx : totalLe y x = true) : x = y := by
  rw [totalLe_iff] at *
  apply orderKey_inj
  omega

end AppScaffold.Number.Double

namespace AppScaffold.Telemetry

open Number (Double)

namespace Histogram

/-! ## The window -/

/-- What is left of samples that were recorded one after the other. -/
def newest (xs : List Double) : Histogram := xs.drop (xs.length - window)

theorem length_newest (xs : List Double) : (newest xs).length = min xs.length window := by
  rw [newest, List.length_drop]
  omega

theorem record_newest (xs : List Double) (x : Double) :
    record (newest xs) x = newest (xs ++ [x]) := by
  have hlength := length_newest xs
  unfold record
  split
  · rename_i hfull
    have hrest : xs.length + 1 - window = xs.length - window + 1 := by omega
    have hle : xs.length - window + 1 ≤ xs.length := by
      have hpos : 0 < window := by decide
      omega
    rw [newest, newest, List.drop_drop, List.length_append, List.length_singleton, hrest,
      List.drop_append_of_le_length hle]
  · rename_i hroom
    have hfew : xs.length < window := by omega
    rw [newest, newest, List.length_append, List.length_singleton,
      Nat.sub_eq_zero_of_le (Nat.le_of_lt hfew), Nat.sub_eq_zero_of_le hfew]
    rfl

@[simp] theorem newest_nil : newest [] = [] := List.drop_nil

theorem eq_nil_iff_of_newest_perm {xs ys : List Double} (h : (newest xs).Perm (newest ys)) :
    xs = [] ↔ ys = [] := by
  have hpos : 0 < window := by decide
  have hlength := h.length_eq
  rw [length_newest, length_newest] at hlength
  rw [← List.length_eq_zero_iff, ← List.length_eq_zero_iff]
  omega

/-! ## Statistics -/

theorem sorted_perm (h : Histogram) : (sorted h).Perm h := List.mergeSort_perm h Double.totalLe

theorem pairwise_sorted (h : Histogram) :
    (sorted h).Pairwise fun x y => Double.totalLe x y = true := by
  apply List.pairwise_mergeSort
  · intro _ _ _
    exact Double.totalLe_trans
  · exact Double.totalLe_total

theorem sorted_eq_of_perm {xs ys : Histogram} (h : xs.Perm ys) : sorted xs = sorted ys := by
  have hperm : (sorted xs).Perm (sorted ys) :=
    (sorted_perm xs).trans (h.trans (sorted_perm ys).symm)
  apply hperm.eq_of_pairwise _ (pairwise_sorted xs) (pairwise_sorted ys)
  intro x y _ _ hxy hyx
  exact Double.totalLe_antisymm hxy hyx

theorem stats_eq_of_perm {xs ys : Histogram} (h : xs.Perm ys) : stats xs = stats ys := by
  unfold stats
  rw [sorted_eq_of_perm h]

end Histogram

open Histogram (Stats newest)

/-! ## Operations -/

/-- An operation on a registry. One that only looks at it leaves it as it is. -/
inductive Operation where
  | count (call : Call)
  | sample (name : String) (x : Double)
  | duration (name : String) (length : Duration)

namespace Operation

def run : Operation → Registry → Registry
  | count call, r => call.run r
  | sample name x, r => r.record name x
  | duration name length, r => r.recordDuration name length

def sample? : Operation → Option (String × Double)
  | count _ => none
  | sample name x => some (name, x)
  | duration name length => some (name, .ofBinary (length.toMilliseconds 53))

def registryAfter (ops : List Operation) : Registry := ops.foldl (fun r o => o.run r) {}

/-- The samples that operations record under a name, the oldest first. -/
def samples (name : String) (ops : List Operation) : List Double :=
  ((ops.filterMap sample?).filter (·.1 = name)).map (·.2)

theorem registryAfter_concat (ops : List Operation) (o : Operation) :
    registryAfter (ops ++ [o]) = o.run (registryAfter ops) := by
  simp [registryAfter]

theorem samples_concat (name : String) (ops : List Operation) (o : Operation) :
    samples name (ops ++ [o]) = samples name ops ++ samples name [o] := by
  simp [samples]

theorem histograms_run (o : Operation) (r : Registry) :
    (o.run r).histograms = match o.sample? with
      | none => r.histograms
      | some e => (r.record e.1 e.2).histograms := by
  cases o with
  | count call =>
    rw [run, call.run_eq_incrementBy, Registry.incrementBy_eq_addOrMake]
    rfl
  | sample name x => rfl
  | duration name length => rfl

/-- A histogram is there as soon as there is a sample of its name, and it holds the newest ones. -/
theorem histogram?_registryAfter (ops : List Operation) (name : String) :
    (registryAfter ops).histogram? name =
      if samples name ops = [] then none else some (newest (samples name ops)) := by
  -- The newest samples are at the end, so the induction takes the operations from there.
  induction ops using List.reverseRecOn with
  | nil => rfl
  | append_singleton ops o ih =>
    rw [registryAfter_concat, samples_concat, Registry.histogram?, histograms_run]
    cases hsample : o.sample? with
    | none =>
      have hnothing : samples name [o] = [] := by simp [samples, hsample]
      rw [hnothing, List.append_nil]
      exact ih
    | some e =>
      dsimp only [Registry.record]
      rw [Keyed.lookup_insert]
      by_cases hname : e.1 = name
      · have hone : samples name [o] = [e.2] := by simp [samples, hsample, hname]
        have hbefore : ((registryAfter ops).histogram? name).getD [] = newest (samples name ops) := by
          rw [ih]
          split
          · rename_i hempty
            rw [hempty, Histogram.newest_nil, Option.getD_none]
          · rw [Option.getD_some]
        rw [if_pos hname.symm, hone, if_neg (by simp), hname, hbefore, Histogram.record_newest]
      · have hnothing : samples name [o] = [] := by simp [samples, hsample, hname]
        rw [if_neg (Ne.symm hname), hnothing, List.append_nil]
        exact ih

theorem ordered_histograms_registryAfter (ops : List Operation) :
    Keyed.Ordered (registryAfter ops).histograms := by
  induction ops using List.reverseRecOn with
  | nil => exact .nil
  | append_singleton ops o ih =>
    rw [registryAfter_concat, histograms_run]
    split
    · exact ih
    · exact ih.insert _ _

end Operation

/-! ## What the registry tells -/

namespace Registry

def exported? (r : Registry) (session : String) (uptime : Nat) (name : String) : Option Json :=
  ((r.toJson session uptime).get? "histograms").bind (·.get? name)

theorem exported?_eq {r : Registry} (h : Keyed.Ordered r.histograms) (session : String)
    (uptime : Nat) (name : String) :
    r.exported? session uptime name = (r.stats? name).map Stats.toJson := by
  have hall : (r.toJson session uptime).get? "histograms" = some r.histogramsJson := by
    simp [toJson, Json.ofMembers, Keyed.ofList, Json.get?, Keyed.lookup_insert]
  rw [exported?, hall, Option.bind_some, histogramsJson,
    get?_ofMembers_map h fun h => (Histogram.stats h).toJson, stats?, histogram?, Option.map_map]
  rfl

end Registry

open Operation (registryAfter samples)

theorem stats?_registryAfter (ops : List Operation) (name : String) :
    (registryAfter ops).stats? name = if samples name ops = [] then none
      else some (Histogram.stats (newest (samples name ops))) := by
  rw [Registry.stats?, Operation.histogram?_registryAfter]
  split <;> rfl

theorem stats?_eq_of_perm {ops ops' : List Operation} {name : String}
    (h : (newest (samples name ops)).Perm (newest (samples name ops'))) :
    (registryAfter ops).stats? name = (registryAfter ops').stats? name := by
  rw [stats?_registryAfter, stats?_registryAfter, Histogram.stats_eq_of_perm h]
  exact if_congr (Histogram.eq_nil_iff_of_newest_perm h) rfl rfl

/-- After any run of operations a histogram holds no more samples than the window takes. The
statistics of a name and its entry in the export are those of the newest samples recorded under it,
and two runs that agree on these, as bits and in whatever order, tell the same of the name. -/
theorem stats_of_newest_samples (ops : List Operation) (name : String) :
    (∀ h, (registryAfter ops).histogram? name = some h → h.length ≤ window) ∧
    (newest (samples name ops)).length = min (samples name ops).length window ∧
    (registryAfter ops).stats? name = (if samples name ops = [] then none
      else some (Histogram.stats (newest (samples name ops)))) ∧
    (∀ session uptime, (registryAfter ops).exported? session uptime name =
      ((registryAfter ops).stats? name).map Stats.toJson) ∧
    ∀ ops', (newest (samples name ops)).Perm (newest (samples name ops')) →
      (registryAfter ops').stats? name = (registryAfter ops).stats? name ∧
      ∀ session uptime, (registryAfter ops').exported? session uptime name =
        (registryAfter ops).exported? session uptime name := by
  have hexported (ops : List Operation) :=
    Registry.exported?_eq (Operation.ordered_histograms_registryAfter ops)
  refine ⟨?_, Histogram.length_newest _, stats?_registryAfter ops name, ?_, ?_⟩
  · intro h hfound
    rw [Operation.histogram?_registryAfter] at hfound
    split at hfound
    · cases hfound
    · obtain rfl := Option.some.inj hfound
      rw [Histogram.length_newest]
      exact Nat.min_le_right _ _
  · intro session uptime
    exact hexported ops session uptime name
  · intro ops' hperm
    have hstats := stats?_eq_of_perm hperm
    refine ⟨hstats.symm, ?_⟩
    intro session uptime
    rw [hexported, hexported, hstats]

def steadyLoad : List Operation := .replicate window (.sample "load" ⟨0x3FF0000000000000⟩)

/-- The same after a sample that is no number, with a counter and another name in between. -/
def restartedLoad : List Operation :=
  .sample "load" (Double.undefined false) :: .count (.increment "requests") ::
    .sample "idle" ⟨0⟩ :: steadyLoad

theorem samples_steadyLoad :
    samples "load" steadyLoad = .replicate window ⟨0x3FF0000000000000⟩ := by
  have hsample : (Operation.sample "load" ⟨0x3FF0000000000000⟩).sample? =
      some ("load", ⟨0x3FF0000000000000⟩) := rfl
  rw [samples, steadyLoad, List.filterMap_replicate_of_some hsample]
  simp

theorem samples_restartedLoad :
    samples "load" restartedLoad = Double.undefined false :: samples "load" steadyLoad := by
  simp [samples, restartedLoad, Operation.sample?, List.filterMap_cons]

/-- A sample that the window has no room for leaves no trace. -/
theorem restartedLoad_like_steadyLoad :
    (newest (samples "load" restartedLoad)).Perm (newest (samples "load" steadyLoad)) ∧
    (registryAfter steadyLoad).stats? "load" = (registryAfter restartedLoad).stats? "load" := by
  have hlength : (samples "load" steadyLoad).length = window := by
    rw [samples_steadyLoad, List.length_replicate]
  have hone : window + 1 - window = 1 := Nat.add_sub_cancel_left window 1
  have hsame : newest (samples "load" restartedLoad) = newest (samples "load" steadyLoad) := by
    rw [samples_restartedLoad, newest, newest, List.length_cons, hlength, hone, Nat.sub_self]
    rfl
  obtain ⟨-, -, -, -, hruns⟩ := stats_of_newest_samples restartedLoad "load"
  exact ⟨.of_eq hsame, (hruns steadyLoad (.of_eq hsame)).1⟩

end AppScaffold.Telemetry

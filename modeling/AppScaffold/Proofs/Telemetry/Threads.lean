import Mathlib.Algebra.BigOperators.Group.Finset.Basic
import Mathlib.Data.Fintype.BigOperators
import Mathlib.Logic.Relation
import AppScaffold.Proofs.Telemetry.Counters

/-!
# Threads that count

Any number of threads that add to counters of one registry, access by access and in any order. A
thread may be parked between the two accesses of a call while others go on. Every run leaves the
registry that the finished calls leave one after the other, in the order in which they returned.
Main statement: `counters_of_finished_run`.
-/

set_option autoImplicit false

namespace AppScaffold.Telemetry

open Relation (ReflTransGen)

variable {ι : Type}

/-- The registry that threads share, and of each thread whether it is parked and the calls that it
has not returned from. -/
@[ext] structure World (ι : Type) where
  registry : Registry
  parked : ι → Bool
  calls : ι → List Call

namespace World

def start (plan : ι → List Call) : World ι := ⟨{}, fun _ => false, plan⟩

def Finished (w : World ι) : Prop := ∀ i, w.calls i = []

def after [DecidableEq ι] (w : World ι) (i : ι) (r : Registry) (parked : Bool)
    (calls : List Call) : World ι :=
  ⟨r, Function.update w.parked i parked, Function.update w.calls i calls⟩

section

variable [DecidableEq ι] (w : World ι) (i : ι) (r : Registry) (parked : Bool) (calls : List Call)

theorem parked_after_self : (w.after i r parked calls).parked i = parked := by
  simp only [after, Function.update_self]

theorem calls_after_self : (w.after i r parked calls).calls i = calls := by
  simp only [after, Function.update_self]

theorem after_after (r' : Registry) (parked' : Bool) (calls' : List Call) :
    (w.after i r parked calls).after i r' parked' calls' = w.after i r' parked' calls' := by
  simp only [after, Function.update_idem]

end

end World

/-- One access of one thread: the thread is parked, or returns from its call. -/
inductive Step [DecidableEq ι] (w : World ι) : World ι → Prop
  | park {i : ι} {c : Call} {rest : List Call} {r : Registry} : w.calls i = c :: rest →
      Access c w.registry (w.parked i) r false → Step w (w.after i r true (c :: rest))
  | finish {i : ι} {c : Call} {rest : List Call} {r : Registry} : w.calls i = c :: rest →
      Access c w.registry (w.parked i) r true → Step w (w.after i r false rest)

/-! ## The order of the calls -/

def ofThread [DecidableEq ι] (i : ι) (log : List (ι × Call)) : List Call :=
  (log.filter (·.1 = i)).map (·.2)

theorem ofThread_concat [DecidableEq ι] (i j : ι) (log : List (ι × Call)) (c : Call) :
    ofThread i (log ++ [(j, c)]) = ofThread i log ++ if j = i then [c] else [] := by
  unfold ofThread
  rw [List.filter_append, List.map_append]
  split <;> simp_all

/-- The registry is what the calls of a record leave one after the other, and the record holds of
each thread the calls that it has returned from, in their order. -/
def World.RecordedBy [DecidableEq ι] (plan : ι → List Call) (w : World ι)
    (log : List (ι × Call)) : Prop :=
  w.registry = runAll {} (log.map (·.2)) ∧ ∀ i, ofThread i log ++ w.calls i = plan i

theorem Step.exists_recordedBy [DecidableEq ι] {plan : ι → List Call} {w w' : World ι}
    {log : List (ι × Call)} (h : w.RecordedBy plan log) (hstep : Step w w') :
    ∃ log', w'.RecordedBy plan log' := by
  obtain ⟨hregistry, hplan⟩ := h
  cases hstep with
  | @park i c rest r hcalls haccess =>
    refine ⟨log, haccess.registry_eq.trans hregistry, fun j => ?_⟩
    have hsame : Function.update w.calls i (c :: rest) = w.calls := by
      rw [← hcalls, Function.update_eq_self]
    rw [← hplan j]
    exact congrArg (fun calls => ofThread j log ++ calls j) hsame
  | @finish i c rest r hcalls haccess =>
    refine ⟨log ++ [(i, c)], ?_, fun j => ?_⟩
    · rw [List.map_append, List.map_singleton, runAll_concat, ← hregistry]
      exact haccess.registry_eq
    · rw [← hplan j, ofThread_concat]
      by_cases hij : i = j
      · subst hij
        simp [World.after, hcalls]
      · simp [World.after, hij, Ne.symm hij]

/-- In every run each call takes effect at one moment, with nothing lost and nothing added twice. -/
theorem exists_recordedBy_of_run [DecidableEq ι] {plan : ι → List Call} {w : World ι}
    (hrun : ReflTransGen Step (World.start plan) w) : ∃ log, w.RecordedBy plan log := by
  induction hrun with
  | refl => exact ⟨[], rfl, fun _ => rfl⟩
  | tail _ hstep ih =>
    obtain ⟨log, hlog⟩ := ih
    exact hstep.exists_recordedBy hlog

/-! ## Runs that end -/

theorem run_of_call [DecidableEq ι] {w : World ι} {i : ι} {c : Call} {rest : List Call}
    (hparked : w.parked i = false) (hcalls : w.calls i = c :: rest) :
    ReflTransGen Step w (w.after i (c.run w.registry) false rest) := by
  rcases Access.run c w.registry with hfind | ⟨hmiss, hmake⟩
  · have haccess : Access c w.registry (w.parked i) (c.run w.registry) true := by rwa [hparked]
    exact .single (.finish hcalls haccess)
  · have hfirst : Access c w.registry (w.parked i) w.registry false := by rwa [hparked]
    have hlook : Step w (w.after i w.registry true (c :: rest)) := .park hcalls hfirst
    have hsecond : Access c w.registry ((w.after i w.registry true (c :: rest)).parked i)
        (c.run w.registry) true := by rwa [World.parked_after_self]
    have hmade := (ReflTransGen.single hlook).tail
      (.finish (World.calls_after_self w i w.registry true (c :: rest)) hsecond)
    rwa [World.after_after] at hmade

theorem exists_run_of_thread [DecidableEq ι] (w : World ι) (i : ι)
    (hidle : ∀ j, w.parked j = false) :
    ∃ w', ReflTransGen Step w w' ∧ (∀ j, w'.parked j = false) ∧
      w'.calls = Function.update w.calls i [] := by
  generalize hcalls : w.calls i = calls
  induction calls generalizing w with
  | nil => exact ⟨w, .refl, hidle, by rw [← hcalls, Function.update_eq_self]⟩
  | cons c rest ih =>
    have hfirst := run_of_call (hidle i) hcalls
    have hstill : ∀ j, Function.update w.parked i false j = false := by
      intro j
      rw [← hidle i, Function.update_eq_self, hidle j, hidle i]
    obtain ⟨w', hrest, hidle', hcalls'⟩ :=
      ih (w.after i (c.run w.registry) false rest) hstill (World.calls_after_self w i _ false rest)
    refine ⟨w', hfirst.trans hrest, hidle', ?_⟩
    rw [hcalls', World.after, Function.update_idem]

theorem exists_finished_run [DecidableEq ι] [Fintype ι] (plan : ι → List Call) :
    ∃ w, ReflTransGen Step (World.start plan) w ∧ w.Finished := by
  -- One thread after the other goes through all its calls.
  have hsome (threads : Finset ι) : ∃ w, ReflTransGen Step (World.start plan) w ∧
      (∀ j, w.parked j = false) ∧ ∀ i ∈ threads, w.calls i = [] := by
    induction threads using Finset.induction_on with
    | empty => exact ⟨_, .refl, fun _ => rfl, by simp⟩
    | insert i threads _ ih =>
      obtain ⟨w, hrun, hidle, hcalls⟩ := ih
      obtain ⟨w', hrest, hidle', hcalls'⟩ := exists_run_of_thread w i hidle
      refine ⟨w', hrun.trans hrest, hidle', fun j hj => ?_⟩
      rw [hcalls', Function.update_apply]
      split
      · rfl
      · rename_i hne
        exact hcalls j ((Finset.mem_insert.mp hj).resolve_left hne)
  obtain ⟨w, hrun, _, hcalls⟩ := hsome Finset.univ
  exact ⟨w, hrun, fun i => hcalls i (Finset.mem_univ i)⟩

/-! ## Sums -/

theorem total_ofThread [DecidableEq ι] [Fintype ι] (name : String) (log : List (ι × Call)) :
    ∑ i, total name (ofThread i log) = total name (log.map (·.2)) := by
  induction log using List.reverseRecOn with
  | nil => simp [ofThread, total]
  | append_singleton log e ih =>
    have hone : ∀ i, total name (ofThread i (log ++ [e])) =
        total name (ofThread i log) + if e.1 = i then e.2.share name else 0 := by
      intro i
      rw [ofThread_concat]
      split
      · exact total_concat name _ e.2
      · rw [List.append_nil, Nat.add_zero]
    rw [Finset.sum_congr rfl fun i _ => hone i, Finset.sum_add_distrib, ih, List.map_append,
      List.map_singleton, total_concat, Finset.sum_ite_eq, if_pos (Finset.mem_univ e.1)]

/-! ## Finished runs -/

theorem mem_log_iff [DecidableEq ι] {log : List (ι × Call)} {c : Call} :
    c ∈ log.map (·.2) ↔ ∃ i, c ∈ ofThread i log := by
  simp [ofThread]

/-- When all calls have returned, a counter holds the sum of all amounts that were added to it as a
word of 64 bits, and the export has the same number; a name that no call adds to reads zero and is
not in the export. Such an end can always be reached. -/
theorem counters_of_finished_run [DecidableEq ι] [Fintype ι] (plan : ι → List Call) :
    (∃ w, ReflTransGen Step (World.start plan) w ∧ w.Finished) ∧
    ∀ w, ReflTransGen Step (World.start plan) w → w.Finished →
      ∀ (name session : String) (uptime : Nat), ∃ counters,
        (w.registry.toJson session uptime).get? "counters" = some counters ∧
        (w.registry.counter name).toNat = (∑ i, total name (plan i)) % 2 ^ 64 ∧
        ((∃ i, ∃ c ∈ plan i, c.name = name) →
          counters.get? name = some (.nat ((∑ i, total name (plan i)) % 2 ^ 64))) ∧
        ((∀ i, ∀ c ∈ plan i, c.name ≠ name) →
          w.registry.counter name = 0 ∧ counters.get? name = none) := by
  refine ⟨exists_finished_run plan, fun w hrun hdone name session uptime =>
    ⟨w.registry.countersJson, get?_counters_toJson w.registry session uptime, ?_⟩⟩
  obtain ⟨log, hregistry, hplan⟩ := exists_recordedBy_of_run hrun
  have hthread : ∀ i, ofThread i log = plan i := by
    intro i
    rw [← hplan i, hdone i, List.append_nil]
  have hcounter : (w.registry.counter name).toNat = (∑ i, total name (plan i)) % 2 ^ 64 := by
    have hzero : (({} : Registry).counter name).toNat = 0 := rfl
    rw [hregistry, counter_runAll, hzero, Nat.zero_add, ← total_ofThread]
    simp only [hthread]
  have hordered : Keyed.Ordered w.registry.counters := hregistry ▸ ordered_counters_runAll _
  have hnone : w.registry.counters.lookup name = none ↔ ∀ i, ∀ c ∈ plan i, c.name ≠ name := by
    rw [hregistry, lookup_runAll_eq_none_iff]
    simp only [mem_log_iff, hthread, forall_exists_index]
    exact forall_comm
  rw [get?_countersJson hordered]
  refine ⟨hcounter, fun hcalled => ?_, fun hnever => ?_⟩
  · obtain ⟨n, hn⟩ := Option.ne_none_iff_exists'.mp fun h => by
      obtain ⟨i, c, hc, hname⟩ := hcalled
      exact hnone.mp h i c hc hname
    have hvalue : w.registry.counter name = n := by rw [Registry.counter, hn, Option.getD_some]
    rw [hn, ← hcounter, hvalue, Option.map_some]
  · have hmissing := hnone.mpr hnever
    rw [hmissing, Registry.counter, hmissing]
    exact ⟨rfl, rfl⟩

def bothCount : Bool → List Call
  | true => [.increment "requests"]
  | false => [.incrementBy "requests" 41]

def bothParked : World Bool := ⟨{}, fun _ => true, bothCount⟩

def oneCounted : World Bool :=
  bothParked.after true (bothParked.registry.addOrMake "requests" 1) false []

def bothCounted : World Bool :=
  oneCounted.after false (oneCounted.registry.addOrMake "requests" 41) false []

theorem run_to_bothParked : ReflTransGen Step (World.start bothCount) bothParked := by
  have hparked : bothParked = ((World.start bothCount).after true {} true (bothCount true)).after
      false {} true (bothCount false) := by
    refine World.ext rfl (funext fun i => ?_) (funext fun i => ?_)
    all_goals cases i <;> rfl
  rw [hparked]
  have hfirst : Step (World.start bothCount)
      ((World.start bothCount).after true {} true (bothCount true)) :=
    .park (c := .increment "requests") rfl (.miss rfl)
  exact (ReflTransGen.single hfirst).tail
    (.park (c := .incrementBy "requests" 41) rfl (.miss rfl))

theorem run_to_bothCounted : ReflTransGen Step bothParked bothCounted := by
  have hfirst : Step bothParked oneCounted := .finish (c := .increment "requests") rfl .make
  exact (ReflTransGen.single hfirst).tail (.finish (c := .incrementBy "requests" 41) rfl .make)

/-- Both find the counter missing, and both are counted. -/
theorem bothCount_counted : ReflTransGen Step (World.start bothCount) bothParked ∧
    ReflTransGen Step bothParked bothCounted ∧ bothCounted.Finished ∧
    (bothCounted.registry.counter "requests").toNat = 42 ∧
    bothCounted.registry.counter "failures" = 0 := by
  have hdone : bothCounted.Finished := by
    intro i
    cases i <;> rfl
  have hcounted := (counters_of_finished_run bothCount).2 bothCounted
    (run_to_bothParked.trans run_to_bothCounted) hdone
  obtain ⟨_, _, hrequests, _⟩ := hcounted "requests" "session" 0
  obtain ⟨_, _, _, _, hfailures⟩ := hcounted "failures" "session" 0
  refine ⟨run_to_bothParked, run_to_bothCounted, hdone, hrequests, (hfailures ?_).1⟩
  intro i
  cases i <;> decide

end AppScaffold.Telemetry

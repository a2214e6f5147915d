import Mathlib.Algebra.Order.BigOperators.Group.Finset
import Mathlib.Data.Fintype.BigOperators
import Mathlib.Logic.Relation
import AppScaffold.Proofs.Server.Building
import AppScaffold.Proofs.Telemetry.Counters

/-!
# Counts of builds

Any number of requests that build at once. Each counts its build as started before it runs, and
counts its end when it goes on, access by access to the shared counters. A client may leave while
its build runs, and then no one counts the end. Main statement: `counts_of_builds`.
-/

set_option autoImplicit false

namespace AppScaffold.Server.Builds

open Build (Builder)
open Host (outcome)
open Relation (ReflTransGen)
open Telemetry (Access Call Registry buildsFailed buildsStarted buildsSucceeded counter_run
  keystoresSimulated runAll total total_concat)

variable {ι : Type}

abbrev Ending := Except Report.Error Builder.Outcome

def endCalls : Ending → List Call
  | .error _ => [.increment buildsFailed]
  | .ok o =>
    .increment buildsSucceeded ::
      if o.keystore.isSimulated then [.increment keystoresSimulated] else []

/-- How far a request has come. -/
inductive Stage where
  /-- Its build is not counted as started, and never is when the request is turned down. -/
  | arriving
  /-- The build runs, and the request may be waiting for it. -/
  | running (awaited : Bool)
  /-- The build has ended, and the request has made so many of the calls that count the end. -/
  | ended (ending : Ending) (calls : Nat)
  /-- The build is over, and its end is not counted. -/
  | lost

namespace Stage

def next? : Stage → Option Call
  | arriving => some (.increment buildsStarted)
  | ended ending calls => (endCalls ending)[calls]?
  | _ => none

def advance : Stage → Stage
  | arriving => running true
  | ended ending calls => ended ending (calls + 1)
  | stage => stage

def made : Stage → List Call
  | arriving => []
  | ended ending calls => .increment buildsStarted :: (endCalls ending).take calls
  | _ => [.increment buildsStarted]

def isUnderway : Stage → Bool
  | running _ => true
  | ended _ calls => calls == 0
  | _ => false

def isLost : Stage → Bool
  | lost => true
  | _ => false

theorem made_advance {stage : Stage} {c : Call} (h : stage.next? = some c) :
    stage.advance.made = stage.made ++ [c] := by
  cases stage with
  | arriving =>
    cases h
    rfl
  | ended ending calls =>
    rw [advance, made, made, List.take_add_one, show (endCalls ending)[calls]? = some c from h]
    rfl
  | running | lost => cases h

theorem take_endCalls (ending : Ending) (n : Nat) :
    (endCalls ending).take (n + 1) = [.increment buildsFailed] ∨
      (endCalls ending).take (n + 1) = [.increment buildsSucceeded] ∨
      (endCalls ending).take (n + 1) =
        [.increment buildsSucceeded, .increment keystoresSimulated] := by
  cases ending with
  | error e => simp [endCalls]
  | ok o =>
    rw [endCalls]
    split <;> cases n <;> simp

theorem totals_made (stage : Stage) :
    total buildsStarted stage.made =
      total buildsSucceeded stage.made + total buildsFailed stage.made +
        (if stage.isUnderway then 1 else 0) + (if stage.isLost then 1 else 0) ∧
    total keystoresSimulated stage.made ≤ total buildsSucceeded stage.made ∧
    total buildsStarted stage.made ≤ 1 := by
  cases stage with
  | arriving | lost => decide
  | running awaited => exact ⟨rfl, Nat.le_refl 0, Nat.le_refl 1⟩
  | ended ending calls =>
    cases calls with
    | zero => exact ⟨rfl, Nat.le_refl 0, Nat.le_refl 1⟩
    | succ n =>
      have hcounted : (ended ending (n + 1)).isUnderway = false := rfl
      have hkept : (ended ending (n + 1)).isLost = false := rfl
      rw [hcounted, hkept, made]
      rcases take_endCalls ending n with h | h | h <;> rw [h] <;> decide

end Stage

/-! ## Requests side by side -/

/-- The registry that requests share, and of each request whether it is parked between the two
accesses of a call and its stage. -/
structure World (ι : Type) where
  registry : Registry
  parked : ι → Bool
  stage : ι → Stage

namespace World

def start (ι : Type) : World ι := ⟨{}, fun _ => false, fun _ => .arriving⟩

def count (w : World ι) (name : String) : Nat := (w.registry.counter name).toNat

def underway [Fintype ι] (w : World ι) : Nat :=
  (Finset.univ.filter fun i => (w.stage i).isUnderway).card

/-- How many builds are over without being counted, and never will be. -/
def lost [Fintype ι] (w : World ι) : Nat := (Finset.univ.filter fun i => (w.stage i).isLost).card

def move [DecidableEq ι] (w : World ι) (i : ι) (stage : Stage) : World ι :=
  { w with stage := Function.update w.stage i stage }

def after [DecidableEq ι] (w : World ι) (i : ι) (r : Registry) (parked : Bool) : World ι :=
  { w with registry := r, parked := Function.update w.parked i parked }

end World

/-- What goes on while every client waits and no build crashes: an access of a request, with which
it is parked or its call returns, or the end of a build that is waited for. -/
inductive Step [DecidableEq ι] (w : World ι) : World ι → Prop
  | park {i : ι} {c : Call} {r : Registry} : (w.stage i).next? = some c →
      Access c w.registry (w.parked i) r false → Step w (w.after i r true)
  | count {i : ι} {c : Call} {r : Registry} : (w.stage i).next? = some c →
      Access c w.registry (w.parked i) r true →
      Step w ((w.after i r false).move i (w.stage i).advance)
  | finish {i : ι} (ending : Ending) : w.stage i = .running true →
      Step w (w.move i (.ended ending 0))

/-- What keeps the end of a build from being counted. A client that leaves while its request waits
takes the request with it, and the build goes on; when the build has ended, the client may still
leave before the request goes on. A build that crashes has no end to be counted. -/
inductive Loss [DecidableEq ι] (w : World ι) : World ι → Prop
  | leave {i : ι} : w.stage i = .running true → Loss w (w.move i (.running false))
  | leaveLate {i : ι} {ending : Ending} : w.stage i = .ended ending 0 → w.parked i = false →
      Loss w (w.move i .lost)
  | finishAlone {i : ι} : w.stage i = .running false → Loss w (w.move i .lost)
  | crash {i : ι} {awaited : Bool} : w.stage i = .running awaited → Loss w (w.move i .lost)

/-- One step of a service whose clients may leave and whose builds may crash. -/
def AnyStep [DecidableEq ι] (w w' : World ι) : Prop := Step w w' ∨ Loss w w'

section

variable [DecidableEq ι] (w : World ι) (i j : ι) (stage : Stage)

theorem World.stage_move :
    (w.move i stage).stage j = if j = i then stage else w.stage j :=
  Function.update_apply w.stage i stage j

theorem World.stage_move_self : (w.move i stage).stage i = stage := by
  rw [stage_move, if_pos rfl]

theorem World.stage_move_congr {β : Type} (f : Stage → β) (h : f stage = f (w.stage i)) :
    f ((w.move i stage).stage j) = f (w.stage j) := by
  rw [stage_move]
  split
  · rename_i hj
    rw [h, hj]
  · rfl

end

/-! ## What a step keeps -/

/-- Each counter holds what the requests have added to it, as a word of 64 bits. -/
def World.Counted [Fintype ι] (w : World ι) : Prop :=
  ∀ name, w.count name = (∑ i, total name (w.stage i).made) % 2 ^ 64

section

variable [Fintype ι] {w w' : World ι}

theorem World.Counted.of_made_eq (h : w.Counted) (hregistry : w'.registry = w.registry)
    (hmade : ∀ i, (w'.stage i).made = (w.stage i).made) : w'.Counted := by
  intro name
  rw [World.count, hregistry]
  simp only [hmade]
  exact h name

variable [DecidableEq ι]

theorem World.Counted.move (h : w.Counted) {i : ι} {stage : Stage}
    (hmade : stage.made = (w.stage i).made) : (w.move i stage).Counted :=
  h.of_made_eq rfl fun j => w.stage_move_congr i j stage Stage.made hmade

theorem World.Counted.call (h : w.Counted) {i : ι} {c : Call} {r : Registry}
    (hnext : (w.stage i).next? = some c) (haccess : Access c w.registry (w.parked i) r true) :
    ((w.after i r false).move i (w.stage i).advance).Counted := by
  intro name
  have hregistry : r = c.run w.registry := haccess.registry_eq
  have htotal : ∀ j, total name (((w.after i r false).move i (w.stage i).advance).stage j).made =
      total name (w.stage j).made + if j = i then c.share name else 0 := by
    intro j
    rw [stage_move]
    split
    · rename_i hj
      rw [Stage.made_advance hnext, total_concat, hj]
    · rfl
  have hcount : ((w.after i r false).move i (w.stage i).advance).count name =
      (w.count name + c.share name) % 2 ^ 64 := by
    rw [World.count, World.count, ← counter_run, ← hregistry]
    rfl
  rw [hcount, h name, Nat.mod_add_mod, Finset.sum_congr rfl fun j _ => htotal j,
    Finset.sum_add_distrib, Finset.sum_ite_eq', if_pos (Finset.mem_univ i)]

theorem Step.counted (h : w.Counted) (hstep : Step w w') : w'.Counted := by
  cases hstep with
  | park _ haccess => exact h.of_made_eq haccess.registry_eq fun _ => rfl
  | count hnext haccess => exact h.call hnext haccess
  | finish ending hstage => exact h.move (by rw [hstage]; rfl)

theorem Loss.counted (h : w.Counted) (hloss : Loss w w') : w'.Counted := by
  cases hloss with
  | leave hstage | leaveLate hstage _ | finishAlone hstage | crash hstage =>
    exact h.move (by rw [hstage]; rfl)

theorem counted_of_run (hrun : ReflTransGen AnyStep (World.start ι) w) : w.Counted := by
  induction hrun with
  | refl =>
    intro name
    exact (congrArg (· % 2 ^ 64) (Finset.sum_eq_zero fun _ _ => rfl)).symm
  | tail _ hstep ih =>
    rcases hstep with hstep | hloss
    · exact hstep.counted ih
    · exact hloss.counted ih

end

/-! ## Lost builds -/

section

variable [DecidableEq ι] {w w' : World ι}

theorem Stage.isLost_advance (stage : Stage) : stage.advance.isLost = stage.isLost := by
  cases stage <;> rfl

theorem Step.isLost_eq (hstep : Step w w') (i : ι) :
    (w'.stage i).isLost = (w.stage i).isLost := by
  cases hstep with
  | park _ _ => rfl
  | count _ _ => exact World.stage_move_congr _ _ i _ Stage.isLost (Stage.isLost_advance _)
  | finish ending hstage =>
    exact World.stage_move_congr _ _ i _ Stage.isLost (by rw [hstage]; rfl)

theorem lost_eq_zero_of_run [Fintype ι] (hrun : ReflTransGen Step (World.start ι) w) :
    w.lost = 0 := by
  have hkept : ∀ i, (w.stage i).isLost = false := by
    induction hrun with
    | refl => exact fun _ => rfl
    | tail _ hstep ih => exact fun i => (hstep.isLost_eq i).trans (ih i)
  simp [World.lost, hkept]

end

/-! ## Main statement -/

section

variable [Fintype ι] {w : World ι}

theorem sum_started (w : World ι) :
    ∑ i, total buildsStarted (w.stage i).made =
      ∑ i, total buildsSucceeded (w.stage i).made + ∑ i, total buildsFailed (w.stage i).made +
        w.underway + w.lost := by
  rw [World.underway, World.lost, Finset.card_filter, Finset.card_filter,
    ← Finset.sum_add_distrib, ← Finset.sum_add_distrib, ← Finset.sum_add_distrib]
  exact Finset.sum_congr rfl fun i _ => (Stage.totals_made (w.stage i)).1

theorem sum_started_le (w : World ι) :
    ∑ i, total buildsStarted (w.stage i).made ≤ Fintype.card ι := by
  rw [Fintype.card_eq_sum_ones]
  exact Finset.sum_le_sum fun i _ => (Stage.totals_made (w.stage i)).2.2

theorem sum_simulated_le (w : World ι) :
    ∑ i, total keystoresSimulated (w.stage i).made ≤
      ∑ i, total buildsSucceeded (w.stage i).made :=
  Finset.sum_le_sum fun i _ => (Stage.totals_made (w.stage i)).2.1

/-- In every run a started build is under way, counted once as succeeded or failed, or lost, and
no more keystores are counted as simulated than builds as succeeded. No build is lost as long as no
client leaves and no build crashes. -/
theorem counts_of_builds [DecidableEq ι] (hcard : Fintype.card ι < 2 ^ 64) :
    (∀ w : World ι, ReflTransGen AnyStep (World.start ι) w →
      w.count buildsStarted =
        w.count buildsSucceeded + w.count buildsFailed + w.underway + w.lost ∧
      w.count keystoresSimulated ≤ w.count buildsSucceeded) ∧
    ∀ w : World ι, ReflTransGen Step (World.start ι) w → w.lost = 0 := by
  refine ⟨fun w hrun => ?_, fun w hrun => lost_eq_zero_of_run hrun⟩
  have hcounted := counted_of_run hrun
  have hstarted := sum_started w
  have hbound := sum_started_le w
  have hsimulated := sum_simulated_le w
  -- No counter comes near the end of its range.
  have hexact {name : String} (h : ∑ i, total name (w.stage i).made ≤ Fintype.card ι) :
      w.count name = ∑ i, total name (w.stage i).made := by
    rw [hcounted name, Nat.mod_eq_of_lt (h.trans_lt hcard)]
  rw [hexact hbound, hexact (by omega), hexact (by omega), hexact (by omega)]
  exact ⟨hstarted, hsimulated⟩

end

/-! ## A build on its own -/

theorem counters_countEnd (m : Moment) (ending : Ending) (r : Registry) :
    (countEnd m ending r).counters = (runAll r (endCalls ending)).counters := by
  cases ending with
  | error e => rfl
  | ok o =>
    cases h : o.keystore.isSimulated <;> simp [countEnd, endCalls, h] <;> rfl

section

variable [DecidableEq ι] {w : World ι} {i : ι}

theorem exists_run_of_next {c : Call} (hparked : w.parked i = false)
    (hnext : (w.stage i).next? = some c) :
    ∃ w', ReflTransGen Step w w' ∧ w'.parked i = false ∧ w'.stage i = (w.stage i).advance ∧
      w'.registry = c.run w.registry := by
  rcases Access.run c w.registry with hfind | ⟨hmiss, hmake⟩
  · have haccess : Access c w.registry (w.parked i) (c.run w.registry) true := by rwa [hparked]
    exact ⟨_, .single (.count hnext haccess), Function.update_self .., World.stage_move_self ..,
      rfl⟩
  · have hfirst : Access c w.registry (w.parked i) w.registry false := by rwa [hparked]
    have hlook : Step w (w.after i w.registry true) := .park hnext hfirst
    have hwaits : (w.after i w.registry true).parked i = true := Function.update_self ..
    have hsecond : Access c w.registry ((w.after i w.registry true).parked i)
        (c.run w.registry) true := by rwa [hwaits]
    exact ⟨_, (ReflTransGen.single hlook).tail (.count hnext hsecond), Function.update_self ..,
      World.stage_move_self .., rfl⟩

theorem exists_run_of_ended {ending : Ending} {calls : Nat} (rest : List Call)
    (hparked : w.parked i = false) (hstage : w.stage i = .ended ending calls)
    (hrest : (endCalls ending).drop calls = rest) :
    ∃ w', ReflTransGen Step w w' ∧ w'.stage i = .ended ending (calls + rest.length) ∧
      w'.registry = runAll w.registry rest := by
  induction rest generalizing w calls with
  | nil => exact ⟨w, .refl, hstage, rfl⟩
  | cons c rest ih =>
    have hnext : (w.stage i).next? = some c := by
      rw [hstage, Stage.next?, ← List.head?_drop, hrest, List.head?_cons]
    obtain ⟨w₁, hfirst, hparked₁, hstage₁, hregistry₁⟩ := exists_run_of_next hparked hnext
    rw [hstage, Stage.advance] at hstage₁
    have hrest₁ : (endCalls ending).drop (calls + 1) = rest := by
      rw [← List.drop_drop, hrest, List.drop_one, List.tail_cons]
    obtain ⟨w', hrun, hended, hregistry⟩ := ih hparked₁ hstage₁ hrest₁
    refine ⟨w', hfirst.trans hrun, ?_, ?_⟩
    · rw [hended, List.length_cons, Nat.add_assoc, Nat.add_comm 1]
    · rw [hregistry, hregistry₁]
      rfl

/-- A counted build that nothing comes between is a run without losses, with the same counters. -/
theorem exists_run_of_countedBuild (s : Service) (m : Moment) (request : Builder.Request)
    (before : State) (hparked : w.parked i = false) (hstage : w.stage i = .arriving)
    (hregistry : w.registry = before.metrics) :
    ∃ ending w', (outcome (countedBuild s m request) before).1 = .ok ending ∧
      ReflTransGen Step w w' ∧ w'.stage i = .ended ending (endCalls ending).length ∧
      w'.registry.counters = (outcome (countedBuild s m request) before).2.metrics.counters := by
  rw [outcome_countedBuild]
  generalize outcome (s.builder.build s.launcher s.environment ⟨m.milliseconds, m.unique⟩ request)
    before.files = built
  have hnext : (w.stage i).next? = some (.increment buildsStarted) := by rw [hstage, Stage.next?]
  obtain ⟨w₁, hstarted, hparked₁, hstage₁, hregistry₁⟩ := exists_run_of_next hparked hnext
  rw [hstage, Stage.advance] at hstage₁
  have hfinished := hstarted.tail (.finish built.1 hstage₁)
  have hended := World.stage_move_self w₁ i (.ended built.1 0)
  have hgoesOn : (w₁.move i (.ended built.1 0)).parked i = false := hparked₁
  obtain ⟨w', hrun, hstage', hregistry'⟩ :=
    exists_run_of_ended (endCalls built.1) hgoesOn hended List.drop_zero
  refine ⟨built.1, w', rfl, hfinished.trans hrun, ?_, ?_⟩
  · rw [hstage', Nat.zero_add]
  · rw [hregistry', counters_countEnd, ← hregistry]
    exact congrArg (fun r => (runAll r (endCalls built.1)).counters) hregistry₁

theorem exists_run_of_leave (hparked : w.parked i = false) (hstage : w.stage i = .arriving) :
    ∃ w', ReflTransGen AnyStep w w' ∧ w'.stage i = .lost ∧
      w'.registry = w.registry.increment buildsStarted := by
  have hnext : (w.stage i).next? = some (.increment buildsStarted) := by rw [hstage, Stage.next?]
  obtain ⟨w₁, hstarted, _, hstage₁, hregistry₁⟩ := exists_run_of_next hparked hnext
  rw [hstage, Stage.advance] at hstage₁
  have hleft : AnyStep w₁ (w₁.move i (.running false)) := Or.inr (.leave hstage₁)
  have hended : AnyStep (w₁.move i (.running false)) ((w₁.move i (.running false)).move i .lost) :=
    Or.inr (.finishAlone (World.stage_move_self w₁ i _))
  have hany : ReflTransGen AnyStep w w₁ := ReflTransGen.mono (fun _ _ => Or.inl) _ _ hstarted
  exact ⟨_, (hany.tail hleft).tail hended, World.stage_move_self .., hregistry₁⟩

end

/-! ## A client that leaves -/

theorem leftBuild_counts : Fintype.card Unit < 2 ^ 64 ∧
    ∃ w : World Unit, ReflTransGen AnyStep (World.start Unit) w ∧ w.stage () = .lost ∧
      w.count buildsStarted =
        w.count buildsSucceeded + w.count buildsFailed + w.underway + w.lost := by
  have hcard : Fintype.card Unit < 2 ^ 64 := by decide
  obtain ⟨w, hrun, hlost, _⟩ := exists_run_of_leave (w := World.start Unit) (i := ()) rfl rfl
  exact ⟨hcard, w, hrun, hlost, ((counts_of_builds hcard).1 w hrun).1⟩

/-- A build whose client has left is counted as started and never again. -/
theorem not_every_build_counted : ¬ ∀ w : World Unit, ReflTransGen AnyStep (World.start Unit) w →
    w.count buildsStarted = w.count buildsSucceeded + w.count buildsFailed + w.underway := by
  intro h
  obtain ⟨w, hrun, hlost, hregistry⟩ :=
    exists_run_of_leave (w := World.start Unit) (i := ()) rfl rfl
  have hcounts := h w hrun
  rw [World.count, World.count, World.count, hregistry, World.underway] at hcounts
  simp only [Finset.univ_unique, PUnit.default_eq_unit] at hcounts
  rw [Finset.filter_singleton, hlost] at hcounts
  revert hcounts
  decide

end AppScaffold.Server.Builds

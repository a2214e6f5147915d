import Mathlib.Algebra.GroupWithZero.Nat
import Mathlib.Data.List.Induction
import AppScaffold.Proofs.Keyed.Lookup
import AppScaffold.Telemetry.Registry

/-!
# Counters

A call that adds to a counter takes one or two accesses to the shared counters. The access with
which it returns adds its whole amount, and the one before it changes nothing; that a counter which
was missing may be there by the time it is made makes no difference.
-/

set_option autoImplicit false

namespace AppScaffold.Telemetry

inductive Call where
  | increment (name : String)
  | incrementBy (name : String) (amount : UInt64)
deriving DecidableEq, Repr

namespace Call

def name : Call → String
  | increment name => name
  | incrementBy name _ => name

def amount : Call → UInt64
  | increment _ => 1
  | incrementBy _ amount => amount

def run : Call → Registry → Registry
  | increment name, r => r.increment name
  | incrementBy name amount, r => r.incrementBy name amount

theorem run_eq_incrementBy (c : Call) (r : Registry) : c.run r = r.incrementBy c.name c.amount := by
  cases c <;> rfl

def share (c : Call) (name : String) : Nat := if c.name = name then c.amount.toNat else 0

end Call

def total (name : String) (calls : List Call) : Nat := (calls.map (·.share name)).sum

/-! ## Accesses -/

/-- One access of a call under a lock. A call that is parked has looked for its counter in vain and
makes it next; the access may be the one with which the call returns. -/
inductive Access (c : Call) (r : Registry) : (parked : Bool) → Registry → (returned : Bool) → Prop
  | find {r' : Registry} : r.addExisting? c.name c.amount = some r' → Access c r false r' true
  | miss : r.addExisting? c.name c.amount = none → Access c r false r false
  | make : Access c r true (r.addOrMake c.name c.amount) true

variable {c : Call} {r r' : Registry} {parked returned : Bool}

/-- Making a counter that is there by now only adds to it. -/
theorem Registry.incrementBy_eq_addOrMake (r : Registry) (name : String) (amount : UInt64) :
    r.incrementBy name amount = r.addOrMake name amount := by
  unfold incrementBy addExisting? addOrMake counter
  cases r.counters.lookup name <;> rfl

/-- A call takes effect with the access with which it returns, and all at once. -/
theorem Access.registry_eq (h : Access c r parked r' returned) :
    r' = if returned then c.run r else r := by
  cases h with
  | find hfound =>
    rw [if_pos rfl, c.run_eq_incrementBy, Registry.incrementBy, hfound]
    rfl
  | miss => rfl
  | make => rw [if_pos rfl, c.run_eq_incrementBy, Registry.incrementBy_eq_addOrMake]

theorem Access.run (c : Call) (r : Registry) :
    Access c r false (c.run r) true ∨
      Access c r false r false ∧ Access c r true (c.run r) true := by
  cases hfound : r.addExisting? c.name c.amount with
  | some r' =>
    have hfind : Access c r false r' true := .find hfound
    rw [hfind.registry_eq] at hfind
    exact Or.inl hfind
  | none =>
    have hmake : Access c r true _ true := .make
    rw [hmake.registry_eq] at hmake
    exact Or.inr ⟨.miss hfound, hmake⟩

/-! ## Calls one after the other -/

def runAll (r : Registry) (calls : List Call) : Registry := calls.foldl (fun r c => c.run r) r

theorem runAll_concat (r : Registry) (calls : List Call) (c : Call) :
    runAll r (calls ++ [c]) = c.run (runAll r calls) := by
  simp [runAll]

theorem total_concat (name : String) (calls : List Call) (c : Call) :
    total name (calls ++ [c]) = total name calls + c.share name := by
  simp [total]

theorem lookup_run (c : Call) (r : Registry) (name : String) :
    (c.run r).counters.lookup name =
      if name = c.name then some (r.counter c.name + c.amount) else r.counters.lookup name := by
  rw [c.run_eq_incrementBy, Registry.incrementBy_eq_addOrMake]
  exact Keyed.lookup_insert c.name _ r.counters name

theorem counter_run (c : Call) (r : Registry) (name : String) :
    ((c.run r).counter name).toNat = ((r.counter name).toNat + c.share name) % 2 ^ 64 := by
  rw [Registry.counter, lookup_run, Call.share]
  by_cases h : c.name = name
  · rw [if_pos h.symm, if_pos h, h, Option.getD_some, UInt64.toNat_add]
  · rw [if_neg (Ne.symm h), if_neg h]
    exact (Nat.mod_eq_of_lt (r.counter name).toNat_lt).symm

/-- A counter holds the sum of what was added to it, as a word of 64 bits. -/
theorem counter_runAll (r : Registry) (calls : List Call) (name : String) :
    ((runAll r calls).counter name).toNat =
      ((r.counter name).toNat + total name calls) % 2 ^ 64 := by
  induction calls using List.reverseRecOn with
  | nil => exact (Nat.mod_eq_of_lt (r.counter name).toNat_lt).symm
  | append_singleton calls c ih =>
    rw [runAll_concat, counter_run, ih, total_concat, Nat.mod_add_mod, Nat.add_assoc]

theorem lookup_runAll_eq_none_iff (calls : List Call) (name : String) :
    (runAll {} calls).counters.lookup name = none ↔ ∀ c ∈ calls, c.name ≠ name := by
  induction calls using List.reverseRecOn with
  | nil => simp [runAll]
  | append_singleton calls c ih =>
    rw [runAll_concat, lookup_run, List.forall_mem_append, List.forall_mem_singleton, ← ih]
    by_cases h : name = c.name
    · simp [h]
    · simp [h, Ne.symm h]

theorem ordered_counters_runAll (calls : List Call) : Keyed.Ordered (runAll {} calls).counters := by
  induction calls using List.reverseRecOn with
  | nil => exact .nil
  | append_singleton calls c ih =>
    rw [runAll_concat, c.run_eq_incrementBy, Registry.incrementBy_eq_addOrMake]
    exact ih.insert c.name _

/-! ## The export -/

theorem get?_ofMembers_map {α : Type} {entries : List (String × α)} (h : Keyed.Ordered entries)
    (f : α → Json) (name : String) :
    (Json.ofMembers (entries.map fun e => (e.1, f e.2))).get? name =
      (entries.lookup name).map f := by
  have hordered : Keyed.Ordered (entries.map fun e => (e.1, f e.2)) := List.pairwise_map.mpr h
  rw [Json.ofMembers, Keyed.ofList_of_ordered hordered]
  exact Keyed.lookup_map f entries name

theorem get?_countersJson (h : Keyed.Ordered r.counters) (name : String) :
    r.countersJson.get? name = (r.counters.lookup name).map fun n => .nat n.toNat :=
  get?_ofMembers_map h (fun n => Json.nat n.toNat) name

theorem get?_counters_toJson (r : Registry) (session : String) (uptime : Nat) :
    (r.toJson session uptime).get? "counters" = some r.countersJson := by
  simp [Registry.toJson, Json.ofMembers, Keyed.ofList, Json.get?, Keyed.lookup_insert]

end AppScaffold.Telemetry

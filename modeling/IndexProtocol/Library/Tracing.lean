/-
This file collects the rules for computations that leave a trace: every call
appends to a list the events it makes. A loop appends what its body emits at
each item, item after item, and the events of one key in the trace of a loop
over distinct keys are those of the one iteration that key gets.
-/

import IndexProtocol.Library.Revert
import Mathlib.Algebra.BigOperators.Group.List.Basic
import Mathlib.Algebra.GroupWithZero.Nat
import Mathlib.Data.List.Nodup

namespace Tracing

open Revert

/-! ### Loops that append to a trace -/

section Loops

variable {State Event Item : Type} (trace : State → List Event) (invariant : State → Prop)
  (body : State → Item → Outcome State) (emit : Item → List Event)

/-- A loop whose body appends what it emits at its item appends what all items emit, in
order. -/
theorem foldlM_appends (items : List Item)
    (each : ∀ state item next, item ∈ items → invariant state → body state item = .ok next →
      invariant next ∧ trace next = trace state ++ emit item) :
    ∀ state final, invariant state → items.foldlM body state = .ok final →
      invariant final ∧ trace final = trace state ++ items.flatMap emit := by
  induction items with
  | nil =>
    intro state final holds returned
    obtain rfl := (pure_eq_ok _ _).mp returned
    exact ⟨holds, (List.append_nil _).symm⟩
  | cons item rest inductionHypothesis =>
    intro state final holds returned
    rw [List.foldlM_cons, bind_eq_ok] at returned
    obtain ⟨next, first, remaining⟩ := returned
    obtain ⟨kept, appended⟩ := each state item next List.mem_cons_self holds first
    obtain ⟨atEnd, traced⟩ := inductionHypothesis
      (fun state other next member => each state other next (List.mem_cons_of_mem _ member))
      next final kept remaining
    refine ⟨atEnd, ?_⟩
    rw [traced, appended, List.flatMap_cons, List.append_assoc]

end Loops

/-! ### The events of one key -/

section Keys

variable {Event Key : Type}

/-- Only one of a list of distinct keys emits anything: the whole list emits what it does. -/
theorem flatMap_eq_of_nodup {keys : List Key} (nodup : keys.Nodup) {key : Key}
    (listed : key ∈ keys) (emit : Key → List Event)
    (others : ∀ other ∈ keys, other ≠ key → emit other = []) :
    keys.flatMap emit = emit key := by
  induction keys with
  | nil => exact absurd listed List.not_mem_nil
  | cons first rest inductionHypothesis =>
    rw [List.nodup_cons] at nodup
    rw [List.flatMap_cons]
    rcases List.mem_cons.mp listed with rfl | later
    · have silent : rest.flatMap emit = [] := by
        refine List.flatMap_eq_nil_iff.mpr fun other member => ?_
        exact others other (List.mem_cons_of_mem _ member) fun same => nodup.1 (same ▸ member)
      rw [silent, List.append_nil]
    · have different : first ≠ key := fun same => nodup.1 (same ▸ later)
      rw [others first List.mem_cons_self different, List.nil_append]
      exact inductionHypothesis nodup.2 later fun other member =>
        others other (List.mem_cons_of_mem _ member)

/-- Only one of a list of distinct keys counts: the whole list counts what it does. -/
theorem sum_map_of_nodup {keys : List Key} (nodup : keys.Nodup) {key : Key}
    (listed : key ∈ keys) (count : Key → Nat)
    (others : ∀ other ∈ keys, other ≠ key → count other = 0) :
    (keys.map count).sum = count key := by
  induction keys with
  | nil => exact absurd listed List.not_mem_nil
  | cons first rest inductionHypothesis =>
    rw [List.nodup_cons] at nodup
    rw [List.map_cons, List.sum_cons]
    rcases List.mem_cons.mp listed with rfl | later
    · have silent : (rest.map count).sum = 0 := by
        refine List.sum_eq_zero fun value member => ?_
        obtain ⟨other, present, rfl⟩ := List.mem_map.mp member
        exact others other (List.mem_cons_of_mem _ present) fun same => nodup.1 (same ▸ present)
      rw [silent, Nat.add_zero]
    · have different : first ≠ key := fun same => nodup.1 (same ▸ later)
      rw [others first List.mem_cons_self different, Nat.zero_add]
      exact inductionHypothesis nodup.2 later fun other member =>
        others other (List.mem_cons_of_mem _ member)

/-- The events that pass a test, in what a list of distinct keys emits, are those of the one
key whose events can pass it. -/
theorem filter_flatMap_of_nodup {keys : List Key} (nodup : keys.Nodup) {key : Key}
    (listed : key ∈ keys) (emit : Key → List Event) (test : Event → Bool)
    (others : ∀ other ∈ keys, other ≠ key → (emit other).filter test = []) :
    (keys.flatMap emit).filter test = (emit key).filter test := by
  rw [List.filter_flatMap]
  exact flatMap_eq_of_nodup nodup listed _ others

end Keys

end Tracing

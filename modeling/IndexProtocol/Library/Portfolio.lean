/-
This file develops the worth of a portfolio at given prices, and what a run of
calls may cost it. A trade of two assets changes the worth by the two changes at
their prices; and where each call lowers a value by at most its cost, a run
lowers it by at most the sum of the costs.
-/

import IndexProtocol.Library.Revert
import Mathlib.Algebra.BigOperators.Group.Finset.Basic
import Mathlib.Algebra.Order.Ring.Int
import Mathlib.Tactic.Linarith
import Mathlib.Tactic.Ring

/-! ### The worth at given prices -/

/-- Prices of the assets of a basket. What is not in the basket is worth nothing. -/
structure PriceList (Asset : Type) where
  basket : Finset Asset
  price : Asset → Nat
  priced : ∀ asset, asset ∉ basket → price asset = 0

namespace PriceList

variable {Asset : Type}

def worth (prices : PriceList Asset) (units : Asset → Int) : Int :=
  ∑ asset ∈ prices.basket, units asset * prices.price asset

variable [DecidableEq Asset] {first second : Asset} {before after : Asset → Int}

/-- A change of two assets alone changes the worth by what they are worth. -/
theorem worth_of_pair (prices : PriceList Asset) (different : first ≠ second)
    (others : ∀ asset, asset ≠ first → asset ≠ second → after asset = before asset) :
    prices.worth after = prices.worth before +
      ((after first - before first) * prices.price first +
        (after second - before second) * prices.price second) := by
  let change : Asset → Int := fun asset => (after asset - before asset) * prices.price asset
  have total : prices.worth after - prices.worth before = ∑ asset ∈ prices.basket, change asset := by
    unfold worth
    rw [← Finset.sum_sub_distrib]
    exact Finset.sum_congr rfl fun asset _ => (sub_mul _ _ _).symm
  -- Outside the basket the price is zero, and outside the pair nothing changed.
  have widened : ∑ asset ∈ prices.basket, change asset =
      ∑ asset ∈ prices.basket ∪ {first, second}, change asset := by
    refine Finset.sum_subset Finset.subset_union_left fun asset _ outside => ?_
    show (after asset - before asset) * (prices.price asset : Int) = 0
    rw [prices.priced asset outside, Nat.cast_zero, mul_zero]
  have narrowed : ∑ asset ∈ ({first, second} : Finset Asset), change asset =
      ∑ asset ∈ prices.basket ∪ {first, second}, change asset := by
    refine Finset.sum_subset Finset.subset_union_right fun asset _ outside => ?_
    rw [Finset.mem_insert, Finset.mem_singleton, not_or] at outside
    show (after asset - before asset) * (prices.price asset : Int) = 0
    rw [others asset outside.1 outside.2, sub_self, zero_mul]
  rw [widened, ← narrowed, Finset.sum_pair different] at total
  exact eq_add_of_sub_eq' total

end PriceList

/-! ### What a run may cost -/

namespace Revert

variable {State Action : Type} (step : State → Action → Outcome State)

/-- Where every call that meets a condition in a sound state leaves a sound state and lowers a
value by at most its cost, a run of such calls lowers it by at most the sum of their costs. -/
theorem run_drawdown (sound : State → Prop) (condition : State → Action → Prop)
    (value : State → Int) (cost : Action → Nat)
    (stepped : ∀ state action next, sound state → condition state action →
      step state action = .ok next → sound next ∧ value state ≤ value next + cost action)
    (actions : List Action) : ∀ start, sound start →
      (∀ front action next, front ++ [action] <+: actions →
        step (run step start front) action = .ok next →
          condition (run step start front) action) →
      sound (run step start actions) ∧
        value start ≤ value (run step start actions) + (actions.map cost).sum := by
  induction actions with
  | nil => exact fun start kept _ => ⟨kept, by simp⟩
  | cons action rest inductionHypothesis =>
    intro start kept met
    have first : sound (attempt step start action) ∧
        value start ≤ value (attempt step start action) + cost action := by
      unfold attempt
      split
      · rename_i next returned
        exact stepped start action next kept
          (met [] action next (List.prefix_append [action] rest) returned) returned
      · exact ⟨kept, le_add_of_nonneg_right (Int.natCast_nonneg _)⟩
    obtain ⟨reached, remaining⟩ := inductionHypothesis _ first.1 fun front other next within =>
      met (action :: front) other next (List.cons_prefix_cons.mpr ⟨rfl, within⟩)
    refine ⟨reached, ?_⟩
    rw [run_cons, List.map_cons, List.sum_cons, Nat.cast_add]
    linarith [first.2]

end Revert

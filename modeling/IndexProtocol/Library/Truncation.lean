/-
This file bounds the error of computations that cut quotients off towards zero.
A computed integer is within an error of an exact rational; multiplying scales
the error, cutting a quotient off scales it down and adds one, and a sum adds the
errors of its terms. Where nothing is negative, cutting off only lowers.
-/

import Mathlib.Algebra.BigOperators.Group.List.Basic
import Mathlib.Algebra.Order.Field.Rat
import Mathlib.Algebra.Order.Group.Abs
import Mathlib.Tactic.FieldSimp
import Mathlib.Tactic.Linarith
import Mathlib.Tactic.Positivity
import Mathlib.Tactic.Ring

namespace Truncation

/-- A computed value is within an error of the exact one. -/
def Within (error : ℚ) (value : ℤ) (exact : ℚ) : Prop := |(value : ℚ) - exact| ≤ error

/-- What the quotient that is cut off leaves, over the divisor, is less than one. -/
theorem within_tdiv (dividend : ℤ) {divisor : ℤ} (positive : 0 < divisor) :
    Within 1 (dividend.tdiv divisor) (dividend / divisor) := by
  have divisorPositive : (0 : ℚ) < divisor := by exact_mod_cast positive
  have split : ((dividend.tdiv divisor : ℤ) : ℚ) - dividend / divisor =
      -(dividend.tmod divisor : ℤ) / divisor := by
    have whole : (divisor * dividend.tdiv divisor + dividend.tmod divisor : ℚ) = dividend := by
      exact_mod_cast Int.mul_tdiv_add_tmod dividend divisor
    field_simp
    linarith
  unfold Within
  rw [split, abs_div, abs_neg, abs_of_pos divisorPositive, div_le_one divisorPositive]
  have small : |dividend.tmod divisor| ≤ divisor := by
    have less := Nat.mod_lt dividend.natAbs (Int.natAbs_pos.mpr positive.ne')
    rw [Int.abs_eq_natAbs, Int.natAbs_tmod]
    omega
  exact_mod_cast small

theorem tdiv_le_div {dividend divisor : ℤ} (nonneg : 0 ≤ dividend) (positive : 0 < divisor) :
    ((dividend.tdiv divisor : ℤ) : ℚ) ≤ dividend / divisor := by
  have divisorPositive : (0 : ℚ) < divisor := by exact_mod_cast positive
  rw [le_div_iff₀ divisorPositive, Int.tdiv_eq_ediv_of_nonneg nonneg]
  exact_mod_cast Int.ediv_mul_le dividend positive.ne'

/-- A sum of terms that are not above their exact values is not above the exact sum. -/
theorem sum_le_sum {Term : Type} {value : Term → ℤ} {exact : Term → ℚ} (terms : List Term)
    (each : ∀ term ∈ terms, (value term : ℚ) ≤ exact term) :
    (((terms.map value).sum : ℤ) : ℚ) ≤ (terms.map exact).sum := by
  induction terms with
  | nil => exact le_rfl
  | cons term rest inductionHypothesis =>
    rw [List.map_cons, List.map_cons, List.sum_cons, List.sum_cons, Int.cast_add]
    exact add_le_add (each term List.mem_cons_self)
      (inductionHypothesis fun other member => each other (List.mem_cons_of_mem _ member))

namespace Within

variable {error other : ℚ} {value another : ℤ} {exact second : ℚ}

theorem zero : Within 0 0 0 := by simp [Within]

theorem mul (within : Within error value exact) (factor : ℕ) :
    Within (error * factor) (value * factor) (exact * factor) := by
  have nonneg : (0 : ℚ) ≤ factor := Nat.cast_nonneg factor
  unfold Within at *
  push_cast
  rw [← sub_mul, abs_mul, abs_of_nonneg nonneg]
  exact mul_le_mul_of_nonneg_right within nonneg

theorem tdiv (within : Within error value exact) {divisor : ℤ} (positive : 0 < divisor) :
    Within (error / divisor + 1) (value.tdiv divisor) (exact / divisor) := by
  have divisorPositive : (0 : ℚ) < divisor := by exact_mod_cast positive
  have cut := within_tdiv value positive
  unfold Within at *
  have scaled : |(value : ℚ) / divisor - exact / divisor| ≤ error / divisor := by
    rw [← sub_div, abs_div, abs_of_pos divisorPositive]
    exact div_le_div_of_nonneg_right within divisorPositive.le
  calc |((value.tdiv divisor : ℤ) : ℚ) - exact / divisor|
      ≤ |((value.tdiv divisor : ℤ) : ℚ) - value / divisor| +
          |(value : ℚ) / divisor - exact / divisor| := abs_sub_le _ _ _
    _ ≤ 1 + error / divisor := add_le_add cut scaled
    _ = error / divisor + 1 := add_comm _ _

theorem add (first : Within error value exact) (rest : Within other another second) :
    Within (error + other) (value + another) (exact + second) := by
  unfold Within at *
  push_cast
  calc |(value : ℚ) + another - (exact + second)|
      = |((value : ℚ) - exact) + (another - second)| := by congr 1; ring
    _ ≤ error + other := (abs_add_le _ _).trans (add_le_add first rest)

theorem sum {Term : Type} {value : Term → ℤ} {exact error : Term → ℚ} (terms : List Term)
    (each : ∀ term ∈ terms, Within (error term) (value term) (exact term)) :
    Within (terms.map error).sum (terms.map value).sum (terms.map exact).sum := by
  induction terms with
  | nil => exact zero
  | cons term rest inductionHypothesis =>
    rw [List.map_cons, List.map_cons, List.map_cons, List.sum_cons, List.sum_cons, List.sum_cons]
    exact (each term List.mem_cons_self).add
      (inductionHypothesis fun other member => each other (List.mem_cons_of_mem _ member))

theorem mono (within : Within error value exact) (larger : error ≤ other) :
    Within other value exact := le_trans within larger

end Within

end Truncation

/-
This file models the fixed-point library `PreciseUnitMath`: products and
quotients in units of `10 ** 18`, with the rounding each name promises. The
signed conservative operations round towards negative infinity, which is proved
from the truncating division and the sign test the library computes with.
-/

import IndexProtocol.Lib.SafeMath
import IndexProtocol.Library.Rounding

namespace IndexProtocol

open Revert

/-- The number one in precise units. -/
def preciseUnit : Nat := 10 ^ 18

theorem preciseUnit_pos : 0 < preciseUnit := by decide

theorem preciseUnit_int_pos : (0 : Int) < (preciseUnit : Int) := by decide

namespace PreciseUnitMath

/-! ### Unsigned operations -/

def preciseMul (a b : Nat) : Outcome Nat := do
  let product ← SafeMath.mul a b
  SafeMath.div product preciseUnit

def preciseMulCeil (a b : Nat) : Outcome Nat :=
  if a = 0 ∨ b = 0 then pure 0
  else do
    let product ← SafeMath.mul a b
    let decremented ← SafeMath.sub product 1
    let quotient ← SafeMath.div decremented preciseUnit
    SafeMath.add quotient 1

def preciseDiv (a b : Nat) : Outcome Nat := do
  let product ← SafeMath.mul a preciseUnit
  SafeMath.div product b

def preciseDivCeil (a b : Nat) : Outcome Nat := do
  require (b ≠ 0) "Cant divide by 0"
  if 0 < a then do
    let product ← SafeMath.mul a preciseUnit
    let decremented ← SafeMath.sub product 1
    let quotient ← SafeMath.div decremented b
    SafeMath.add quotient 1
  else pure 0

def approximatelyEquals (a b range : Nat) : Outcome Bool := do
  -- `&&` evaluates its right operand only when the left one holds.
  let upper ← SafeMath.add b range
  if a ≤ upper then do
    let lower ← SafeMath.sub b range
    pure (decide (lower ≤ a))
  else pure false

theorem preciseMul_eq_ok (a b c : Nat) :
    preciseMul a b = .ok c ↔ a * b < 2 ^ 256 ∧ Rounding.mulFloor preciseUnit a b = c := by
  simp only [preciseMul, bind_eq_ok, SafeMath.mul_eq_ok, SafeMath.div_eq_ok, preciseUnit_pos,
    true_and, Rounding.mulFloor]
  constructor
  · rintro ⟨product, ⟨bound, rfl⟩, quotient⟩
    exact ⟨bound, quotient⟩
  · rintro ⟨bound, quotient⟩
    exact ⟨a * b, ⟨bound, rfl⟩, quotient⟩

/-- Subtracting one before the division and adding one after it rounds a positive product
up. -/
theorem ceilDiv_eq_sub_one_div_add_one (value scale : Nat) (positive : 0 < value)
    (scalePositive : 0 < scale) : value ⌈/⌉ scale = (value - 1) / scale + 1 := by
  rw [Nat.ceilDiv_eq_add_pred_div,
    show value + scale - 1 = (value - 1) + scale by omega, Nat.add_div_right _ scalePositive]

theorem preciseMulCeil_eq_ok (a b c : Nat) :
    preciseMulCeil a b = .ok c ↔ a * b < 2 ^ 256 ∧ Rounding.mulCeil preciseUnit a b = c := by
  unfold preciseMulCeil Rounding.mulCeil
  by_cases zero : a = 0 ∨ b = 0
  · have product : a * b = 0 := Nat.mul_eq_zero.mpr zero
    rw [if_pos zero, pure_eq_ok, product, zero_ceilDiv]
    simp
  · have positive : 0 < a * b := Nat.pos_of_ne_zero fun product =>
      zero (Nat.mul_eq_zero.mp product)
    rw [if_neg zero, ceilDiv_eq_sub_one_div_add_one _ _ positive preciseUnit_pos]
    simp only [bind_eq_ok, SafeMath.mul_eq_ok, SafeMath.sub_eq_ok, SafeMath.div_eq_ok,
      SafeMath.add_eq_ok, preciseUnit_pos, true_and]
    constructor
    · rintro ⟨_, ⟨bound, rfl⟩, _, ⟨_, rfl⟩, _, rfl, _, result⟩
      exact ⟨bound, result⟩
    · rintro ⟨bound, result⟩
      have small : (a * b - 1) / preciseUnit ≤ a * b - 1 := Nat.div_le_self _ _
      exact ⟨a * b, ⟨bound, rfl⟩, a * b - 1, ⟨positive, rfl⟩, _, rfl, by omega, result⟩

/-- A product reverts only when it overflows. -/
theorem preciseMul_eq_ite (a b : Nat) :
    preciseMul a b =
      if a * b < 2 ^ 256 then .ok (Rounding.mulFloor preciseUnit a b)
      else .error "SafeMath: multiplication overflow" := by
  split
  · rename_i bound
    exact (preciseMul_eq_ok _ _ _).mpr ⟨bound, rfl⟩
  · rename_i overflow
    unfold preciseMul SafeMath.mul require
    rw [if_neg overflow]
    rfl

theorem preciseMulCeil_eq_ite (a b : Nat) :
    preciseMulCeil a b =
      if a * b < 2 ^ 256 then .ok (Rounding.mulCeil preciseUnit a b)
      else .error "SafeMath: multiplication overflow" := by
  split
  · rename_i bound
    exact (preciseMulCeil_eq_ok _ _ _).mpr ⟨bound, rfl⟩
  · rename_i overflow
    have nonzero : ¬(a = 0 ∨ b = 0) := fun zero =>
      overflow (by rw [Nat.mul_eq_zero.mpr zero]; exact Nat.two_pow_pos 256)
    unfold preciseMulCeil SafeMath.mul require
    rw [if_neg nonzero, if_neg overflow]
    rfl

theorem preciseDiv_eq_ok (a b c : Nat) :
    preciseDiv a b = .ok c ↔ a * preciseUnit < 2 ^ 256 ∧ 0 < b ∧ a * preciseUnit / b = c := by
  simp only [preciseDiv, bind_eq_ok, SafeMath.mul_eq_ok, SafeMath.div_eq_ok]
  constructor
  · rintro ⟨_, ⟨bound, rfl⟩, positive, quotient⟩
    exact ⟨bound, positive, quotient⟩
  · rintro ⟨bound, positive, quotient⟩
    exact ⟨_, ⟨bound, rfl⟩, positive, quotient⟩

/-- The quotient rounded up covers the dividend. -/
theorem preciseDivCeil_eq_ok {a b c : Nat} (returned : preciseDivCeil a b = .ok c) :
    0 < b ∧ a * preciseUnit ≤ c * b := by
  simp only [preciseDivCeil, bind_eq_ok, require_eq_ok, exists_const] at returned
  obtain ⟨nonzero, rounded⟩ := returned
  have positive := Nat.pos_of_ne_zero nonzero
  refine ⟨positive, ?_⟩
  split at rounded
  · simp only [bind_eq_ok, SafeMath.mul_eq_ok, SafeMath.sub_eq_ok, SafeMath.div_eq_ok,
      SafeMath.add_eq_ok] at rounded
    obtain ⟨_, ⟨_, rfl⟩, _, ⟨_, rfl⟩, _, ⟨_, rfl⟩, _, rfl⟩ := rounded
    have above := Nat.lt_mul_div_succ (a * preciseUnit - 1) positive
    rw [mul_comm b] at above
    omega
  · rename_i zero
    obtain rfl := (pure_eq_ok _ _).mp rounded
    rw [Nat.eq_zero_of_not_pos zero, zero_mul]
    exact Nat.zero_le _

/-- The comparison returns exactly when the sum fits and, if the first test passes, the
second operand is at least the range. -/
theorem approximatelyEquals_eq_ok (a b range : Nat) (result : Bool) :
    approximatelyEquals a b range = .ok result ↔
      b + range < 2 ^ 256 ∧ (a ≤ b + range → range ≤ b) ∧
        decide (a ≤ b + range ∧ b - range ≤ a) = result := by
  simp only [approximatelyEquals, bind_eq_ok, SafeMath.add_eq_ok]
  by_cases within : a ≤ b + range
  · constructor
    · rintro ⟨_, ⟨bound, rfl⟩, returned⟩
      rw [if_pos within, bind_eq_ok] at returned
      obtain ⟨lower, subtracted, compared⟩ := returned
      obtain ⟨large, rfl⟩ := (SafeMath.sub_eq_ok _ _ _).mp subtracted
      rw [pure_eq_ok] at compared
      exact ⟨bound, fun _ => large, by simp [within, ← compared]⟩
    · rintro ⟨bound, large, rfl⟩
      refine ⟨_, ⟨bound, rfl⟩, ?_⟩
      rw [if_pos within, bind_eq_ok]
      exact ⟨_, (SafeMath.sub_eq_ok _ _ _).mpr ⟨large within, rfl⟩, by simp [within]⟩
  · constructor
    · rintro ⟨_, ⟨bound, rfl⟩, returned⟩
      rw [if_neg within, pure_eq_ok] at returned
      exact ⟨bound, fun absent => absurd absent within, by simp [within, returned]⟩
    · rintro ⟨bound, _, rfl⟩
      refine ⟨_, ⟨bound, rfl⟩, ?_⟩
      rw [if_neg within, pure_eq_ok]
      simp [within]

/-! ### Signed operations -/

/-- The signed product in precise units, truncated towards zero. -/
def preciseMulInt (a b : Int) : Outcome Int := do
  let product ← SignedSafeMath.mul a b
  SignedSafeMath.div product preciseUnit

/-- The signed quotient in precise units, truncated towards zero. -/
def preciseDivInt (a b : Int) : Outcome Int := do
  let product ← SignedSafeMath.mul a preciseUnit
  SignedSafeMath.div product b

/-- The signed quotient in precise units, rounded away from zero. -/
def preciseDivCeilInt (a b : Int) : Outcome Int := do
  require (b ≠ 0) "Cant divide by 0"
  let product ← SignedSafeMath.mul a preciseUnit
  let quotient ← SignedSafeMath.div product b
  -- `a ^ b > 0` tests that the signs agree, as an inexact division has different operands.
  if product.tmod b ≠ 0 then
    if decide (product < 0) = decide (b < 0) then pure (quotient + 1) else pure (quotient - 1)
  else pure quotient

def neg (a : Int) : Outcome Int := do
  require (-2 ^ 255 < a) "Inversion overflow"
  pure (-a)

def abs (a : Int) : Outcome Nat :=
  if 0 ≤ a then SafeCast.toUint256 a
  else do
    let opposite ← SignedSafeMath.mul a (-1)
    SafeCast.toUint256 opposite

theorem preciseMulInt_eq_ok (a b c : Int) :
    preciseMulInt a b = .ok c ↔ FitsInt256 (a * b) ∧ (a * b).tdiv preciseUnit = c := by
  have unit : (preciseUnit : Int) ≠ 0 ∧ (preciseUnit : Int) ≠ -1 := by decide
  simp only [preciseMulInt, bind_eq_ok, SignedSafeMath.mul_eq_ok, SignedSafeMath.div_eq_ok]
  constructor
  · rintro ⟨_, ⟨fits, rfl⟩, _, _, quotient⟩
    exact ⟨fits, quotient⟩
  · rintro ⟨fits, quotient⟩
    exact ⟨_, ⟨fits, rfl⟩, unit.1, fun both => unit.2 both.1, quotient⟩

theorem preciseDivInt_eq_ok {a b c : Int} (returned : preciseDivInt a b = .ok c) :
    b ≠ 0 ∧ c = (a * preciseUnit).tdiv b := by
  simp only [preciseDivInt, bind_eq_ok, SignedSafeMath.mul_eq_ok, SignedSafeMath.div_eq_ok]
    at returned
  obtain ⟨_, ⟨_, rfl⟩, nonzero, _, rfl⟩ := returned
  exact ⟨nonzero, rfl⟩

/-- The quotient of nonnegative numbers is rounded up. -/
theorem preciseDivCeilInt_eq_ok {a b c : Int} (nonneg : 0 ≤ a) (positive : 0 ≤ b)
    (returned : preciseDivCeilInt a b = .ok c) :
    0 < b ∧ (c - 1) * b < a * preciseUnit ∧ a * preciseUnit ≤ c * b := by
  simp only [preciseDivCeilInt, bind_eq_ok, require_eq_ok, SignedSafeMath.mul_eq_ok,
    SignedSafeMath.div_eq_ok, exists_const] at returned
  obtain ⟨nonzero, _, ⟨_, rfl⟩, _, ⟨_, _, rfl⟩, rounded⟩ := returned
  have divisor : 0 < b := lt_of_le_of_ne positive (Ne.symm nonzero)
  have product : 0 ≤ a * preciseUnit := mul_nonneg nonneg preciseUnit_int_pos.le
  have signs : decide (a * (preciseUnit : Int) < 0) = decide (b < 0) := by
    simp [not_lt.mpr product, not_lt.mpr positive]
  have parts := Int.mul_tdiv_add_tmod (a * preciseUnit) b
  have remainder := Int.tmod_nonneg b product
  have small := Int.tmod_lt_of_pos (a * preciseUnit) divisor
  rw [if_pos signs] at rounded
  refine ⟨divisor, ?_⟩
  split at rounded
  · rename_i inexact
    obtain rfl := (pure_eq_ok _ _).mp rounded
    have strict := lt_of_le_of_ne remainder (Ne.symm inexact)
    rw [add_sub_cancel_right, add_mul, one_mul, mul_comm _ b]
    exact ⟨by linarith, by linarith⟩
  · rename_i divides
    obtain rfl := (pure_eq_ok _ _).mp rounded
    have zero := not_not.mp divides
    rw [sub_mul, one_mul, mul_comm _ b]
    exact ⟨by linarith, by linarith⟩

@[simp] theorem neg_eq_ok (a b : Int) : neg a = .ok b ↔ -2 ^ 255 < a ∧ -a = b := by
  simp only [neg, bind_eq_ok, require_eq_ok, exists_const, pure_eq_ok]

theorem abs_eq_ok {a : Int} {b : Nat} (returned : PreciseUnitMath.abs a = .ok b) :
    b = a.natAbs := by
  unfold PreciseUnitMath.abs at returned
  split at returned
  · rw [SafeCast.toUint256_eq_ok] at returned
    omega
  · simp only [bind_eq_ok, SignedSafeMath.mul_eq_ok, SafeCast.toUint256_eq_ok] at returned
    obtain ⟨_, ⟨_, rfl⟩, opposite⟩ := returned
    omega

def divDown (a b : Int) : Outcome Int := do
  require (b ≠ 0) "Cant divide by 0"
  require (a ≠ -2 ^ 255 ∨ b ≠ -1) "Invalid input"
  let result ← SignedSafeMath.div a b
  -- `a ^ b < 0` tests the sign bit of the exclusive or: the signs differ.
  if decide (a < 0) ≠ decide (b < 0) ∧ a.tmod b ≠ 0 then pure (result - 1) else pure result

def conservativePreciseMul (a b : Int) : Outcome Int := do
  let product ← SignedSafeMath.mul a b
  divDown product preciseUnit

def conservativePreciseDiv (a b : Int) : Outcome Int := do
  let product ← SignedSafeMath.mul a preciseUnit
  divDown product b

/-- Decrementing the truncated quotient when the signs differ and the division is inexact
gives the floor. -/
theorem tdiv_adjusted_eq_ediv (a b : Int) (positive : 0 < b) :
    (if decide (a < 0) ≠ decide (b < 0) ∧ a.tmod b ≠ 0 then a.tdiv b - 1 else a.tdiv b) =
      a / b := by
  rw [Rounding.tdiv_lowered a b positive.ne', Rounding.floor_quotient,
    Int.fdiv_eq_ediv_of_nonneg a positive.le]

/-- By a positive divisor, `divDown` is the floor of the quotient. -/
theorem divDown_eq_ok (a b c : Int) (positive : 0 < b) : divDown a b = .ok c ↔ a / b = c := by
  have nonzero : b ≠ 0 := ne_of_gt positive
  have notMinusOne : b ≠ -1 := by omega
  simp only [divDown, bind_eq_ok, require_eq_ok, SignedSafeMath.div_eq_ok, exists_const]
  rw [← tdiv_adjusted_eq_ediv a b positive]
  constructor
  · rintro ⟨_, _, _, ⟨_, _, rfl⟩, returned⟩
    rwa [← apply_ite pure, pure_eq_ok] at returned
  · rintro rfl
    refine ⟨nonzero, Or.inr notMinusOne, _, ⟨nonzero, fun both => notMinusOne both.1, rfl⟩, ?_⟩
    rw [← apply_ite pure, pure_eq_ok]

theorem conservativePreciseMul_eq_ok (a b c : Int) :
    conservativePreciseMul a b = .ok c ↔ FitsInt256 (a * b) ∧ a * b / preciseUnit = c := by
  simp only [conservativePreciseMul, bind_eq_ok, SignedSafeMath.mul_eq_ok]
  constructor
  · rintro ⟨_, ⟨fits, rfl⟩, quotient⟩
    exact ⟨fits, (divDown_eq_ok _ _ _ preciseUnit_int_pos).mp quotient⟩
  · rintro ⟨fits, quotient⟩
    exact ⟨_, ⟨fits, rfl⟩, (divDown_eq_ok _ _ _ preciseUnit_int_pos).mpr quotient⟩

theorem conservativePreciseDiv_eq_ok (a b c : Int) (positive : 0 < b) :
    conservativePreciseDiv a b = .ok c ↔
      FitsInt256 (a * preciseUnit) ∧ a * preciseUnit / b = c := by
  simp only [conservativePreciseDiv, bind_eq_ok, SignedSafeMath.mul_eq_ok]
  constructor
  · rintro ⟨_, ⟨fits, rfl⟩, quotient⟩
    exact ⟨fits, (divDown_eq_ok _ _ _ positive).mp quotient⟩
  · rintro ⟨fits, quotient⟩
    exact ⟨_, ⟨fits, rfl⟩, (divDown_eq_ok _ _ _ positive).mpr quotient⟩

end PreciseUnitMath

end IndexProtocol

/-
This file proves that the fixed-point helpers round as their names say: the
conservative operations are the floor, the signed ceiling division goes away
from zero, the unsigned ceilings are ceilings, and each of them reverts exactly
when its product leaves the range of its type or its divisor is zero. The exact
values are stated over the rationals.
-/

import IndexProtocol.Lib.PreciseUnitMath

namespace IndexProtocol

open Revert PreciseUnitMath Rounding

/-- An operation returns one value where it is defined, and reverts everywhere else. -/
structure Computes {α : Type} (operation : Outcome α) (defined : Prop) (value : α) : Prop where
  returns : defined → operation = .ok value
  reverts : ¬defined → ∃ message, operation = .error message

theorem Computes.of_eq_ok_iff {α : Type} {operation : Outcome α} {defined : Prop} {value : α}
    (characterized : ∀ result, operation = .ok result ↔ defined ∧ result = value) :
    Computes operation defined value where
  returns holds := (characterized value).mpr ⟨holds, rfl⟩
  reverts fails := by
    cases returned : operation with
    | error message => exact ⟨message, rfl⟩
    | ok result => exact absurd ((characterized result).mp returned).1 fails

/-! ### Signed operations -/

/-- A product in precise units is never the least integer, which the unit does not divide. -/
theorem mul_preciseUnit_ne_min (a : Int) : a * preciseUnit ≠ -2 ^ 255 := by
  unfold preciseUnit
  omega

theorem divDown_eq_ok_iff (a b c : Int) (notMin : a ≠ -2 ^ 255) :
    divDown a b = .ok c ↔ b ≠ 0 ∧ c = ⌊(a : ℚ) / b⌋ := by
  simp only [divDown, bind_eq_ok, require_eq_ok, SignedSafeMath.div_eq_ok, exists_const]
  constructor
  · rintro ⟨nonzero, _, _, ⟨_, _, rfl⟩, returned⟩
    rw [← apply_ite pure, pure_eq_ok, tdiv_lowered a b nonzero] at returned
    exact ⟨nonzero, returned.symm⟩
  · rintro ⟨nonzero, rfl⟩
    refine ⟨nonzero, Or.inl notMin, _, ⟨nonzero, fun both => notMin both.2, rfl⟩, ?_⟩
    rw [← apply_ite pure, pure_eq_ok, tdiv_lowered a b nonzero]

theorem conservativePreciseMul_eq_ok_iff (a b c : Int) :
    conservativePreciseMul a b = .ok c ↔
      FitsInt256 (a * b) ∧ c = ⌊((a * b : Int) : ℚ) / preciseUnit⌋ := by
  rw [conservativePreciseMul_eq_ok]
  refine and_congr_right fun _ => ?_
  rw [Rat.floor_intCast_div_natCast]
  exact eq_comm

theorem conservativePreciseDiv_eq_ok_iff (a b c : Int) :
    conservativePreciseDiv a b = .ok c ↔
      (b ≠ 0 ∧ FitsInt256 (a * preciseUnit)) ∧ c = ⌊((a * preciseUnit : Int) : ℚ) / b⌋ := by
  simp only [conservativePreciseDiv, bind_eq_ok, SignedSafeMath.mul_eq_ok]
  constructor
  · rintro ⟨_, ⟨fits, rfl⟩, quotient⟩
    obtain ⟨nonzero, floor⟩ :=
      (divDown_eq_ok_iff _ _ _ (mul_preciseUnit_ne_min a)).mp quotient
    exact ⟨⟨nonzero, fits⟩, floor⟩
  · rintro ⟨⟨nonzero, fits⟩, floor⟩
    exact ⟨_, ⟨fits, rfl⟩,
      (divDown_eq_ok_iff _ _ _ (mul_preciseUnit_ne_min a)).mpr ⟨nonzero, floor⟩⟩

theorem preciseDivCeilInt_eq_ok_iff (a b c : Int) :
    preciseDivCeilInt a b = .ok c ↔
      (b ≠ 0 ∧ FitsInt256 (a * preciseUnit)) ∧
        c = outward (((a * preciseUnit : Int) : ℚ) / b) := by
  simp only [preciseDivCeilInt, bind_eq_ok, require_eq_ok, SignedSafeMath.mul_eq_ok,
    SignedSafeMath.div_eq_ok, exists_const]
  have pushed (product quotient : Int) :
      (if product.tmod b ≠ 0 then
        if decide (product < 0) = decide (b < 0) then pure (quotient + 1)
        else pure (quotient - 1)
      else pure quotient : Outcome Int) =
        pure (if product.tmod b ≠ 0 then
          if decide (product < 0) = decide (b < 0) then quotient + 1 else quotient - 1
        else quotient) := by
    split_ifs <;> rfl
  constructor
  · rintro ⟨nonzero, _, ⟨fits, rfl⟩, _, ⟨_, _, rfl⟩, returned⟩
    rw [pushed, pure_eq_ok, tdiv_raised _ b nonzero] at returned
    exact ⟨⟨nonzero, fits⟩, returned.symm⟩
  · rintro ⟨⟨nonzero, fits⟩, rfl⟩
    refine ⟨nonzero, _, ⟨fits, rfl⟩, _,
      ⟨nonzero, fun both => mul_preciseUnit_ne_min a both.2, rfl⟩, ?_⟩
    rw [pushed, pure_eq_ok, tdiv_raised _ b nonzero]

/-- A product that is not the least integer keeps its quotient in the range, so neither
correction by one wraps around. -/
theorem corrected_fits {a b : Int} (fits : FitsInt256 a) (notMin : a ≠ -2 ^ 255)
    (nonzero : b ≠ 0) : FitsInt256 ⌊(a : ℚ) / b⌋ ∧ FitsInt256 (outward ((a : ℚ) / b)) := by
  obtain ⟨least, most⟩ := fits
  have whole : 1 ≤ |(b : ℚ)| := by exact_mod_cast Int.one_le_abs nonzero
  have small : |(a : ℚ) / b| ≤ |(a : ℚ)| := by
    rw [abs_div]
    exact div_le_self (abs_nonneg _) whole
  have bound : |a| ≤ 2 ^ 255 - 1 := abs_le.mpr ⟨by omega, by omega⟩
  have magnitude : |(a : ℚ)| ≤ ((2 ^ 255 - 1 : Int) : ℚ) := by
    rw [← Int.cast_abs]
    exact Int.cast_le.mpr bound
  obtain ⟨above, below⟩ := abs_le.mp (small.trans magnitude)
  have floorLeast : -(2 ^ 255 - 1) ≤ ⌊(a : ℚ) / b⌋ := Int.le_floor.mpr (by exact_mod_cast above)
  have floorMost : ⌊(a : ℚ) / b⌋ ≤ 2 ^ 255 - 1 := by exact_mod_cast (Int.floor_le _).trans below
  have ceilMost : ⌈(a : ℚ) / b⌉ ≤ 2 ^ 255 - 1 := Int.ceil_le.mpr below
  have ceilLeast : -(2 ^ 255 - 1) ≤ ⌈(a : ℚ) / b⌉ := floorLeast.trans (Int.floor_le_ceil _)
  unfold outward FitsInt256
  refine ⟨⟨by omega, by omega⟩, ?_⟩
  split_ifs
  · exact ⟨by omega, by omega⟩
  · exact ⟨by omega, by omega⟩

/-- Every value that a signed operation returns fits its type. -/
theorem signed_results_fit {a b c : Int}
    (returned : conservativePreciseMul a b = .ok c ∨ conservativePreciseDiv a b = .ok c ∨
      preciseDivCeilInt a b = .ok c) : FitsInt256 c := by
  rcases returned with product | floor | away
  · obtain ⟨⟨least, most⟩, rfl⟩ := (conservativePreciseMul_eq_ok _ _ _).mp product
    unfold preciseUnit
    exact ⟨by omega, by omega⟩
  · obtain ⟨⟨nonzero, fits⟩, rfl⟩ := (conservativePreciseDiv_eq_ok_iff _ _ _).mp floor
    exact (corrected_fits fits (mul_preciseUnit_ne_min a) nonzero).1
  · obtain ⟨⟨nonzero, fits⟩, rfl⟩ := (preciseDivCeilInt_eq_ok_iff _ _ _).mp away
    exact (corrected_fits fits (mul_preciseUnit_ne_min a) nonzero).2

/-! ### Unsigned ceilings -/

theorem preciseMulCeil_eq_ok_iff (a b c : Nat) :
    preciseMulCeil a b = .ok c ↔
      a * b < 2 ^ 256 ∧ c = ⌈((a * b : Nat) : ℚ) / preciseUnit⌉₊ := by
  rw [preciseMulCeil_eq_ok, natCeil_quotient]
  exact and_congr_right fun _ => eq_comm

theorem preciseDivCeil_eq_ok_iff (a b c : Nat) :
    preciseDivCeil a b = .ok c ↔
      (b ≠ 0 ∧ a * preciseUnit < 2 ^ 256) ∧ c = ⌈((a * preciseUnit : Nat) : ℚ) / b⌉₊ := by
  simp only [preciseDivCeil, bind_eq_ok, require_eq_ok, exists_const, natCeil_quotient, and_assoc]
  refine and_congr_right fun nonzero => ?_
  have divisor := Nat.pos_of_ne_zero nonzero
  rcases Nat.eq_zero_or_pos a with rfl | positive
  · rw [if_neg (lt_irrefl 0), pure_eq_ok, zero_mul, zero_ceilDiv]
    simp [eq_comm]
  · have product : 0 < a * preciseUnit := Nat.mul_pos positive preciseUnit_pos
    rw [if_pos positive, ceilDiv_eq_sub_one_div_add_one _ _ product divisor]
    simp only [bind_eq_ok, SafeMath.mul_eq_ok, SafeMath.sub_eq_ok, SafeMath.div_eq_ok,
      SafeMath.add_eq_ok]
    constructor
    · rintro ⟨_, ⟨bound, rfl⟩, _, ⟨_, rfl⟩, _, ⟨_, rfl⟩, _, result⟩
      exact ⟨bound, result.symm⟩
    · rintro ⟨bound, rfl⟩
      have small : (a * preciseUnit - 1) / b ≤ a * preciseUnit - 1 := Nat.div_le_self _ _
      exact ⟨_, ⟨bound, rfl⟩, _, ⟨product, rfl⟩, _, ⟨divisor, rfl⟩, by omega, rfl⟩

/-! ### The helpers -/

/-- The helpers return the rounding of their names, and the unchecked corrections by one of the
signed ones stay in the range of the type. -/
theorem helpers_round_as_named :
    (∀ a b : Int,
      Computes (conservativePreciseMul a b) (FitsInt256 (a * b)) ⌊(a * b : ℚ) / 10 ^ 18⌋) ∧
    (∀ a b : Int,
      Computes (conservativePreciseDiv a b) (b ≠ 0 ∧ FitsInt256 (a * 10 ^ 18))
        ⌊(a * 10 ^ 18 : ℚ) / b⌋) ∧
    (∀ a b : Int,
      Computes (preciseDivCeilInt a b) (b ≠ 0 ∧ FitsInt256 (a * 10 ^ 18))
        (if 0 ≤ (a * 10 ^ 18 : ℚ) / b then ⌈(a * 10 ^ 18 : ℚ) / b⌉
          else ⌊(a * 10 ^ 18 : ℚ) / b⌋)) ∧
    (∀ a b : Nat,
      Computes (preciseMulCeil a b) (a * b < 2 ^ 256) ⌈(a * b : ℚ) / 10 ^ 18⌉₊) ∧
    (∀ a b : Nat,
      Computes (preciseDivCeil a b) (b ≠ 0 ∧ a * 10 ^ 18 < 2 ^ 256)
        ⌈(a * 10 ^ 18 : ℚ) / b⌉₊) ∧
    ∀ a b c : Int, conservativePreciseMul a b = .ok c ∨ conservativePreciseDiv a b = .ok c ∨
      preciseDivCeilInt a b = .ok c → FitsInt256 c := by
  refine ⟨fun a b => .of_eq_ok_iff fun c => ?_, fun a b => .of_eq_ok_iff fun c => ?_,
    fun a b => .of_eq_ok_iff fun c => ?_, fun a b => .of_eq_ok_iff fun c => ?_,
    fun a b => .of_eq_ok_iff fun c => ?_, fun a b c => signed_results_fit⟩
  · rw [conservativePreciseMul_eq_ok_iff]
    norm_num [preciseUnit]
  · rw [conservativePreciseDiv_eq_ok_iff]
    norm_num [preciseUnit]
  · rw [preciseDivCeilInt_eq_ok_iff]
    norm_num [preciseUnit, outward]
  · rw [preciseMulCeil_eq_ok_iff]
    norm_num [preciseUnit]
  · rw [preciseDivCeil_eq_ok_iff]
    norm_num [preciseUnit]

end IndexProtocol

/-
This file models the arithmetic of the contracts whose compiler checks it: sums,
differences, products and quotients of `uint256` revert where they leave the
type, and so does a sum of `int256`. A conversion between the two types is not
checked: it keeps the bits.
-/

import IndexProtocol.Lib.SafeMath

namespace IndexProtocol

open Revert

namespace CheckedMath

/-- `type(uint256).max`. -/
def uint256Max : Nat := 2 ^ 256 - 1

def add (a b : Nat) : Outcome Nat := do
  require (a + b ≤ uint256Max) "Panic(0x11)"
  pure (a + b)

def sub (a b : Nat) : Outcome Nat := do
  require (b ≤ a) "Panic(0x11)"
  pure (a - b)

def mul (a b : Nat) : Outcome Nat := do
  require (a * b ≤ uint256Max) "Panic(0x11)"
  pure (a * b)

def div (a b : Nat) : Outcome Nat := do
  require (0 < b) "Panic(0x12)"
  pure (a / b)

/-- The sum of two `int256`. -/
def addInt (a b : Int) : Outcome Int := do
  require (FitsInt256 (a + b)) "Panic(0x11)"
  pure (a + b)

/-- `int256(value)`. -/
def toInt256 (value : Nat) : Int := if value < 2 ^ 255 then value else value - 2 ^ 256

/-- `uint256(value)`. -/
def toUint256 (value : Int) : Nat := (value % 2 ^ 256).toNat

section Inversion

variable (a b c : Nat)

@[simp] theorem add_eq_ok : add a b = .ok c ↔ a + b ≤ uint256Max ∧ a + b = c := by
  simp only [add, bind_eq_ok, require_eq_ok, pure_eq_ok, exists_const]

@[simp] theorem sub_eq_ok : sub a b = .ok c ↔ b ≤ a ∧ a - b = c := by
  simp only [sub, bind_eq_ok, require_eq_ok, pure_eq_ok, exists_const]

@[simp] theorem mul_eq_ok : mul a b = .ok c ↔ a * b ≤ uint256Max ∧ a * b = c := by
  simp only [mul, bind_eq_ok, require_eq_ok, pure_eq_ok, exists_const]

@[simp] theorem div_eq_ok : div a b = .ok c ↔ 0 < b ∧ a / b = c := by
  simp only [div, bind_eq_ok, require_eq_ok, pure_eq_ok, exists_const]

@[simp] theorem addInt_eq_ok (a b c : Int) :
    addInt a b = .ok c ↔ FitsInt256 (a + b) ∧ a + b = c := by
  simp only [addInt, bind_eq_ok, require_eq_ok, pure_eq_ok, exists_const]

/-- The quotient of the largest value is passed exactly where the product overflows. -/
theorem uint256Max_div_lt_iff (positive : 0 < b) : uint256Max / b < a ↔ uint256Max < a * b :=
  Nat.div_lt_iff_lt_mul positive

end Inversion

section Conversions

theorem toInt256_of_lt {value : Nat} (small : value < 2 ^ 255) : toInt256 value = value :=
  if_pos small

theorem toInt256_of_le {value : Nat} (large : 2 ^ 255 ≤ value) :
    toInt256 value = value - 2 ^ 256 :=
  if_neg (not_lt.mpr large)

theorem toUint256_of_nonneg {value : Int} (nonneg : 0 ≤ value) (fits : FitsInt256 value) :
    (toUint256 value : Int) = value := by
  unfold toUint256
  obtain ⟨_, small⟩ := fits
  rw [Int.toNat_of_nonneg (Int.emod_nonneg _ (by decide)),
    Int.emod_eq_of_lt nonneg (by omega)]

theorem toUint256_of_neg {value : Int} (negative : value < 0) (fits : FitsInt256 value) :
    (toUint256 value : Int) = value + 2 ^ 256 := by
  unfold toUint256
  obtain ⟨large, _⟩ := fits
  rw [Int.toNat_of_nonneg (Int.emod_nonneg _ (by decide)), ← Int.add_emod_right,
    Int.emod_eq_of_lt (by omega) (by omega)]

end Conversions

end CheckedMath

end IndexProtocol

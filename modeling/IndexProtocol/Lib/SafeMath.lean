/-
This file models the checked machine arithmetic the contracts compute with:
`SafeMath` over `uint256`, `SignedSafeMath` over `int256`, and the casts of
`SafeCast`. A `uint256` is a natural number and an `int256` an integer; every
operation checks the exact result against the range of its type and reverts with
the library's reason when it leaves it.
-/

import IndexProtocol.Library.Revert
import Mathlib.Tactic.Ring
import Mathlib.Tactic.Linarith

namespace IndexProtocol

open Revert

/-- An account address. -/
abbrev Address := BitVec 160

/-- Raw call data. -/
abbrev Bytes := List (BitVec 8)

/-! ### Unsigned arithmetic -/

namespace SafeMath

def add (a b : Nat) : Outcome Nat := do
  require (a + b < 2 ^ 256) "SafeMath: addition overflow"
  pure (a + b)

def sub (a b : Nat) : Outcome Nat := do
  require (b ≤ a) "SafeMath: subtraction overflow"
  pure (a - b)

def mul (a b : Nat) : Outcome Nat := do
  require (a * b < 2 ^ 256) "SafeMath: multiplication overflow"
  pure (a * b)

def div (a b : Nat) : Outcome Nat := do
  require (0 < b) "SafeMath: division by zero"
  pure (a / b)

variable (a b c : Nat)

@[simp] theorem add_eq_ok : add a b = .ok c ↔ a + b < 2 ^ 256 ∧ a + b = c := by
  simp only [add, bind_eq_ok, require_eq_ok, pure_eq_ok, exists_const]

@[simp] theorem sub_eq_ok : sub a b = .ok c ↔ b ≤ a ∧ a - b = c := by
  simp only [sub, bind_eq_ok, require_eq_ok, pure_eq_ok, exists_const]

/-- A subtraction underflows exactly when it takes off more than there is. -/
theorem sub_eq_error : sub a b = .error "SafeMath: subtraction overflow" ↔ a < b := by
  unfold sub require
  split
  · rename_i enough
    exact iff_of_false (fun failed => nomatch failed) (Nat.not_lt.mpr enough)
  · rename_i short
    exact iff_of_true (error_bind _ _) (Nat.not_le.mp short)

@[simp] theorem mul_eq_ok : mul a b = .ok c ↔ a * b < 2 ^ 256 ∧ a * b = c := by
  simp only [mul, bind_eq_ok, require_eq_ok, pure_eq_ok, exists_const]

@[simp] theorem div_eq_ok : div a b = .ok c ↔ 0 < b ∧ a / b = c := by
  simp only [div, bind_eq_ok, require_eq_ok, pure_eq_ok, exists_const]

end SafeMath

/-! ### Signed arithmetic -/

/-- An exact integer that `int256` can hold. -/
def FitsInt256 (value : Int) : Prop := -2 ^ 255 ≤ value ∧ value < 2 ^ 255

instance (value : Int) : Decidable (FitsInt256 value) :=
  inferInstanceAs (Decidable (_ ∧ _))

namespace SignedSafeMath

def add (a b : Int) : Outcome Int := do
  require (FitsInt256 (a + b)) "SignedSafeMath: addition overflow"
  pure (a + b)

def sub (a b : Int) : Outcome Int := do
  require (FitsInt256 (a - b)) "SignedSafeMath: subtraction overflow"
  pure (a - b)

def mul (a b : Int) : Outcome Int := do
  require (FitsInt256 (a * b)) "SignedSafeMath: multiplication overflow"
  pure (a * b)

/-- Signed division truncates towards zero. -/
def div (a b : Int) : Outcome Int := do
  require (b ≠ 0) "SignedSafeMath: division by zero"
  require (¬(b = -1 ∧ a = -2 ^ 255)) "SignedSafeMath: division overflow"
  pure (a.tdiv b)

variable (a b c : Int)

@[simp] theorem add_eq_ok : add a b = .ok c ↔ FitsInt256 (a + b) ∧ a + b = c := by
  simp only [add, bind_eq_ok, require_eq_ok, pure_eq_ok, exists_const]

@[simp] theorem sub_eq_ok : sub a b = .ok c ↔ FitsInt256 (a - b) ∧ a - b = c := by
  simp only [sub, bind_eq_ok, require_eq_ok, pure_eq_ok, exists_const]

@[simp] theorem mul_eq_ok : mul a b = .ok c ↔ FitsInt256 (a * b) ∧ a * b = c := by
  simp only [mul, bind_eq_ok, require_eq_ok, pure_eq_ok, exists_const]

@[simp] theorem div_eq_ok :
    div a b = .ok c ↔ b ≠ 0 ∧ ¬(b = -1 ∧ a = -2 ^ 255) ∧ a.tdiv b = c := by
  simp only [div, bind_eq_ok, require_eq_ok, pure_eq_ok, exists_const]

end SignedSafeMath

/-! ### Casts -/

namespace SafeCast

def toUint256 (value : Int) : Outcome Nat := do
  require (0 ≤ value) "SafeCast: value must be positive"
  pure value.toNat

def toInt256 (value : Nat) : Outcome Int := do
  require (value < 2 ^ 255) "SafeCast: value doesn't fit in an int256"
  pure value

@[simp] theorem toUint256_eq_ok (value : Int) (result : Nat) :
    toUint256 value = .ok result ↔ value = result := by
  simp only [toUint256, bind_eq_ok, require_eq_ok, pure_eq_ok, exists_const]
  omega

@[simp] theorem toInt256_eq_ok (value : Nat) (result : Int) :
    toInt256 value = .ok result ↔ value < 2 ^ 255 ∧ (value : Int) = result := by
  simp only [toInt256, bind_eq_ok, require_eq_ok, pure_eq_ok, exists_const]

end SafeCast

end IndexProtocol

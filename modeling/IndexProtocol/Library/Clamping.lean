/-
This file collects the rules for a value that starts between two bounds, moves
one way by a change and stops at a bound. The change may be infinite. The value
stays between the bounds, and of two changes the larger one moves it at least as
far, unless it has reached the bound before.
-/

import Mathlib.Data.ENat.Basic

namespace Clamping

/-- The value after a change down or up, stopped at the bounds. -/
def clamped (start upper lower : Nat) (down : Bool) : ℕ∞ → Nat
  | ⊤ => if down then lower else upper
  | (change : Nat) => if down then max (start - change) lower else min (start + change) upper

/-- How far the value can move. -/
def room (start upper lower : Nat) (down : Bool) : Nat :=
  if down then start - lower else upper - start

section Laws

variable {start upper lower : Nat} {down : Bool} (change first second : ℕ∞)

theorem clamped_top : clamped start upper lower down ⊤ = if down then lower else upper := rfl

theorem clamped_coe (change : Nat) : clamped start upper lower down change =
    if down then max (start - change) lower else min (start + change) upper := rfl

/-- A change leaves the value at its start exactly when it is none or the start is the bound. -/
theorem clamped_eq_start_iff (below : lower ≤ start) (above : start ≤ upper) :
    clamped start upper lower down change = start ↔
      change = 0 ∨ (if down then lower else upper) = start := by
  induction change with
  | top =>
    rw [clamped_top, or_iff_right ENat.top_ne_zero]
  | coe change =>
    rw [clamped_coe, Nat.cast_eq_zero]
    cases down <;> simp only [if_true, Bool.false_eq_true, if_false] <;> omega

/-- The value stays between the bounds. -/
theorem clamped_mem (below : lower ≤ start) (above : start ≤ upper) :
    lower ≤ clamped start upper lower down change ∧
      clamped start upper lower down change ≤ upper := by
  induction change with
  | top =>
    rw [clamped_top]
    split <;> omega
  | coe change =>
    rw [clamped_coe]
    split <;> omega

/-- A change moves the value at least as far as another one exactly when it is at least as
large or moves it to the bound. -/
theorem clamped_ordered_iff (below : lower ≤ start) (above : start ≤ upper) :
    (if down then clamped start upper lower down second ≤ clamped start upper lower down first
      else clamped start upper lower down first ≤ clamped start upper lower down second) ↔
    first ≤ second ∨ (room start upper lower down : ℕ∞) ≤ second := by
  induction second with
  | top =>
    obtain ⟨least, most⟩ : lower ≤ clamped start upper lower down first ∧
        clamped start upper lower down first ≤ upper := clamped_mem first below above
    refine iff_of_true ?_ (Or.inl le_top)
    rw [clamped_top]
    cases down <;> assumption
  | coe second =>
    induction first with
    | top =>
      have finite : ¬ (⊤ : ℕ∞) ≤ (second : ℕ∞) := by simp
      rw [clamped_top, clamped_coe, Nat.cast_le]
      unfold room
      cases down <;> simp [finite] <;> omega
    | coe first =>
      rw [clamped_coe, clamped_coe, Nat.cast_le, Nat.cast_le]
      unfold room
      cases down <;> simp <;> omega

end Laws

end Clamping

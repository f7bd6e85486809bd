/-
This file develops funds that issue shares against a basket of assets. A share
is a claim on a unit of every asset, in multiples of a scale, and the fund is
solvent when it holds enough of every asset for all shares at once. The rules
say which changes keep it solvent: issuing shares for at least their claim,
redeeming them for at most it, and any reallocation that leaves each asset
covered or untouched.
-/

import Mathlib.Algebra.Order.Ring.Defs
import Mathlib.Data.Set.Defs
import Mathlib.Logic.Relation
import Mathlib.Tactic.Linarith
import Mathlib.Tactic.Ring

/-! ### One asset -/

/-- A balance covers the claims of a supply of shares on a unit of the asset each. -/
def Covers {Value : Type} [Mul Value] [LE Value] (scale supply unit balance : Value) : Prop :=
  supply * unit ≤ balance * scale

namespace Covers

variable {Value : Type} [CommRing Value] [LinearOrder Value] [IsStrictOrderedRing Value]
  {scale supply unit balance quantity amount : Value}

/-- Issuing shares for at least their claim keeps the balance covering. -/
theorem deposit (covers : Covers scale supply unit balance)
    (charged : quantity * unit ≤ amount * scale) :
    Covers scale (supply + quantity) unit (balance + amount) := by
  unfold Covers at covers ⊢
  rw [add_mul, add_mul]
  exact add_le_add covers charged

/-- Redeeming shares for at most their claim keeps the balance covering. -/
theorem withdraw (covers : Covers scale supply unit balance)
    (released : amount * scale ≤ quantity * unit) :
    Covers scale (supply - quantity) unit (balance - amount) := by
  unfold Covers at covers ⊢
  rw [sub_mul, sub_mul]
  exact sub_le_sub covers released

theorem mono (covers : Covers scale supply unit balance) (nonneg : 0 ≤ scale) {larger : Value}
    (more : balance ≤ larger) : Covers scale supply unit larger :=
  le_trans covers (mul_le_mul_of_nonneg_right more nonneg)

/-- Inflating the supply keeps the balance covering when the unit shrinks at least as fast:
the supply grows by at most the inverse of a rate, and the unit shrinks by at least it. -/
theorem dilute (covers : Covers scale supply unit balance) {whole rate inflated reduced : Value}
    (wholePositive : 0 < whole) (unitNonneg : 0 ≤ unit) (supplyNonneg : 0 ≤ inflated)
    (inflation : inflated * rate ≤ supply * whole) (reduction : reduced * whole ≤ unit * rate) :
    Covers scale inflated reduced balance := by
  refine le_trans ?_ covers
  refine le_of_mul_le_mul_right ?_ wholePositive
  calc inflated * reduced * whole = inflated * (reduced * whole) := by ring
    _ ≤ inflated * (unit * rate) := mul_le_mul_of_nonneg_left reduction supplyNonneg
    _ = unit * (inflated * rate) := by ring
    _ ≤ unit * (supply * whole) := mul_le_mul_of_nonneg_left inflation unitNonneg
    _ = supply * unit * whole := by ring

end Covers

/-! ### The whole basket -/

structure Fund (Asset Value : Type) where
  supply : Value
  assets : Set Asset
  unit : Asset → Value
  balance : Asset → Value

namespace Fund

section Steps

variable {Asset Value : Type} [CommRing Value] [LinearOrder Value] [IsStrictOrderedRing Value]
  (scale : Value)

def Solvent (fund : Fund Asset Value) : Prop :=
  ∀ asset ∈ fund.assets, Covers scale fund.supply (fund.unit asset) (fund.balance asset)

/-- The changes of a fund that respect the claims of its shares. -/
inductive Step : Fund Asset Value → Fund Asset Value → Prop
  | issue {fund next : Fund Asset Value} (quantity : Value)
      (supply : next.supply = fund.supply + quantity) (assets : next.assets = fund.assets)
      (unit : ∀ asset ∈ fund.assets, next.unit asset = fund.unit asset)
      (charged : ∀ asset ∈ fund.assets, quantity * fund.unit asset ≤
        (next.balance asset - fund.balance asset) * scale) : Step fund next
  | redeem {fund next : Fund Asset Value} (quantity : Value)
      (supply : next.supply = fund.supply - quantity) (assets : next.assets = fund.assets)
      (unit : ∀ asset ∈ fund.assets, next.unit asset = fund.unit asset)
      (released : ∀ asset ∈ fund.assets, (fund.balance asset - next.balance asset) * scale ≤
        quantity * fund.unit asset) : Step fund next
  | reallocate {fund next : Fund Asset Value} (supply : next.supply = fund.supply)
      (each : ∀ asset ∈ next.assets,
        Covers scale next.supply (next.unit asset) (next.balance asset) ∨
          asset ∈ fund.assets ∧ next.unit asset = fund.unit asset ∧
            fund.balance asset ≤ next.balance asset) : Step fund next

variable {scale}

theorem Step.solvent (nonneg : 0 ≤ scale) {fund next : Fund Asset Value}
    (solvent : fund.Solvent scale) (step : Step scale fund next) : next.Solvent scale := by
  intro asset member
  cases step with
  | issue quantity supply assets unit charged =>
    rw [assets] at member
    rw [supply, unit asset member]
    have covers := (solvent asset member).deposit (charged asset member)
    rwa [add_sub_cancel] at covers
  | redeem quantity supply assets unit released =>
    rw [assets] at member
    rw [supply, unit asset member]
    have covers := (solvent asset member).withdraw (released asset member)
    rwa [sub_sub_cancel] at covers
  | reallocate supply each =>
    rcases each asset member with covers | ⟨before, unit, more⟩
    · exact covers
    · rw [supply, unit]
      exact (solvent asset before).mono nonneg more

/-- A solvent fund stays solvent through any number of such changes. -/
theorem solvent_of_steps (nonneg : 0 ≤ scale) {fund next : Fund Asset Value}
    (steps : Relation.ReflTransGen (Step scale) fund next) (solvent : fund.Solvent scale) :
    next.Solvent scale := by
  induction steps with
  | refl => exact solvent
  | tail _ step inductionHypothesis => exact step.solvent nonneg inductionHypothesis

end Steps

end Fund

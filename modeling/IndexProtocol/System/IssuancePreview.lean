/-
This file proves that the preview of an issuance never underestimates. The
preview reads the default unit of a component from what the Set holds, the
issuance from the position. Where the holdings cover the positions the former is
the larger, and the rest of both computations is the same function of it.
-/

import IndexProtocol.System.Collateralization
import IndexProtocol.System.Replication

namespace IndexProtocol

open Revert PreciseUnitMath DebtIssuanceModule

namespace DebtIssuanceModuleV2

variable {Ledger : Type}

/-! ### What the preview returns -/

/-- The equity unit of a component with its default unit read from the balance. -/
def balanceUnit (world : World) (component : Address) : Nat :=
  ((world.held component * preciseUnit / world.setToken.totalSupply : Nat) +
    ((world.setToken.externalPositionModules component).map fun module =>
      max (world.setToken.externalRealUnit component module) 0).sum).toNat

section Preview

variable {module : DebtIssuanceModule} {quantity : Nat} {world : World} {component : Address}
  {preview : ComponentValues}

theorem totalIssuanceUnitsFromBalances_eq_ok {entry : Address × Nat × Nat}
    (returned : totalIssuanceUnitsFromBalances world component = .ok entry) :
    entry = (component, balanceUnit world component, debtUnit world.setToken component) := by
  simp only [totalIssuanceUnitsFromBalances, Position.getDefaultPositionUnit, bind_eq_ok,
    preciseDiv_eq_ok, SafeCast.toInt256_eq_ok, pure_eq_ok, Prod.exists] at returned
  obtain ⟨_, ⟨_, _, rfl⟩, _, ⟨_, rfl⟩, equity, debt, cumulative, rfl⟩ := returned
  obtain ⟨summed, rfl⟩ := cumulativeUnits_eq_ok cumulative
  unfold balanceUnit
  rw [← summed, Int.toNat_natCast]

/-- With a supply, the preview shows for every component the quantities of the units from
balances. -/
theorem getRequiredComponentIssuanceUnits_eq_ok (issued : 0 < world.setToken.totalSupply)
    (returned : getRequiredComponentIssuanceUnits module quantity world = .ok preview) :
    preview = world.setToken.components.map fun component => (component,
      equityQuantity true (balanceUnit world component) (module.resolvedQuantity true quantity),
      LeverageHooks.notionalDebt true (debtUnit world.setToken component)
        (module.resolvedQuantity true quantity)) := by
  simp only [getRequiredComponentIssuanceUnits, bind_eq_ok] at returned
  obtain ⟨fees, charged, previewed⟩ := returned
  obtain ⟨_, _, whole, _⟩ := calculateTotalFees_eq_ok charged
  rw [if_neg issued.ne', bind_eq_ok] at previewed
  obtain ⟨units, computed, rounded⟩ := previewed
  obtain rfl := mapM_eq_map _ (fun _ _ => totalIssuanceUnitsFromBalances_eq_ok) _ _ computed
  rw [mapM_eq_map _ (fun _ _ => requiredQuantities_eq_ok) _ _ rounded, List.map_map, whole rfl,
    resolvedQuantity, if_pos rfl]
  refine List.map_congr_left fun component _ => ?_
  simp only [Function.comp_apply, passQuantity, if_true, Bool.false_eq_true, if_false]

/-- A balance that covers the position has at least its equity unit. -/
theorem equityUnit_le_balanceUnit (issued : 0 < world.setToken.totalSupply)
    (covered : world.setToken.totalSupply * world.setToken.defaultRealUnit component ≤
      world.held component * preciseUnit) :
    equityUnit world.setToken component ≤ balanceUnit world component := by
  unfold equityUnit balanceUnit
  refine Int.toNat_le_toNat (Int.add_le_add_right ?_ _)
  rw [Int.natCast_ediv, Int.le_ediv_iff_mul_le (by exact_mod_cast issued), mul_comm]
  exact_mod_cast covered

/-- The quantity of a larger unit is larger. -/
theorem equityQuantity_mono {unit larger : Nat} (order : unit ≤ larger) :
    equityQuantity true unit quantity ≤ equityQuantity true larger quantity := by
  unfold equityQuantity
  rw [if_pos rfl, if_pos rfl]
  exact Rounding.mulCeil_mono preciseUnit_pos order

end Preview

/-! ### The issuance after it -/

section Issuance

variable {module : DebtIssuanceModule} {deployment : Deployment Ledger}
  {tokens : TokenContracts Ledger} {msgSender recipient : Address} {quantity : Nat}
  {start prepared after : Execution Ledger}

/-- An issuance of the second version leaves the trace of one of the first. -/
theorem issue_traced (kept : PositionBookkeeping start.world.setToken)
    (empty : start.events = [])
    (preparing : module.prepareIssue deployment msgSender quantity recipient start =
      .ok prepared)
    (issued : issue module deployment tokens msgSender quantity recipient start = .ok after) :
    Traced module deployment true quantity prepared.world.setToken after.events := by
  rw [issue, preparing] at issued
  obtain ⟨fees, required, collected, resolved, charged, computed, collecting, resolving,
    minted⟩ := completeIssue_eq_ok issued
  have emitted := resolution_emits looseMovement_onlyBalances looseMovement_onlyBalances computed
    collecting resolving
  exact .of_issue kept empty preparing charged (calculateRequired_eq_ok computed).1 emitted minted

end Issuance

end DebtIssuanceModuleV2

end IndexProtocol

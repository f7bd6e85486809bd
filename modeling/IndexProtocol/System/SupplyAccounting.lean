/-
This file relates the supply of a Set to the quantities its orders are computed
with. The collateral of an order is computed with the whole fee, but the fee
tokens are minted by a routine of its own that checks the manager's share first.
The supply moves by the quantity the collateral is computed with exactly when
that share is not rounded away, which is when the protocol takes less than the
whole fee or there is no fee.
-/

import IndexProtocol.System.OrderAccounting

namespace IndexProtocol

open Revert

/-- The quantity of Set tokens minted. -/
def Event.minting : Event → Nat
  | .minted _ quantity => quantity
  | _ => 0

namespace DebtIssuanceModule

variable {Ledger : Type}

/-! ### The fee tokens -/

section Fees

variable {module : DebtIssuanceModule} {isIssue : Bool} {quantity : Nat} {world : World}
  {fees : TotalFees}

/-- The fee tokens are minted in full exactly when there is no fee or the protocol takes less
than all of it. -/
theorem feeMints_sum_iff
    (charged : module.calculateTotalFees quantity isIssue world = .ok fees)
    (controller : Controller) :
    ((module.feeMints controller fees.managerFee fees.protocolFee).map Prod.snd).sum =
        fees.managerFee + fees.protocolFee ↔
      module.totalFee isIssue quantity = 0 ∨
        world.controller.getModuleFee module.address protocolFeeSplitIndex < preciseUnit := by
  obtain ⟨share, whole, _⟩ := calculateTotalFees_eq_ok charged
  unfold feeMints
  rcases Nat.eq_zero_or_pos fees.managerFee with none | some
  · rw [if_neg (by omega), List.map_nil, List.sum_nil, none, Nat.zero_add, ← whole, none,
      Nat.zero_add]
    constructor
    · intro minted
      exact Or.inl minted.symm
    · rintro (free | split)
      · exact free.symm
      · rcases Nat.eq_zero_or_pos fees.protocolFee with free | paid
        · exact free.symm
        · have charge : 0 < module.totalFee isIssue quantity := by omega
          have less := Rounding.mulFloor_lt split charge
          omega
  · rw [if_pos some]
    have whole_minted : (((module.feeRecipient, fees.managerFee) ::
        if 0 < fees.protocolFee then [(controller.feeRecipient, fees.protocolFee)]
        else []).map Prod.snd).sum = fees.managerFee + fees.protocolFee := by
      split
      · simp
      · simp only [List.map_cons, List.map_nil, List.sum_cons, List.sum_nil]
        omega
    refine iff_of_true whole_minted (Or.inr ?_)
    by_contra notLess
    have all := (Rounding.le_mulFloor_iff preciseUnit (module.totalFee isIssue quantity) _
      preciseUnit_pos _).mpr (Nat.mul_le_mul_left _ (not_lt.mp notLess))
    omega

end Fees

/-! ### The supply after an order -/

section Orders

variable {module : DebtIssuanceModule} {deployment : Deployment Ledger}
  {before after : Execution Ledger}

theorem minting_resolutionEvents (isIssue : Bool) (quantity : Nat) (setToken : SetToken) :
    total Event.minting (resolutionEvents deployment isIssue quantity setToken) = 0 := by
  refine total_eq_zero _ fun event member => ?_
  rcases silent_resolutionEvents member with ⟨_, rfl⟩ | ⟨_, rfl⟩ <;> rfl

theorem minting_mints {mints : List (Address × Nat)} (minted : Mints mints before after) :
    total Event.minting after.events =
      total Event.minting before.events + (mints.map Prod.snd).sum := by
  rw [minted.trace, total_append, Nat.add_right_inj]
  unfold total
  rw [List.map_map]
  rfl

/-- The passes of an order mint nothing and leave the supply as it is. -/
theorem minting_emits {order : Order} {isIssue : Bool} {quantity : Nat} {setToken : SetToken}
    (emitted : Execution.Emits
      (.ordered order :: resolutionEvents deployment isIssue quantity setToken) before after) :
    total Event.minting after.events = total Event.minting before.events ∧
      after.world.setToken.totalSupply = before.world.setToken.totalSupply := by
  refine ⟨?_, emitted.onlyBalances.totalSupply⟩
  rw [emitted.trace, total_append, total_cons, minting_resolutionEvents]
  rfl

end Orders

/-- With the fees as they are computed after the hooks before the order: the supply rises by the
quantity with fees on issuance and falls by the quantity net of fees on redemption, and the
quantity and the two shares of the fee are minted, if and only if the fee is zero or the
protocol takes less than the whole of it. -/
theorem supply_matches_iff (module : DebtIssuanceModule) (deployment : Deployment Ledger)
    (msgSender : Address) (quantity : Nat) (recipient : Address) (start : Execution Ledger) :
    (∀ prepared fees after,
      module.prepareIssue deployment msgSender quantity recipient start = .ok prepared →
      module.calculateTotalFees quantity true prepared.world = .ok fees →
      module.issue deployment msgSender quantity recipient start = .ok after →
        ((after.world.setToken.totalSupply =
              prepared.world.setToken.totalSupply + fees.totalQuantity ∧
            total Event.minting after.events = total Event.minting start.events +
              (quantity + fees.managerFee + fees.protocolFee)) ↔
          module.totalFee true quantity = 0 ∨
            prepared.world.controller.getModuleFee module.address protocolFeeSplitIndex <
              preciseUnit)) ∧
    (∀ prepared fees after,
      module.prepareRedeem deployment quantity start = .ok prepared →
      module.calculateTotalFees quantity false prepared.world = .ok fees →
      module.redeem deployment msgSender quantity recipient start = .ok after →
        ((after.world.setToken.totalSupply + fees.totalQuantity =
              prepared.world.setToken.totalSupply ∧
            total Event.minting after.events = total Event.minting start.events +
              (fees.managerFee + fees.protocolFee)) ↔
          module.totalFee false quantity = 0 ∨
            prepared.world.controller.getModuleFee module.address protocolFeeSplitIndex <
              preciseUnit)) := by
  constructor
  · intro prepared fees after preparing charged issued
    rw [issue, preparing] at issued
    obtain ⟨_, trace, _⟩ := prepareIssue_eq_ok preparing
    obtain ⟨used, resolved, computed, _, emitted, minted⟩ := completeIssue_eq_ok issued
    obtain rfl : used = fees := Except.ok.inj (computed.symm.trans charged)
    obtain ⟨_, whole, issuedQuantity, _⟩ := calculateTotalFees_eq_ok charged
    obtain ⟨silent, unchanged⟩ := minting_emits emitted
    have supply := minted.totalSupply
    have paid := minting_mints minted
    rw [List.map_append, List.sum_append, unchanged] at supply
    rw [List.map_append, List.sum_append, silent, trace] at paid
    have exactly := issuedQuantity rfl
    rw [← feeMints_sum_iff charged resolved.world.controller, supply, paid]
    simp only [List.map_cons, List.map_nil, List.sum_cons, List.sum_nil]
    omega
  · intro prepared fees after preparing charged redeemed
    rw [redeem, preparing] at redeemed
    obtain ⟨_, trace, _⟩ := prepareRedeem_eq_ok preparing
    obtain ⟨burned, used, resolved, ⟨enough, _, stored⟩, computed, _, emitted, minted⟩ :=
      completeRedeem_eq_ok redeemed
    have same : burned.world.controller = prepared.world.controller := by rw [stored]
    rw [calculateTotalFees_congr same] at computed
    obtain rfl : used = fees := Except.ok.inj (computed.symm.trans charged)
    obtain ⟨_, whole, _, redeemedQuantity⟩ := calculateTotalFees_eq_ok charged
    obtain ⟨silent, unchanged⟩ := minting_emits emitted
    have supply := minted.totalSupply
    have paid := minting_mints minted
    have burnedSupply : burned.world.setToken.totalSupply =
        prepared.world.setToken.totalSupply - quantity := by rw [stored]
    have burnedTrace : burned.events = start.events := by rw [stored, ← trace]
    rw [unchanged, burnedSupply] at supply
    rw [silent, burnedTrace] at paid
    have exactly := redeemedQuantity rfl
    rw [← feeMints_sum_iff charged resolved.world.controller, supply, paid]
    omega

end DebtIssuanceModule

/-! ### A fee of one percent -/

/-- Half of the fee goes to the protocol, and one hundred and one tokens are minted. -/
theorem supply_matches_iff_half :
    ∃ after, (sampleIssuance (10 ^ 16)).issue sampleDeployment 7 100 7
        (sampleExecution (10 ^ 18) [] (5 * 10 ^ 17)) = .ok after ∧
      after.world.setToken.totalSupply = 10 ^ 18 + 101 := by
  have issued : returns ((sampleIssuance (10 ^ 16)).issue sampleDeployment 7 100 7
      (sampleExecution (10 ^ 18) [] (5 * 10 ^ 17))) (fun _ => true) = true := by decide +kernel
  have charged : returns ((sampleIssuance (10 ^ 16)).calculateTotalFees 100 true
      (sampleExecution (10 ^ 18) [] (5 * 10 ^ 17)).world)
      (fun fees => decide (fees.totalQuantity = 101)) = true := by decide +kernel
  obtain ⟨after, returned, _⟩ := exists_of_returns issued
  obtain ⟨fees, computed, whole⟩ := exists_of_returns charged
  have supply := (((DebtIssuanceModule.supply_matches_iff (sampleIssuance (10 ^ 16))
    sampleDeployment 7 100 7 (sampleExecution (10 ^ 18) [] (5 * 10 ^ 17))).1
      (sampleExecution (10 ^ 18) [] (5 * 10 ^ 17)) fees after rfl computed returned).mpr
        (by decide +kernel)).1
  rw [of_decide_eq_true whole] at supply
  exact ⟨after, returned, supply⟩

/-- All of the fee goes to the protocol, and nobody receives it. -/
theorem fee_charged_unminted :
    ∃ fees after, (sampleIssuance (10 ^ 16)).calculateTotalFees 100 true
        (sampleExecution (10 ^ 18) [] (10 ^ 18)).world = .ok fees ∧
      (sampleIssuance (10 ^ 16)).issue sampleDeployment 7 100 7
        (sampleExecution (10 ^ 18) [] (10 ^ 18)) = .ok after ∧
      ¬ after.world.setToken.totalSupply =
        (sampleExecution (10 ^ 18) [] (10 ^ 18)).world.setToken.totalSupply +
          fees.totalQuantity := by
  have issued : returns ((sampleIssuance (10 ^ 16)).issue sampleDeployment 7 100 7
      (sampleExecution (10 ^ 18) [] (10 ^ 18)))
      (fun after => decide (after.world.setToken.totalSupply = 10 ^ 18 + 100)) = true := by
    decide +kernel
  have charged : returns ((sampleIssuance (10 ^ 16)).calculateTotalFees 100 true
      (sampleExecution (10 ^ 18) [] (10 ^ 18)).world)
      (fun fees => decide (fees.totalQuantity = 101)) = true := by decide +kernel
  obtain ⟨after, returned, supply⟩ := exists_of_returns issued
  obtain ⟨fees, computed, whole⟩ := exists_of_returns charged
  refine ⟨fees, after, computed, returned, ?_⟩
  rw [of_decide_eq_true supply, of_decide_eq_true whole]
  decide +kernel

end IndexProtocol

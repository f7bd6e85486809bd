/-
This file proves when the general index module's three readings of the wrapped
ether target agree. Raising the targets and computing the quantity to sell read
the target normalized to the current position multiplier; the check before the
remaining wrapped ether is traded reads the target as it was recorded. Fees
lower the multiplier, and with it the normalized target; raising the targets
lifts it. The check is right exactly while the unit of wrapped ether is not
between the two.
-/

import IndexProtocol.Modules.GeneralIndexCalls
import IndexProtocol.Protocol.PositionBookkeeping

namespace IndexProtocol

open Revert PreciseUnitMath

namespace GeneralIndexTrading

/-- The recorded target and the normalized one lie on one side of the unit, and what is held
above a target covers it where the amounts do not overflow. -/
structure TargetsAgree (supply recordedUnit targetUnit currentUnit : Nat) : Prop where
  outside : ¬(min recordedUnit targetUnit < currentUnit ∧
    currentUnit ≤ max recordedUnit targetUnit)
  covered : recordedUnit < currentUnit → supply * currentUnit < 2 ^ 256 →
    supply * targetUnit < 2 ^ 256 →
      Rounding.mulCeil preciseUnit supply targetUnit ≤
        Rounding.mulFloor preciseUnit supply currentUnit

/-- From a supply of one Set on, the targets need only lie on one side of the unit. -/
theorem targetsAgree_iff {supply recordedUnit targetUnit currentUnit : Nat}
    (whole : preciseUnit ≤ supply) :
    TargetsAgree supply recordedUnit targetUnit currentUnit ↔
      ¬(min recordedUnit targetUnit < currentUnit ∧
        currentUnit ≤ max recordedUnit targetUnit) := by
  refine ⟨TargetsAgree.outside, fun outside => ⟨outside, fun above _ _ => ?_⟩⟩
  exact Rounding.mulCeil_le_mulFloor preciseUnit_pos whole (by omega)

/-- The check passes exactly above the normalized target, and then the quantity to sell does not
underflow. -/
structure WETHGuardsAgree (module : GeneralIndexTrading) (world : World)
    (targetUnit currentUnit : Nat) : Prop where
  check : module.validateWETHAboveTarget world = .ok () ↔ targetUnit < currentUnit
  quantity : module.validateWETHAboveTarget world = .ok () →
    module.remainingQuantity world.setToken.totalSupply world ≠
      .error "SafeMath: subtraction overflow"

section Readings

variable {module : GeneralIndexTrading} {world : World} {currentUnit targetUnit : Nat}

theorem validateWETHAboveTarget_eq_ok
    (current : getDefaultPositionRealUnit world module.weth = .ok currentUnit) :
    module.validateWETHAboveTarget world = .ok () ↔
      (module.executionInfo module.weth).targetUnit < currentUnit := by
  unfold validateWETHAboveTarget
  rw [current]
  exact require_eq_ok _ _ _

/-- The quantity underflows when neither amount overflows and the target's is the larger. -/
theorem remainingQuantity_underflows_iff (supply : Nat)
    (current : getDefaultPositionRealUnit world module.weth = .ok currentUnit)
    (target : module.getNormalizedTargetUnit world module.weth = .ok targetUnit) :
    module.remainingQuantity supply world = .error "SafeMath: subtraction overflow" ↔
      supply * currentUnit < 2 ^ 256 ∧ supply * targetUnit < 2 ^ 256 ∧
        Rounding.mulFloor preciseUnit supply currentUnit <
          Rounding.mulCeil preciseUnit supply targetUnit := by
  unfold remainingQuantity getUnitsAndNotionalAmounts Position.getDefaultTotalNotional
  rw [current, target, ok_bind, ok_bind, preciseMul_eq_ite, preciseMulCeil_eq_ite]
  by_cases currentFits : supply * currentUnit < 2 ^ 256
  · by_cases targetFits : supply * targetUnit < 2 ^ 256
    · rw [if_pos currentFits, if_pos targetFits, and_iff_right currentFits,
        and_iff_right targetFits, ok_bind, ok_bind, pure_bind]
      exact SafeMath.sub_eq_error _ _
    · rw [if_pos currentFits, if_neg targetFits, ok_bind, error_bind, error_bind]
      exact iff_of_false (by simp) fun fits => targetFits fits.2.1
  · rw [if_neg currentFits, error_bind, error_bind]
    exact iff_of_false (by simp) fun fits => currentFits fits.1

/-- Targets are raised only while wrapped ether is above its normalized target. -/
theorem raiseAssetTargets_above {msgSender : Address} {next : GeneralIndexTrading}
    (current : getDefaultPositionRealUnit world module.weth = .ok currentUnit)
    (target : module.getNormalizedTargetUnit world module.weth = .ok targetUnit)
    (returned : module.raiseAssetTargets msgSender world = .ok next) :
    targetUnit < currentUnit := by
  simp only [raiseAssetTargets, canRaiseAssetTargets, bind_eq_ok, require_eq_ok] at returned
  obtain ⟨_, _, raisable, ⟨_, _, compared⟩, _, rfl, _⟩ := returned
  split at compared
  · simp only [current, target, bind_eq_ok, pure_eq_ok, Except.ok.injEq] at compared
    obtain ⟨_, rfl, _, rfl, above⟩ := compared
    exact of_decide_eq_true above
  · exact absurd ((pure_eq_ok _ _).mp compared) Bool.false_ne_true

/-- A trade of the remaining wrapped ether passes the check and sends the quantity that is
computed behind it. -/
theorem tradeRemainingWETH_guarded {Ledger : Type} {msgSender origin component : Address}
    {protocols : Protocols Ledger} {adapters : IndexAdapters} {minComponentReceived : Nat}
    {before : Execution Ledger} {result : GeneralIndexTrading × Execution Ledger}
    (returned : module.tradeRemainingWETH msgSender origin protocols adapters component
      minComponentReceived before = .ok result) :
    module.validateWETHAboveTarget before.world = .ok () ∧
      ∃ tradeInfo, module.createTradeRemainingInfo adapters component minComponentReceived
          before.world = .ok tradeInfo ∧
        module.remainingQuantity before.world.setToken.totalSupply before.world =
          .ok tradeInfo.sendQuantity := by
  simp only [tradeRemainingWETH, bind_eq_ok] at returned
  obtain ⟨_, _, _, _, _, _, _, _, _, checked, _, _, tradeInfo, created, _⟩ := returned
  refine ⟨checked, tradeInfo, created, ?_⟩
  simp only [createTradeRemainingInfo, getDefaultTradeInfo, bind_eq_ok, pure_eq_ok] at created
  obtain ⟨_, ⟨_, _, _, _, rfl⟩, quantity, computed, rfl⟩ := created
  exact computed

/-- Where the unit of wrapped ether and its normalized target can be read: the targets are
raised only while the unit is above the normalized target; every trade of the remaining wrapped
ether passes the check and sends the quantity behind it; and the check agrees with the
normalized target, with no underflow behind it, exactly when the recorded and the normalized
target lie on one side of the unit and what is held covers the target. -/
theorem weth_guards_agree_iff
    (current : getDefaultPositionRealUnit world module.weth = .ok currentUnit)
    (target : module.getNormalizedTargetUnit world module.weth = .ok targetUnit) :
    (∀ msgSender next, module.raiseAssetTargets msgSender world = .ok next →
      targetUnit < currentUnit) ∧
    (∀ (Ledger : Type) (protocols : Protocols Ledger) (adapters : IndexAdapters)
      (msgSender origin component : Address) (minComponentReceived : Nat)
      (before : Execution Ledger) (result : GeneralIndexTrading × Execution Ledger),
      before.world = world →
      module.tradeRemainingWETH msgSender origin protocols adapters component
        minComponentReceived before = .ok result →
      module.validateWETHAboveTarget world = .ok () ∧
        ∃ tradeInfo, module.createTradeRemainingInfo adapters component minComponentReceived
            world = .ok tradeInfo ∧
          module.remainingQuantity world.setToken.totalSupply world =
            .ok tradeInfo.sendQuantity) ∧
    (module.WETHGuardsAgree world targetUnit currentUnit ↔
      TargetsAgree world.setToken.totalSupply (module.executionInfo module.weth).targetUnit
        targetUnit currentUnit) := by
  have checked := validateWETHAboveTarget_eq_ok current
  have underflows := remainingQuantity_underflows_iff world.setToken.totalSupply current target
  refine ⟨fun _ _ => raiseAssetTargets_above current target, ?_, fun agree => ⟨?_, ?_⟩,
    fun agree => ⟨?_, ?_⟩⟩
  · rintro Ledger protocols adapters msgSender origin component minComponentReceived before
      result rfl returned
    exact tradeRemainingWETH_guarded returned
  · have same := checked.symm.trans agree.check
    omega
  · intro above currentFits targetFits
    have sound := agree.quantity (checked.mpr above)
    rw [Ne, underflows] at sound
    exact Nat.not_lt.mp fun short => sound ⟨currentFits, targetFits, short⟩
  · have outside := agree.outside
    rw [checked]
    omega
  · intro passed
    rw [Ne, underflows]
    rintro ⟨currentFits, targetFits, short⟩
    exact absurd (agree.covered (checked.mp passed) currentFits targetFits) (Nat.not_le.mpr short)

end Readings

/-! ### A sample rebalance with wrapped ether left over -/

/-- Targets of 100 for the wrapped ether at address 3 and of 50 for a component, to be raised by
a tenth. -/
def sampleTrading : GeneralIndexTrading where
  address := 4
  weth := 3
  executionInfo := fun component =>
    { targetUnit := if component = 3 then 100 else 50
      maxSize := 20
      coolOffPeriod := 0
      lastTradeTimestamp := 0
      exchangeName := "exchange"
      exchangeData := [] }
  permissionInfo :=
    { anyoneTrade := true, tradersHistory := [], tradeAllowList := fun _ => false }
  rebalanceInfo :=
    { positionMultiplier := 10 ^ 18
      raiseTargetPercentage := 10 ^ 17
      rebalanceComponents := [3, 8] }

/-- A Set of supply one with the component at its target and a unit of wrapped ether. -/
def sampleTradingWorld (unit : Int) : World where
  timestamp := 0
  controller := sampleController
  setToken :=
    { SetToken.construct 2 [3, 8] [unit, 50] [4] 5 with
      totalSupply := 10 ^ 18
      moduleStates := fun _ => .initialized }
  tokens := fun _ => { totalSupply := 0, balanceOf := fun _ => 0, allowance := fun _ _ => 0 }

/-- Once the targets are raised from 100 to 110, a unit of 120 is above both. -/
theorem weth_guards_agree_iff_raised :
    ∃ raised, sampleTrading.raiseAssetTargets 5 (sampleTradingWorld 120) = .ok raised ∧
      (raised.executionInfo raised.weth).targetUnit = 100 ∧
      raised.getNormalizedTargetUnit (sampleTradingWorld 120) raised.weth = .ok 110 ∧
        raised.WETHGuardsAgree (sampleTradingWorld 120) 110 120 := by
  have succeeds : returns (sampleTrading.raiseAssetTargets 5 (sampleTradingWorld 120))
      (fun raised => decide (
        raised.getNormalizedTargetUnit (sampleTradingWorld 120) raised.weth = .ok 110 ∧
        getDefaultPositionRealUnit (sampleTradingWorld 120) raised.weth = .ok 120 ∧
        (raised.executionInfo raised.weth).targetUnit = 100)) = true := by
    decide
  obtain ⟨raised, returned, read⟩ := exists_of_returns succeeds
  obtain ⟨target, current, recorded⟩ := of_decide_eq_true read
  refine ⟨raised, returned, recorded, target,
    (weth_guards_agree_iff current target).2.2.mpr ((targetsAgree_iff (by decide)).mpr ?_)⟩
  rw [recorded]
  decide

/-- Once the targets are raised the unit of 105 passes the check against the recorded target and
falls short of the normalized target of 110, so the quantity to sell underflows. -/
theorem weth_guards_disagree :
    ∃ raised, sampleTrading.raiseAssetTargets 5 (sampleTradingWorld 105) = .ok raised ∧
      raised.getNormalizedTargetUnit (sampleTradingWorld 105) raised.weth = .ok 110 ∧
      getDefaultPositionRealUnit (sampleTradingWorld 105) raised.weth = .ok 105 ∧
        ¬raised.WETHGuardsAgree (sampleTradingWorld 105) 110 105 := by
  have succeeds : returns (sampleTrading.raiseAssetTargets 5 (sampleTradingWorld 105))
      (fun raised => decide (
        raised.getNormalizedTargetUnit (sampleTradingWorld 105) raised.weth = .ok 110 ∧
        getDefaultPositionRealUnit (sampleTradingWorld 105) raised.weth = .ok 105 ∧
        raised.validateWETHAboveTarget (sampleTradingWorld 105) = .ok ())) = true := by
    decide
  obtain ⟨raised, returned, read⟩ := exists_of_returns succeeds
  obtain ⟨target, current, passed⟩ := of_decide_eq_true read
  exact ⟨raised, returned, target, current, fun agree =>
    absurd (agree.check.mp passed) (by decide)⟩

end GeneralIndexTrading

end IndexProtocol

/-
This file follows one trade of the single index module to the target of its
component. The size is the difference of a notional rounded down and one rounded
up; when exactly that is filled, the unit that is computed from the balance is
the target, since both roundings cancel at a supply of one Set or more. The unit
is then stored through the position multiplier, and what is read back is
compared with the target for equality: the component counts as met exactly when
the multiplier takes nothing off its target.
-/

import IndexProtocol.Modules.SingleIndexModule
import IndexProtocol.System.StoredUnits

namespace IndexProtocol

open Revert PreciseUnitMath

namespace SingleIndexModule

/-! ### Targets that are met -/

/-- The normalized target of a component and its unit. -/
def targetAndUnit (module : SingleIndexModule) (component : Address) (world : World) :
    Outcome (Nat × Nat) := do
  let multiplier ← currentPositionMultiplier world
  let targetUnit ← module.normalizeTargetUnit component multiplier
  let unit ← currentUnit world component
  pure (targetUnit, unit)

/-- The component passes its turn of the loop over all targets. -/
def CountsAsMet (module : SingleIndexModule) (component : Address) (world : World) : Prop :=
  ∃ multiplier, currentPositionMultiplier world = .ok multiplier ∧
    module.targetUnmet multiplier world component = .ok false

section Met

variable {module : SingleIndexModule} {component : Address} {world : World}
  {targetUnit unit : Nat}

theorem targetAndUnit_eq_ok :
    module.targetAndUnit component world = .ok (targetUnit, unit) ↔
      ∃ multiplier, currentPositionMultiplier world = .ok multiplier ∧
        module.normalizeTargetUnit component multiplier = .ok targetUnit ∧
        currentUnit world component = .ok unit := by
  simp only [targetAndUnit, bind_eq_ok, pure_eq_ok, Prod.mk.injEq]
  constructor
  · rintro ⟨multiplier, current, _, target, _, read, rfl, rfl⟩
    exact ⟨multiplier, current, target, read⟩
  · rintro ⟨multiplier, current, target, read⟩
    exact ⟨multiplier, current, _, target, _, read, rfl, rfl⟩

/-- A component counts as met when its target and its unit are equal. -/
theorem countsAsMet_iff (read : module.targetAndUnit component world = .ok (targetUnit, unit)) :
    module.CountsAsMet component world ↔ unit = targetUnit := by
  obtain ⟨multiplier, current, target, read⟩ := targetAndUnit_eq_ok.mp read
  have unmet : module.targetUnmet multiplier world component =
      .ok (decide (targetUnit ≠ unit)) := by
    unfold targetUnmet comparesWithTarget
    rw [target, read]
    rfl
  constructor
  · rintro ⟨other, again, met⟩
    obtain rfl := Except.ok.inj (current.symm.trans again)
    rw [unmet, Except.ok.injEq, decide_eq_false_iff_not, not_not] at met
    exact met.symm
  · rintro rfl
    exact ⟨multiplier, current, by rw [unmet, decide_eq_false (not_not.mpr rfl)]⟩

/-- The reading is that of any later state with the same positions. -/
theorem targetAndUnit_congr {later : World}
    (same : SetToken.SamePositions world.setToken later.setToken) :
    module.targetAndUnit component later = module.targetAndUnit component world := by
  unfold targetAndUnit currentPositionMultiplier currentUnit SetToken.getDefaultPositionRealUnit
    SetToken.convertVirtualToRealUnit SetToken.defaultPositionVirtualUnit
  rw [same.positionMultiplier, same.componentPositions]

end Met

/-! ### The size of a trade -/

/-- What the exchange moves of the component is the computed size. -/
def FillsExactly (isBuy : Bool) (size before after : Nat) : Prop :=
  if isBuy = true then after = before + size else after + size = before

section Sizes

variable {module : SingleIndexModule} {component : Address} {world : World}
variable {targetUnit unit : Nat} {isBuy : Bool} {size : Nat}

/-- The maximum of the component does not limit the size of its trade. -/
def NotLimited (module : SingleIndexModule) (component : Address) (supply targetUnit unit : Nat) :
    Prop :=
  Rounding.mulCeil preciseUnit supply targetUnit - Rounding.mulFloor preciseUnit supply unit ≤
      (module.assetInfo component).maxSize ∧
    Rounding.mulFloor preciseUnit supply unit - Rounding.mulCeil preciseUnit supply targetUnit ≤
      (module.assetInfo component).maxSize

theorem calculateTradeSizeAndDirection_eq_ok
    (read : module.targetAndUnit component world = .ok (targetUnit, unit))
    (sized : module.calculateTradeSizeAndDirection component world = .ok (isBuy, size)) :
    unit ≠ targetUnit ∧
      ((isBuy = true ∧
        Rounding.mulFloor preciseUnit world.setToken.totalSupply unit <
          Rounding.mulCeil preciseUnit world.setToken.totalSupply targetUnit ∧
        size = min (module.assetInfo component).maxSize
          (Rounding.mulCeil preciseUnit world.setToken.totalSupply targetUnit -
            Rounding.mulFloor preciseUnit world.setToken.totalSupply unit)) ∨
      (isBuy = false ∧
        Rounding.mulCeil preciseUnit world.setToken.totalSupply targetUnit ≤
          Rounding.mulFloor preciseUnit world.setToken.totalSupply unit ∧
        size = min (module.assetInfo component).maxSize
          (Rounding.mulFloor preciseUnit world.setToken.totalSupply unit -
            Rounding.mulCeil preciseUnit world.setToken.totalSupply targetUnit))) := by
  obtain ⟨multiplier, current, target, held⟩ := targetAndUnit_eq_ok.mp read
  simp only [calculateTradeSizeAndDirection, current, target, held, ok_bind, bind_eq_ok,
    require_eq_ok, exists_const, Position.getDefaultTotalNotional, preciseMul_eq_ok,
    preciseMulCeil_eq_ok] at sized
  obtain ⟨unmet, _, ⟨_, rfl⟩, _, ⟨_, rfl⟩, difference⟩ := sized
  refine ⟨unmet, ?_⟩
  split at difference
  · rename_i below
    simp only [bind_eq_ok, SafeMath.sub_eq_ok, pure_eq_ok, Prod.mk.injEq] at difference
    obtain ⟨_, ⟨_, rfl⟩, rfl, rfl⟩ := difference
    exact Or.inl ⟨rfl, below, rfl⟩
  · rename_i atMost
    simp only [bind_eq_ok, SafeMath.sub_eq_ok, pure_eq_ok, Prod.mk.injEq] at difference
    obtain ⟨_, ⟨_, rfl⟩, rfl, rfl⟩ := difference
    exact Or.inr ⟨rfl, Nat.not_lt.mp atMost, rfl⟩

/-- A size that is filled exactly and is not limited takes the balance by the same distance as
from the current notional to the target. -/
theorem filled_distance {before after : Nat}
    (read : module.targetAndUnit component world = .ok (targetUnit, unit))
    (sized : module.calculateTradeSizeAndDirection component world = .ok (isBuy, size))
    (unlimited : module.NotLimited component world.setToken.totalSupply targetUnit unit)
    (filled : FillsExactly isBuy size before after) :
    after + Rounding.mulFloor preciseUnit world.setToken.totalSupply unit =
      before + Rounding.mulCeil preciseUnit world.setToken.totalSupply targetUnit := by
  obtain ⟨buying, selling⟩ := unlimited
  obtain ⟨_, ⟨rfl, below, rfl⟩ | ⟨rfl, above, rfl⟩⟩ :=
    calculateTradeSizeAndDirection_eq_ok read sized
  · rw [FillsExactly, if_pos rfl, min_eq_right buying] at filled
    omega
  · rw [FillsExactly, if_neg Bool.false_ne_true, min_eq_right selling] at filled
    omega

end Sizes

/-! ### One trade -/

section Trade

variable {Ledger : Type} {module updated : SingleIndexModule} {msgSender origin : Address}
variable {protocols : Protocols Ledger} {encode : ExchangeCall → Bytes} {component : Address}
variable {execution traded : Execution Ledger} {targetUnit unit : Nat}

theorem executeTrade_onlyBalances {sellComponent buyComponent : Address} {fixIn : Bool}
    {amount : Nat} {exchange : ExchangeId}
    (returned : module.executeTrade protocols encode sellComponent buyComponent fixIn amount
      exchange execution = .ok traded) : World.OnlyBalances execution.world traded.world := by
  simp only [executeTrade, bind_eq_ok, Prod.exists] at returned
  obtain ⟨_, _, _, approved, approval, invoked⟩ := returned
  exact ((Execution.invokeApprove_emits approval).trans
    (Execution.invokeUnchecked_emits invoked)).onlyBalances

/-- One trade moves balances, and then edits both positions from what they were before. -/
theorem swapAndUpdate_eq_ok {sellComponent buyComponent : Address} {fixIn : Bool}
    {amount sellAmount buyAmount : Nat} (different : sellComponent ≠ buyComponent)
    (returned : module.swapAndUpdate protocols encode component sellComponent buyComponent fixIn
      amount execution = .ok (traded, sellAmount, buyAmount)) :
    ∃ moved, World.OnlyBalances execution.world moved ∧ traded.world.held = moved.held ∧
      ∀ token, token = sellComponent ∨ token = buyComponent → ∃ newUnit,
        World.EditedUnit token (execution.world.held token) moved traded.world newUnit := by
  simp only [swapAndUpdate, bind_eq_ok, pure_eq_ok, Prod.exists, Prod.mk.injEq] at returned
  obtain ⟨swapped, executed, _, _, _, updated, rfl, rfl, rfl⟩ := returned
  obtain ⟨sold, bought, kept⟩ := World.updatePositions_eq_ok different updated
  refine ⟨swapped.world, executeTrade_onlyBalances executed, kept.held, ?_⟩
  rintro token (rfl | rfl)
  · exact sold
  · exact bought

theorem trade_eq_ok
    (returned : module.trade msgSender origin protocols encode component execution =
      .ok (updated, traded)) :
    updated = module.recordTrade component traded.world ∧
      (∃ sized, module.calculateTradeSizeAndDirection component execution.world = .ok sized) ∧
      ∃ moved, World.OnlyBalances execution.world moved ∧ traded.world.held = moved.held ∧
        ∃ newUnit, World.EditedUnit component (execution.world.held component) moved
          traded.world newUnit := by
  simp only [trade, bind_eq_ok, pure_eq_ok, Prod.exists, Prod.mk.injEq] at returned
  obtain ⟨_, _, _, _, _, valid, isBuy, size, sized, _, _, _, swapped, rfl, rfl⟩ := returned
  simp only [validateTradeParameters, bind_eq_ok, require_eq_ok,
    AddressArrayUtils.contains_eq_true, exists_const] at valid
  have different : module.weth ≠ component := fun same =>
    module.wethExcluded (same ▸ valid.1)
  refine ⟨rfl, ⟨_, sized⟩, ?_⟩
  cases isBuy with
  | true =>
    obtain ⟨moved, only, held, edits⟩ := swapAndUpdate_eq_ok different swapped
    exact ⟨moved, only, held, edits component (Or.inr rfl)⟩
  | false =>
    obtain ⟨moved, only, held, edits⟩ := swapAndUpdate_eq_ok different.symm swapped
    exact ⟨moved, only, held, edits component (Or.inl rfl)⟩

/-- A component whose unit is its target cannot be traded. -/
theorem trade_refused (read : module.targetAndUnit component execution.world =
    .ok (targetUnit, targetUnit)) (result : SingleIndexModule × Execution Ledger) :
    module.trade msgSender origin protocols encode component execution ≠ .ok result := by
  intro returned
  obtain ⟨_, ⟨⟨_, _⟩, sized⟩, _⟩ := trade_eq_ok returned
  exact (calculateTradeSizeAndDirection_eq_ok read sized).1 rfl

end Trade

/-! ### The unit after the trade -/

section After

variable {module : SingleIndexModule} {component : Address} {world moved next : World}
variable {targetUnit unit newUnit : Nat}

/-- The unit that is written is the target, unless nothing is left of the balance. -/
theorem newUnit_of_filled {before : Nat}
    (supplied : preciseUnit ≤ moved.setToken.totalSupply)
    (read : moved.setToken.defaultRealUnit component = unit)
    (edit : World.EditedUnit component before moved next newUnit)
    (distance : moved.held component +
        Rounding.mulFloor preciseUnit moved.setToken.totalSupply unit =
      before + Rounding.mulCeil preciseUnit moved.setToken.totalSupply targetUnit) :
    newUnit = if moved.held component = 0 then 0 else targetUnit := by
  split_ifs with none
  · exact edit.empty none
  · obtain ⟨same, restored, spread⟩ := edit.spread (Nat.pos_of_ne_zero none)
    obtain rfl : unit = same := by exact_mod_cast read.symm.trans restored
    obtain ⟨tracked, _, _, quotient⟩ := Position.calculateDefaultEditPositionUnit_eq_ok spread
    rw [Rounding.mulFloor_comm] at tracked quotient
    have kept : moved.held component -
        (before - Rounding.mulFloor preciseUnit moved.setToken.totalSupply unit) =
        Rounding.mulCeil preciseUnit moved.setToken.totalSupply targetUnit := by
      omega
    rw [kept, Rounding.mulCeil_quotient preciseUnit_pos supplied] at quotient
    exact quotient.symm

/-- What is read after an edit at the same multiplier. -/
theorem targetAndUnit_of_edit (positive : 0 < moved.setToken.positionMultiplier)
    (multiplier : moved.setToken.positionMultiplier = world.setToken.positionMultiplier)
    (read : module.targetAndUnit component world = .ok (targetUnit, unit))
    {before : Nat} (edit : World.EditedUnit component before moved next newUnit) :
    ∃ after : Nat, module.targetAndUnit component next = .ok (targetUnit, after) ∧
      next.setToken.defaultRealUnit component = after := by
  obtain ⟨current, same, target, _⟩ := targetAndUnit_eq_ok.mp read
  obtain ⟨after, restored⟩ := SetToken.read_of_converted positive edit.multiplier
    (Int.natCast_nonneg newUnit) edit.converted
  obtain ⟨_, stored⟩ := (SetToken.convertVirtualToRealUnit_eq_ok _ _).mp restored
  have nonneg : 0 ≤ after := by
    rw [← stored]
    change 0 ≤ next.setToken.defaultRealUnit component
    rw [edit.realUnit positive]
    exact Rounding.ediv_mul_ediv_nonneg preciseUnit_int_pos positive (Int.natCast_nonneg _)
  obtain ⟨natural, rfl⟩ := Int.eq_ofNat_of_zero_le nonneg
  refine ⟨natural, targetAndUnit_eq_ok.mpr ⟨current, ?_, target, ?_⟩, stored⟩
  · unfold currentPositionMultiplier
    rw [edit.multiplier, multiplier]
    exact same
  · simp only [currentUnit, bind_eq_ok, SafeCast.toUint256_eq_ok]
    exact ⟨_, restored, rfl⟩

end After

/-- The multiplier takes nothing off the target, and a balance is left behind a positive one. -/
structure TargetStored (world : World) (component : Address) (targetUnit unit : Nat) : Prop where
  divides : world.setToken.positionMultiplier ∣ (targetUnit : Int) * preciseUnit
  covered : targetUnit = 0 ∨
    world.held component +
        Rounding.mulCeil preciseUnit world.setToken.totalSupply targetUnit ≠
      Rounding.mulFloor preciseUnit world.setToken.totalSupply unit

/-- The component counts as met, and it cannot be traded while its position stays as it is. -/
structure TargetMet (Ledger : Type) (module : SingleIndexModule) (component : Address)
    (world : World) : Prop where
  met : module.CountsAsMet component world
  refused : ∀ (later : Execution Ledger) msgSender origin protocols encode result,
    SetToken.SamePositions world.setToken later.world.setToken →
      module.trade msgSender origin protocols encode component later ≠ .ok result

theorem targetMet_iff {Ledger : Type} {module : SingleIndexModule} {component : Address}
    {world : World} {targetUnit unit : Nat}
    (read : module.targetAndUnit component world = .ok (targetUnit, unit)) :
    TargetMet Ledger module component world ↔ unit = targetUnit := by
  refine ⟨fun met => (countsAsMet_iff read).mp met.met, fun same => ?_⟩
  refine ⟨(countsAsMet_iff read).mpr same, fun later _ _ _ _ result unchanged => ?_⟩
  subst same
  exact trade_refused ((targetAndUnit_congr unchanged).trans read) result

theorem targetAndUnit_recordTrade (module : SingleIndexModule) (component other : Address)
    (world traded : World) :
    (module.recordTrade component traded).targetAndUnit other world =
      module.targetAndUnit other world := by
  have target : ((module.recordTrade component traded).assetInfo other).targetUnit =
      (module.assetInfo other).targetUnit := by
    unfold recordTrade editAsset
    by_cases same : other = component
    · subst same
      simp only [Function.update_self]
    · simp only [Function.update_of_ne same]
  unfold targetAndUnit normalizeTargetUnit
  rw [target]
  rfl

/-- After a trade that fills the computed size of a component, and that its maximum does not
limit, the component counts as met and is refused a further trade exactly when its target is
stored as it is. -/
theorem target_met_iff {Ledger : Type} (module updated : SingleIndexModule)
    (msgSender origin : Address) (protocols : Protocols Ledger)
    (encode : ExchangeCall → Bytes) (component : Address)
    (execution traded : Execution Ledger) (targetUnit unit : Nat) (isBuy : Bool) (size : Nat)
    (supplied : 10 ^ 18 ≤ execution.world.setToken.totalSupply)
    (positive : 0 < execution.world.setToken.positionMultiplier)
    (read : module.targetAndUnit component execution.world = .ok (targetUnit, unit))
    (unlimited : module.NotLimited component execution.world.setToken.totalSupply targetUnit
      unit)
    (sized : module.calculateTradeSizeAndDirection component execution.world =
      .ok (isBuy, size))
    (returned : module.trade msgSender origin protocols encode component execution =
      .ok (updated, traded))
    (filled : FillsExactly isBuy size (execution.world.held component)
      (traded.world.held component)) :
    TargetMet Ledger updated component traded.world ↔
      TargetStored execution.world component targetUnit unit := by
  obtain ⟨rfl, _, moved, only, held, newUnit, edit⟩ := trade_eq_ok returned
  have multiplier := only.positionMultiplier
  have movedPositive : 0 < moved.setToken.positionMultiplier := multiplier ▸ positive
  obtain ⟨after, readAfter, stored⟩ :=
    targetAndUnit_of_edit movedPositive multiplier read edit
  rw [targetMet_iff ((targetAndUnit_recordTrade _ _ _ _ _).trans readAfter)]
  have distance := filled_distance read sized unlimited filled
  rw [held, ← only.totalSupply] at distance
  have unitBefore : moved.setToken.defaultRealUnit component = unit := by
    obtain ⟨_, _, _, current⟩ := targetAndUnit_eq_ok.mp read
    simp only [currentUnit, bind_eq_ok, SafeCast.toUint256_eq_ok,
      SetToken.getDefaultPositionRealUnit_eq_ok] at current
    obtain ⟨_, ⟨_, rfl⟩, current⟩ := current
    rw [only.defaultRealUnit]
    exact current
  have written := newUnit_of_filled (only.totalSupply ▸ supplied) unitBefore edit distance
  have back := edit.realUnit movedPositive
  rw [stored, multiplier, written] at back
  rw [only.totalSupply] at distance
  by_cases none : moved.held component = 0
  · -- Nothing is left of the balance, so no unit is written.
    rw [if_pos none, Nat.cast_zero, zero_mul, Int.zero_ediv, zero_mul, Int.zero_ediv] at back
    have zero : after = 0 := by exact_mod_cast back
    rw [zero]
    constructor
    · rintro rfl
      exact ⟨by simp, Or.inl rfl⟩
    · rintro ⟨_, zeroTarget | short⟩
      · exact zeroTarget.symm
      · exact absurd distance (by omega)
  · rw [if_neg none] at back
    have same : after = targetUnit ↔ (after : Int) = targetUnit := Nat.cast_inj.symm
    rw [same, back, Rounding.ediv_mul_ediv_eq_iff preciseUnit_int_pos positive]
    exact ⟨fun divides => ⟨divides, Or.inr (by omega)⟩, TargetStored.divides⟩

/-! ### A sample purchase -/

/-- A router that sells a quantity of component 8 to the Set for ten of token 3. -/
def sellingRouter (quantity : Nat) : Protocols Unit where
  execute := fun _ world ledger =>
    let paid := world.setHeld 3 (world.held 3 - 10)
    pure (0, paid.setHeld 8 (paid.held 8 + quantity), ledger)
  onlyBalances := fun _ world _ _ _ _ executed => by
    obtain rfl := (Prod.mk.inj (Prod.mk.inj (Except.ok.inj executed)).2).1
    exact (World.onlyBalances_setHeld _ _).trans (World.onlyBalances_setHeld _ _)
  borrowBalanceStored := fun _ _ _ => 0
  borrowBalanceCurrent := fun _ _ ledger => pure (0, ledger)

/-- A target of 55 for component 8, recorded at a multiplier of one, with wrapped ether at
address three. -/
def sampleIndex : SingleIndexModule where
  address := 4
  assetInfo := fun _ =>
    { targetUnit := 55, maxSize := 1000, coolOffPeriod := 0, lastTradeTimestamp := 0,
      exchange := .uniswap }
  rebalanceComponents := [8]
  positionMultiplier := 10 ^ 18
  tradeAllowList := fun _ => false
  anyoneTrade := true
  index := 2
  weth := 3
  uniswapRouter := 7
  sushiswapRouter := 6
  balancerProxy := 5
  wethExcluded := by decide

/-- A Set of supply one that holds wrapped ether alone, at a position multiplier. -/
def sampleIndexState (positionMultiplier : Int) : Execution Unit where
  world := {
    timestamp := 0
    controller := sampleController
    setToken :=
      { SetToken.construct 2 [3] [100] [4] 5 with
        totalSupply := 10 ^ 18
        moduleStates := fun _ => .initialized
        positionMultiplier := positionMultiplier }
    tokens := fun token =>
      { totalSupply := 0, balanceOf := fun _ => if token = 3 then 100 else 0,
        allowance := fun _ _ => 0 } }
  ledger := ()
  events := []

/-- At a multiplier of one, the target of 55 is met after 55 are bought. -/
theorem target_met_at_one :
    ∃ updated traded, sampleIndex.trade 5 5 (sellingRouter 55) (fun _ => []) 8
        (sampleIndexState (10 ^ 18)) = .ok (updated, traded) ∧
      TargetMet Unit updated 8 traded.world := by
  have succeeds : returns (sampleIndex.trade 5 5 (sellingRouter 55) (fun _ => []) 8
      (sampleIndexState (10 ^ 18))) (fun result => decide (result.2.world.held 8 = 55)) =
        true := by
    decide +kernel
  obtain ⟨⟨updated, traded⟩, returned, bought⟩ := exists_of_returns succeeds
  refine ⟨updated, traded, returned, ?_⟩
  refine (target_met_iff sampleIndex updated 5 5 (sellingRouter 55) (fun _ => []) 8
    (sampleIndexState (10 ^ 18)) traded 55 0 true 55 (by decide) (by decide) (by decide)
    ⟨by decide, by decide⟩ (by decide) returned ?_).mpr ⟨by decide, Or.inr (by decide)⟩
  rw [FillsExactly, if_pos rfl, of_decide_eq_true bought]
  decide

/-- Once fees have lowered the multiplier to nine tenths, the target of 55 is normalized to 49.
After all 49 are bought, a unit of 48 is read, and the component is still unmet. -/
theorem target_not_met :
    sampleIndex.targetAndUnit 8 (sampleIndexState (9 * 10 ^ 17)).world = .ok (49, 0) ∧
    sampleIndex.calculateTradeSizeAndDirection 8 (sampleIndexState (9 * 10 ^ 17)).world =
      .ok (true, 49) ∧
    sampleIndex.NotLimited 8 (10 ^ 18) 49 0 ∧
    ∃ updated traded, sampleIndex.trade 5 5 (sellingRouter 49) (fun _ => []) 8
        (sampleIndexState (9 * 10 ^ 17)) = .ok (updated, traded) ∧
      FillsExactly true 49 ((sampleIndexState (9 * 10 ^ 17)).world.held 8)
        (traded.world.held 8) ∧
      updated.targetAndUnit 8 traded.world = .ok (49, 48) ∧
      ¬TargetMet Unit updated 8 traded.world := by
  refine ⟨by decide, by decide, ⟨by decide, by decide⟩, ?_⟩
  have succeeds : returns (sampleIndex.trade 5 5 (sellingRouter 49) (fun _ => []) 8
      (sampleIndexState (9 * 10 ^ 17))) (fun result => decide (
        result.2.world.held 8 = 49 ∧
        result.1.targetAndUnit 8 result.2.world = .ok (49, 48))) = true := by
    decide +kernel
  obtain ⟨⟨updated, traded⟩, returned, read⟩ := exists_of_returns succeeds
  obtain ⟨bought, unit⟩ := of_decide_eq_true read
  refine ⟨updated, traded, returned, ?_, unit, ?_⟩
  · rw [FillsExactly, if_pos rfl, bought]
    decide
  · rw [targetMet_iff unit]
    decide

end SingleIndexModule

end IndexProtocol

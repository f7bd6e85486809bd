/-
This file goes through the modules that hold external positions: staking, the
leverage modules and the perpetual modules. Each of their calls edits positions
of the Set as the module itself, and apart from the hooks of the perpetual
modules it does so through the position library.
-/

import IndexProtocol.Modules.IssuanceHooks
import IndexProtocol.Protocol.ModuleMoves
import IndexProtocol.System.PerpBookkeeping
import IndexProtocol.System.SettledFunding

namespace IndexProtocol

open Revert PreciseUnitMath

/-! ### Staking -/

namespace StakingModule

variable {Ledger : Type} {module next : StakingModule} {protocols : Protocols Ledger}
  {adapters : StakingAdapters} {msgSender stakeContract component : Address}
  {adapterName : String} {units : Nat} {world edited : World} {before after : Execution Ledger}

theorem editPositions_edits {newUnit : Nat} {newExternalUnit : SetToken → Outcome Int}
    (returned : module.editPositions component newUnit newExternalUnit world = .ok edited) :
    World.EditsBy module.address world edited := by
  simp only [editPositions, bind_eq_ok] at returned
  obtain ⟨_, defaultEdit, _, _, externalEdit⟩ := returned
  exact (World.editDefaultPosition_edits defaultEdit).trans
    (World.editExternalPosition_edits externalEdit)

/-- What is recorded for a staking contract leaves the module where it is. -/
theorem recordStake_address
    (returned : module.recordStake stakeContract component adapterName units = .ok next) :
    next.address = module.address := by
  unfold recordStake at returned
  split at returned
  · simp only [bind_eq_ok, pure_eq_ok] at returned
    obtain ⟨_, _, rfl⟩ := returned
    rfl
  · exact (pure_eq_ok _ _).mp returned ▸ rfl

theorem recordUnstake_address
    (returned : module.recordUnstake stakeContract component units = .ok next) :
    next.address = module.address := by
  simp only [recordUnstake, bind_eq_ok] at returned
  obtain ⟨_, _, recorded⟩ := returned
  split at recorded
  · exact (pure_eq_ok _ _).mp recorded ▸ rfl
  · simp only [bind_eq_ok, pure_eq_ok] at recorded
    obtain ⟨_, _, rfl⟩ := recorded
    rfl

theorem stake_edits
    (returned : module.stake protocols adapters msgSender stakeContract component adapterName
      units before = .ok (next, after)) :
    World.EditsBy module.address before.world after.world := by
  simp only [stake, updateStakeState, bind_eq_ok, pure_eq_ok, Prod.exists, Prod.mk.injEq]
    at returned
  obtain ⟨_, _, _, _, _, _, _, _, _, _, staked, staking, _, _, ⟨_, recording, _, _, _, _, _, _,
    _, editing, rfl, rfl⟩, _, rfl⟩ := returned
  have edits := editPositions_edits editing
  rw [recordStake_address recording] at edits
  exact ((invokeStake_emits staking).edits _).trans edits

theorem unstake_edits
    (returned : module.unstake protocols adapters msgSender stakeContract component adapterName
      units before = .ok (next, after)) :
    World.EditsBy module.address before.world after.world := by
  simp only [unstake, updateUnstakeState, bind_eq_ok, pure_eq_ok, Prod.exists, Prod.mk.injEq]
    at returned
  obtain ⟨_, _, _, _, _, _, unstaked, unstaking, _, _, ⟨_, recording, _, _, _, _, _, _, _,
    editing, rfl, rfl⟩, _, rfl⟩ := returned
  have edits := editPositions_edits editing
  rw [recordUnstake_address recording] at edits
  exact ((invokeUnstake_emits unstaking).edits _).trans edits

end StakingModule

/-! ### Leverage -/

namespace LeverageHooks

variable {module token : Address} {supply balance : Nat} {world next : World}

theorem syncCollateral_edits (returned : syncCollateral module supply world token = .ok next) :
    World.EditsBy module world next := by
  simp only [syncCollateral, bind_eq_ok] at returned
  obtain ⟨_, _, _, _, _, _, synced⟩ := returned
  split at synced
  · exact World.editDefaultPosition_edits synced
  · exact (pure_eq_ok _ _).mp synced ▸ World.Moves.refl _ _

theorem syncBorrow_edits (returned : syncBorrow module token balance supply world = .ok next) :
    World.EditsBy module world next := by
  simp only [syncBorrow, bind_eq_ok] at returned
  obtain ⟨_, _, _, _, synced⟩ := returned
  split at synced
  · exact World.editExternalPosition_edits synced
  · exact (pure_eq_ok _ _).mp synced ▸ World.Moves.refl _ _

end LeverageHooks

theorem AaveLeverageModule.sync_edits {module : AaveLeverageModule} {world next : World}
    (returned : module.sync world = .ok next) : World.EditsBy module.address world next := by
  simp only [sync, bind_eq_ok] at returned
  obtain ⟨_, _, synced⟩ := returned
  split at synced
  · simp only [bind_eq_ok] at synced
    obtain ⟨_, collateral, borrows⟩ := synced
    exact (World.foldlM_moves (fun _ _ _ => LeverageHooks.syncCollateral_edits) collateral).trans
      (World.foldlM_moves (fun _ _ _ => LeverageHooks.syncBorrow_edits) borrows)
  · exact (pure_eq_ok _ _).mp synced ▸ World.Moves.refl _ _

namespace CompoundLeverageModule

variable {Ledger : Type} {module : CompoundLeverageModule} {protocols : Protocols Ledger}
  {accrue : Bool} {before after : Execution Ledger}

/-- Reading a borrow balance changes nothing of the world. -/
theorem borrowBalance_world {cToken : Address} {balance : Nat}
    (returned : borrowBalance protocols accrue cToken before = .ok (balance, after)) :
    after.world = before.world := by
  unfold borrowBalance at returned
  split at returned
  · simp only [bind_eq_ok, pure_eq_ok, Prod.exists, Prod.mk.injEq] at returned
    obtain ⟨_, _, _, _, rfl⟩ := returned
    rfl
  · rw [pure_eq_ok, Prod.mk.injEq] at returned
    rw [returned.2]

theorem syncBorrow_edits {supply : Nat} {borrow : Address × Address}
    (returned : module.syncBorrow protocols supply accrue before borrow = .ok after) :
    World.EditsBy module.address before.world after.world := by
  simp only [syncBorrow, bind_eq_ok, Prod.exists] at returned
  obtain ⟨_, accrued, reading, syncing⟩ := returned
  have edits := Execution.onWorld_moves (fun _ => LeverageHooks.syncBorrow_edits) syncing
  rwa [borrowBalance_world reading] at edits

theorem sync_edits (returned : module.sync protocols accrue before = .ok after) :
    World.EditsBy module.address before.world after.world := by
  simp only [sync, bind_eq_ok] at returned
  obtain ⟨_, _, synced⟩ := returned
  split at synced
  · simp only [bind_eq_ok] at synced
    obtain ⟨_, collateral, borrows⟩ := synced
    exact (Execution.onWorld_moves (fun _ => World.foldlM_moves fun _ _ _ =>
      LeverageHooks.syncCollateral_edits) collateral).trans
        (Execution.foldlM_moves (fun _ _ _ => syncBorrow_edits) borrows)
  · exact (pure_eq_ok _ _).mp synced ▸ World.Moves.refl _ _

end CompoundLeverageModule

namespace HookModule

variable {Ledger : Type} {protocols : Protocols Ledger} {msgSender : Address} {isIssue : Bool}
  {hook : HookModule} {before after : Execution Ledger}

/-- The hook before an issuance or a redemption edits positions as the module that is called. -/
theorem moduleHook_edits
    (returned : moduleHook protocols msgSender isIssue before hook = .ok after) :
    World.EditsBy hook.address before.world after.world := by
  cases hook with
  | compound module =>
    cases isIssue with
    | true =>
      simp only [moduleHook, if_true, CompoundLeverageModule.moduleIssueHook, bind_eq_ok]
        at returned
      obtain ⟨_, _, synced⟩ := returned
      exact CompoundLeverageModule.sync_edits synced
    | false =>
      simp only [moduleHook, Bool.false_eq_true, if_false,
        CompoundLeverageModule.moduleRedeemHook, bind_eq_ok] at returned
      obtain ⟨_, _, synced⟩ := returned
      exact CompoundLeverageModule.sync_edits synced
  | aave module =>
    have synced : module.moduleHook msgSender before = .ok after := by
      cases isIssue
      · exact returned
      · exact returned
    simp only [AaveLeverageModule.moduleHook, bind_eq_ok] at synced
    obtain ⟨_, _, syncing⟩ := synced
    exact Execution.onWorld_moves (fun _ => AaveLeverageModule.sync_edits) syncing
  | staking module => exact (pure_eq_ok _ _).mp returned ▸ World.Moves.refl _ _

end HookModule

/-! ### Perpetuals -/

namespace World

variable {module : Address} {world next : World}

theorem EditsBy.ownEdits (edits : EditsBy module world next) :
    Moves (SetTokenMove.OwnEdits {module}) world next :=
  edits.mono fun _ edit => ⟨edit.1.1, edit.2⟩

/-- An external unit that a module writes as its own. -/
theorem editExternalPositionUnit_ownEdits {controller : Controller} {component : Address}
    {unit : Int}
    (returned : world.callSetToken
      (SetToken.editExternalPositionUnit ⟨controller, module⟩ component module unit) =
        .ok next) : Moves (SetTokenMove.OwnEdits {module}) world next := by
  obtain ⟨called, stored⟩ := callSetToken_eq_ok returned
  refine ⟨by rw [stored], by rw [stored], ?_⟩
  exact Reaches.single
    (.editExternalPositionUnit ⟨controller, module⟩ component module unit)
    ⟨⟨rfl, rfl⟩, trivial⟩ called

end World

namespace PerpV2LeverageModuleV2

variable {Ledger : Type} {perp : PerpV2 Ledger} {msgSender : Address}
  {module next : PerpV2LeverageModuleV2} {before after : PerpExecution Ledger}

theorem updatePositions_edits {balance : Nat}
    (returned : module.updatePositions perp balance before = .ok after) :
    World.EditsBy module.address before.world after.world := by
  simp only [updatePositions, updateExternalPositionUnit, bind_eq_ok] at returned
  obtain ⟨_, editing, _, _, _, _, _, _, _, _, storing⟩ := returned
  obtain ⟨edited, _⟩ := PerpExecution.onWorld_eq_ok editing
  simp only [bind_eq_ok, Prod.exists, pure_eq_ok] at edited
  obtain ⟨_, _, _, _, calculated, rfl⟩ := edited
  obtain ⟨stored, _⟩ := PerpExecution.onWorld_eq_ok storing
  exact (World.calculateAndEditDefaultPosition_edits calculated).trans
    (World.editExternalPosition_edits stored)

theorem deposit_edits {units : Nat}
    (returned : module.deposit perp msgSender units before = .ok after) :
    World.EditsBy module.address before.world after.world := by
  simp only [deposit, depositAndUpdatePositions, bind_eq_ok] at returned
  obtain ⟨_, _, _, _, _, _, _, _, _, _, _, _, _, depositing, updating⟩ := returned
  exact ((depositCollateral_onlyBalances depositing).edits _).trans
    (updatePositions_edits updating)

theorem withdraw_edits {units : Nat}
    (returned : module.withdraw perp msgSender units before = .ok after) :
    World.EditsBy module.address before.world after.world := by
  simp only [withdraw, withdrawAndUpdatePositions, bind_eq_ok] at returned
  obtain ⟨_, _, _, _, _, _, _, withdrawing, updating⟩ := returned
  exact ((withdrawCollateral_onlyBalances withdrawing).edits _).trans
    (updatePositions_edits updating)

theorem storePositionUnit_ownEdits {unit : Int}
    (returned : module.storePositionUnit unit before = .ok after) :
    World.Moves (SetTokenMove.OwnEdits {module.address}) before.world after.world :=
  World.editExternalPositionUnit_ownEdits (PerpExecution.onWorld_eq_ok returned).1

theorem moduleHook_ownEdits {quantity : Nat} {isIssue : Bool}
    (returned : module.moduleHook perp msgSender quantity isIssue before = .ok (next, after)) :
    World.Moves (SetTokenMove.OwnEdits {module.address}) before.world after.world := by
  rcases moduleHook_eq_ok returned with ⟨_, _, rfl⟩ | ⟨_, _, _, executed, storing⟩
  · exact World.Moves.refl _ _
  · obtain ⟨only, _, rfl⟩ := executePositionTrades_onlyBalances executed
    exact (only.edits module.address).ownEdits.trans (storePositionUnit_ownEdits storing)

/-- The calls other than the hooks before an order. -/
def EntryPoint.EditsThroughLibrary : EntryPoint → Prop
  | .moduleIssueHook _ => False
  | .moduleRedeemHook _ => False
  | _ => True

theorem call_edits {entryPoint : EntryPoint} (library : entryPoint.EditsThroughLibrary)
    (returned : entryPoint.call perp msgSender before module = .ok (next, after)) :
    World.EditsBy module.address before.world after.world := by
  cases entryPoint with
  | trade baseToken units bound => exact (trade_onlyBalances returned).edits _
  | deposit units => exact deposit_edits (keepingModule_eq_ok returned).2
  | withdraw units => exact withdraw_edits (keepingModule_eq_ok returned).2
  | moduleIssueHook quantity => exact library.elim
  | moduleRedeemHook quantity => exact library.elim
  | componentIssueHook quantity component isEquity =>
    exact (componentHook_onlyBalances (Or.inl (keepingModule_eq_ok returned).2)).edits _
  | componentRedeemHook quantity component isEquity =>
    exact (componentHook_onlyBalances (Or.inr (keepingModule_eq_ok returned).2)).edits _
  | getIssuanceAdjustments quantity | getRedemptionAdjustments quantity =>
    simp only [EntryPoint.call, bind_eq_ok, Prod.exists, pure_eq_ok, Prod.mk.injEq] at returned
    obtain ⟨_, _, _, _, adjusted, _, rfl⟩ := returned
    exact (getAdjustments_eq_ok adjusted).1 ▸ World.Moves.refl _ _
  | removeModule =>
    simp only [EntryPoint.call, bind_eq_ok, pure_eq_ok, Prod.mk.injEq] at returned
    obtain ⟨_, _, _, rfl⟩ := returned
    exact World.Moves.refl _ _

theorem call_ownEdits {entryPoint : EntryPoint}
    (returned : entryPoint.call perp msgSender before module = .ok (next, after)) :
    World.Moves (SetTokenMove.OwnEdits {module.address}) before.world after.world := by
  by_cases library : entryPoint.EditsThroughLibrary
  · exact (call_edits library returned).ownEdits
  · cases entryPoint with
    | moduleIssueHook quantity => exact moduleHook_ownEdits returned
    | moduleRedeemHook quantity => exact moduleHook_ownEdits returned
    | _ => exact absurd trivial library

end PerpV2LeverageModuleV2

namespace PerpV2BasisTradingModule

open PerpV2LeverageModuleV2

variable {Ledger : Type} {perp : PerpV2 Ledger} {msgSender : Address}
  {module next : PerpV2BasisTradingModule} {before after : PerpExecution Ledger}

theorem handleFees_onlyBalances {amount : Nat}
    (returned : module.handleFees amount before = .ok after) :
    World.OnlyBalances before.world after.world := by
  unfold handleFees at returned
  dsimp only at returned
  split at returned
  · simp only [bind_eq_ok] at returned
    obtain ⟨_, _, _, _, _, _, managerPaid, transferring, paying⟩ := returned
    have managed := World.strictInvokeTransfer_eq_ok
      (PerpExecution.onWorld_eq_ok transferring).1
    have shared := ModuleBase.payProtocolFeeFromSetToken_eq_ok
      (PerpExecution.onWorld_eq_ok paying).1
    exact managed.1.trans shared.1
  · exact (pure_eq_ok _ _).mp returned ▸ World.OnlyBalances.refl _

theorem withdraw_edits {units : Nat}
    (returned : module.withdraw perp msgSender units before = .ok (next, after)) :
    World.EditsBy module.address before.world after.world := by
  simp only [withdraw, withdrawAndUpdatePositions, bind_eq_ok, pure_eq_ok, Prod.mk.injEq]
    at returned
  obtain ⟨_, _, _, _, tracked, tracking, _, ⟨_, _, withdrawn, withdrawing, updating⟩, _, rfl⟩ :=
    returned
  have address : tracked.address = module.address := by
    rw [updateSettledFunding_eq_ok tracking]
  have edits := ((withdrawCollateral_onlyBalances withdrawing).edits tracked.address).trans
    (updatePositions_edits updating)
  rwa [address] at edits

theorem withdrawFunding_onlyBalances {amount : Nat}
    (returned : module.withdrawFunding perp amount before = .ok after) :
    World.OnlyBalances before.world after.world := by
  simp only [withdrawFunding, bind_eq_ok, pure_eq_ok] at returned
  obtain ⟨withdrawn, withdrawing, rfl⟩ := returned
  have only : World.OnlyBalances before.world withdrawn.world :=
    withdrawCollateral_onlyBalances withdrawing
  exact only

theorem withdrawFundingAndAccrueFees_edits {notionalFunding : Nat}
    (returned : module.withdrawFundingAndAccrueFees perp msgSender notionalFunding before =
      .ok (next, after)) : World.EditsBy module.address before.world after.world := by
  simp only [withdrawFundingAndAccrueFees, bind_eq_ok] at returned
  obtain ⟨_, _, called⟩ := returned
  split at called
  · rw [pure_eq_ok, Prod.mk.injEq] at called
    exact called.2 ▸ World.Moves.refl _ _
  · simp only [updateWithdrawFundingState, bind_eq_ok, pure_eq_ok, Prod.mk.injEq] at called
    obtain ⟨tracked, tracking, _, _, _, withdrawing, _, charging, _, updating, _, _, _, _, _,
      rfl⟩ := called
    have address : tracked.address = module.address := by
      rw [updateSettledFunding_eq_ok tracking]
    have moved := (withdrawFunding_onlyBalances withdrawing).trans
      (handleFees_onlyBalances charging)
    have edits := (moved.edits tracked.address).trans (updatePositions_edits updating)
    rwa [address] at edits

theorem moduleIssueHook_ownEdits {quantity : Nat}
    (returned : module.moduleIssueHook perp msgSender quantity before = .ok (next, after)) :
    World.Moves (SetTokenMove.OwnEdits {module.address}) before.world after.world := by
  simp only [moduleIssueHook, bind_eq_ok] at returned
  obtain ⟨_, _, tracked, tracking, hooking⟩ := returned
  obtain ⟨_, hooked, _⟩ := inherited_eq_ok hooking
  have edits := moduleHook_ownEdits hooked
  rwa [updateSettledFunding_eq_ok tracking] at edits

theorem moduleRedeemHook_ownEdits {quantity : Nat}
    (returned : module.moduleRedeemHook perp msgSender quantity before = .ok (next, after)) :
    World.Moves (SetTokenMove.OwnEdits {module.address}) before.world after.world := by
  simp only [moduleRedeemHook, bind_eq_ok] at returned
  obtain ⟨_, _, hooked⟩ := returned
  split at hooked
  · simp only [bind_eq_ok, Prod.exists, pure_eq_ok, Prod.mk.injEq] at hooked
    obtain ⟨tracked, tracking, _, synced, _, executed, _, _, _, storing, _, rfl⟩ := hooked
    obtain ⟨only, _, rfl⟩ := executePositionTrades_onlyBalances executed
    have edits := (only.edits tracked.address).ownEdits.trans (storePositionUnit_ownEdits storing)
    rwa [updateSettledFunding_eq_ok tracking] at edits
  · rw [pure_eq_ok, Prod.mk.injEq] at hooked
    exact hooked.2 ▸ World.Moves.refl _ _

/-- The calls other than the hooks before an order. -/
def EntryPoint.EditsThroughLibrary : EntryPoint → Prop
  | .moduleIssueHook _ => False
  | .moduleRedeemHook _ => False
  | _ => True

theorem call_edits {entryPoint : EntryPoint} (library : entryPoint.EditsThroughLibrary)
    (returned : entryPoint.call perp msgSender before module = .ok (next, after)) :
    World.EditsBy module.address before.world after.world := by
  cases entryPoint with
  | trade baseToken units bound =>
    obtain ⟨_, traded, _⟩ := inherited_eq_ok returned
    exact (trade_onlyBalances traded).edits _
  | tradeAndTrackFunding baseToken units bound =>
    simp only [EntryPoint.call, tradeAndTrackFunding, bind_eq_ok] at returned
    obtain ⟨_, _, _, _, trading⟩ := returned
    obtain ⟨_, traded, _⟩ := inherited_eq_ok trading
    exact (trade_onlyBalances traded).edits _
  | deposit units =>
    obtain ⟨_, called, _⟩ := inherited_eq_ok returned
    exact deposit_edits (keepingModule_eq_ok called).2
  | withdraw units => exact withdraw_edits returned
  | withdrawFundingAndAccrueFees notionalFunding =>
    exact withdrawFundingAndAccrueFees_edits returned
  | moduleIssueHook quantity => exact library.elim
  | moduleRedeemHook quantity => exact library.elim
  | componentIssueHook quantity component isEquity =>
    obtain ⟨_, called, _⟩ := inherited_eq_ok returned
    exact (componentHook_onlyBalances (Or.inl (keepingModule_eq_ok called).2)).edits _
  | componentRedeemHook quantity component isEquity =>
    obtain ⟨_, called, _⟩ := inherited_eq_ok returned
    exact (componentHook_onlyBalances (Or.inr (keepingModule_eq_ok called).2)).edits _
  | getIssuanceAdjustments quantity =>
    simp only [EntryPoint.call, bind_eq_ok, Prod.exists, pure_eq_ok, Prod.mk.injEq] at returned
    obtain ⟨_, _, _, _, adjusted, _, rfl⟩ := returned
    exact (getAdjustments_eq_ok adjusted).1 ▸ World.Moves.refl _ _
  | getRedemptionAdjustments quantity =>
    simp only [EntryPoint.call, bind_eq_ok, Prod.exists, pure_eq_ok, Prod.mk.injEq] at returned
    obtain ⟨_, _, _, _, adjusted, _, rfl⟩ := returned
    exact (getRedemptionAdjustments_same adjusted).1 ▸ World.Moves.refl _ _
  | updatePerformanceFee newFee | updateFeeRecipient newFeeRecipient =>
    simp only [EntryPoint.call, bind_eq_ok, pure_eq_ok, Prod.mk.injEq] at returned
    obtain ⟨_, _, _, rfl⟩ := returned
    exact World.Moves.refl _ _

theorem call_ownEdits {entryPoint : EntryPoint}
    (returned : entryPoint.call perp msgSender before module = .ok (next, after)) :
    World.Moves (SetTokenMove.OwnEdits {module.address}) before.world after.world := by
  by_cases library : entryPoint.EditsThroughLibrary
  · exact (call_edits library returned).ownEdits
  · cases entryPoint with
    | moduleIssueHook quantity => exact moduleIssueHook_ownEdits returned
    | moduleRedeemHook quantity => exact moduleRedeemHook_ownEdits returned
    | _ => exact absurd trivial library

end PerpV2BasisTradingModule

end IndexProtocol

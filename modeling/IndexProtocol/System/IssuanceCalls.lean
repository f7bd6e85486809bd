/-
This file goes through the modules that mint and burn the Set, and through the
calls that lock and unlock it. Each of them is made up of calls of the Set by
the module itself, of changes of balances, and of the hooks it calls; the hook
of the manager is left to its contract, and the hooks of other modules edit
positions as those modules.
-/

import IndexProtocol.Modules.AuctionRebalanceModuleV1
import IndexProtocol.Modules.BasicIssuanceModule
import IndexProtocol.Modules.StreamingFeeModule
import IndexProtocol.System.Collateralization
import IndexProtocol.System.NavBacking
import IndexProtocol.System.PositionCalls
import IndexProtocol.System.TradingCalls

namespace IndexProtocol

open Revert PreciseUnitMath

/-! ### Issuance against positions -/

namespace BasicIssuanceModule

variable {module : BasicIssuanceModule} {msgSender recipient : Address}
  {quantity : Nat} {world after : World}

theorem completeIssue_moves
    (returned : module.completeIssue msgSender quantity recipient world = .ok after) :
    World.MovesBy module.address world after := by
  simp only [completeIssue, bind_eq_ok, Prod.exists] at returned
  obtain ⟨_, _, _, collected, collecting, minting⟩ := returned
  have charged : World.EditsBy module.address world collected :=
    World.foldlM_moves (fun _ _ _ transferring =>
      (World.explicitTransferFrom_onlyBalances transferring).edits module.address) collecting
  exact charged.moves.trans (World.mint_moves minting)

theorem redeem_moves
    (returned : module.redeem msgSender quantity recipient world = .ok after) :
    World.MovesBy module.address world after := by
  simp only [redeem, bind_eq_ok] at returned
  obtain ⟨_, _, _, _, burned, burning, releasing⟩ := returned
  have paid : World.EditsBy module.address burned after :=
    World.foldlM_moves (fun _ _ _ released =>
      (release_eq_ok released).1.edits module.address) releasing
  exact (World.burn_moves burning).trans paid.moves

end BasicIssuanceModule

/-! ### Streaming fees -/

namespace StreamingFeeModule

variable {module next : StreamingFeeModule} {msgSender : Address} {newFee : Nat}
  {world after : World}

theorem inflate_moves (returned : module.inflate world = .ok after) :
    World.MovesBy module.address world after := by
  unfold inflate at returned
  split at returned
  · simp only [mintManagerAndProtocolFee, mintProtocolFee, editPositionMultiplier, bind_eq_ok,
      pure_eq_ok, Prod.exists, Prod.mk.injEq] at returned
    obtain ⟨_, _, _, _, _, _, _, ⟨_, _, _, _, minted, minting, shared, sharing, rfl, _⟩, _, _,
      _, _, _, _, editing⟩ := returned
    have paid : World.MovesBy module.address minted shared := by
      split at sharing
      · exact World.mint_moves sharing
      · exact (pure_eq_ok _ _).mp sharing ▸ World.Moves.refl _ _
    exact ((World.mint_moves minting).trans paid).trans
      (World.editPositionMultiplier_moves editing)
  · exact (pure_eq_ok _ _).mp returned ▸ World.Moves.refl _ _

theorem accrueFee_moves (returned : module.accrueFee world = .ok (next, after)) :
    World.MovesBy module.address world after :=
  inflate_moves (accrueFee_eq_ok returned).2.2

theorem updateStreamingFee_moves
    (returned : module.updateStreamingFee msgSender newFee world = .ok (next, after)) :
    World.MovesBy module.address world after :=
  inflate_moves (updateStreamingFee_eq_ok returned).2.2

end StreamingFeeModule

/-! ### Issuance at the net asset value -/

namespace CustomOracleNAVIssuanceModule

variable {module : CustomOracleNAVIssuanceModule} {contracts : NAVContracts}
  {msgSender reserveAsset recipient : Address} {info : ActionInfo} {world next : World}

theorem payFee_onlyBalances {fee : Nat} {pay : Nat → World → Outcome World}
    (only : ∀ paid, pay fee world = .ok paid → World.OnlyBalances world paid)
    (returned : payFee fee pay world = .ok next) : World.OnlyBalances world next := by
  rcases payFee_cases returned with paying | ⟨_, rfl⟩
  · exact only next paying
  · exact World.OnlyBalances.refl _

theorem transferCollateralAndHandleFees_onlyBalances
    (returned : module.transferCollateralAndHandleFees msgSender reserveAsset info world =
      .ok next) : World.OnlyBalances world next := by
  simp only [transferCollateralAndHandleFees, bind_eq_ok] at returned
  obtain ⟨_, collecting, _, protocolPaying, managerPaying⟩ := returned
  have collected := World.explicitTransferFrom_onlyBalances collecting
  have protocolPaid := payFee_onlyBalances
    (fun _ => World.explicitTransferFrom_onlyBalances) protocolPaying
  exact (collected.trans protocolPaid).trans
    (payFee_onlyBalances (fun _ => World.explicitTransferFrom_onlyBalances) managerPaying)

theorem transferWETH_onlyBalances {quantity : Nat}
    (returned : module.transferWETH recipient quantity world = .ok next) :
    World.OnlyBalances world next :=
  World.callToken_move_onlyBalances returned

theorem transferWETHAndHandleFees_onlyBalances
    (returned : module.transferWETHAndHandleFees info world = .ok next) :
    World.OnlyBalances world next := by
  simp only [transferWETHAndHandleFees, bind_eq_ok] at returned
  obtain ⟨_, collecting, _, protocolPaying, managerPaying⟩ := returned
  have protocolPaid := payFee_onlyBalances (fun _ => transferWETH_onlyBalances) protocolPaying
  exact ((transferWETH_onlyBalances collecting).trans protocolPaid).trans
    (payFee_onlyBalances (fun _ => transferWETH_onlyBalances) managerPaying)

theorem handleRedemptionFees_onlyBalances
    (returned : module.handleRedemptionFees reserveAsset info world = .ok next) :
    World.OnlyBalances world next := by
  simp only [handleRedemptionFees, bind_eq_ok] at returned
  obtain ⟨_, protocolPaying, managerPaying⟩ := returned
  exact (ModuleBase.payProtocolFeeFromSetToken_eq_ok protocolPaying).1.trans
    (payFee_onlyBalances (fun _ paying => (World.strictInvokeTransfer_eq_ok paying).1)
      managerPaying)

theorem writeReservePosition_moves
    (returned : module.writeReservePosition reserveAsset info world = .ok next) :
    World.MovesBy module.address world next := by
  simp only [writeReservePosition, bind_eq_ok] at returned
  obtain ⟨_, rescaling, editing⟩ := returned
  exact (World.editPositionMultiplier_moves rescaling).trans
    (World.editDefaultPosition_edits editing).moves

theorem handleIssueStateUpdates_moves
    (returned : module.handleIssueStateUpdates reserveAsset recipient info world = .ok next) :
    World.MovesBy module.address world next := by
  simp only [handleIssueStateUpdates, bind_eq_ok] at returned
  obtain ⟨_, writing, minting⟩ := returned
  exact (writeReservePosition_moves writing).trans (World.mint_moves minting)

/-- The hook of one of the manager's two kinds changed the world, or there is none. -/
def RunsHook (module : CustomOracleNAVIssuanceModule) (contracts : NAVContracts)
    (msgSender : Address) (world hooked : World) : Prop :=
  (∃ reserveAsset quantity recipient,
    module.callPreIssueHooks contracts reserveAsset quantity msgSender recipient world =
      .ok hooked) ∨
  ∃ quantity recipient,
    module.callPreRedeemHooks contracts quantity msgSender recipient world = .ok hooked

/-- A call changes balances, runs the hook of the manager, and makes moves of the module. -/
structure CallsBy (module : CustomOracleNAVIssuanceModule) (contracts : NAVContracts)
    (msgSender : Address) (world start hooked next : World) : Prop where
  started : module.weth ≠ world.setToken.address → World.OnlyBalances world start
  runs : module.RunsHook contracts msgSender start hooked
  completes : module.weth ≠ hooked.setToken.address → World.MovesBy module.address hooked next

theorem prepareRedeem_eq_moves {setTokenQuantity minReserveReceiveQuantity : Nat}
    (returned : module.prepareRedeem contracts msgSender reserveAsset setTokenQuantity
      minReserveReceiveQuantity recipient world = .ok (info, next)) :
    ∃ hooked, module.RunsHook contracts msgSender world hooked ∧
      World.MovesBy module.address hooked next ∧
      next.setToken.address = hooked.setToken.address := by
  simp only [prepareRedeem, bind_eq_ok, pure_eq_ok, Prod.mk.injEq] at returned
  obtain ⟨_, _, _, _, hooked, hooking, _, _, _, _, _, burning, _, rfl⟩ := returned
  obtain ⟨called, _⟩ := World.callSetToken_eq_ok burning
  obtain ⟨_, _, written⟩ := SetToken.burn_eq_ok called
  exact ⟨hooked, Or.inr ⟨_, _, hooking⟩, World.burn_moves burning, by rw [written]⟩

theorem NAVCall.apply_callsBy {call : NAVCall}
    (returned : call.apply module contracts msgSender world = .ok next) :
    ∃ start hooked, module.CallsBy contracts msgSender world start hooked next := by
  cases call with
  | issue reserveAsset quantity least recipient =>
    simp only [apply, CustomOracleNAVIssuanceModule.issue, bind_eq_ok] at returned
    obtain ⟨_, _, _, _, hooked, hooking, _, _, _, _, _, paying, updating⟩ := returned
    have paid := (transferCollateralAndHandleFees_onlyBalances paying).edits module.address
    exact ⟨world, hooked, fun _ => World.OnlyBalances.refl _, Or.inl ⟨_, _, _, hooking⟩,
      fun _ => paid.moves.trans (handleIssueStateUpdates_moves updating)⟩
  | issueWithEther msgValue least recipient =>
    simp only [apply, CustomOracleNAVIssuanceModule.issueWithEther, bind_eq_ok] at returned
    obtain ⟨_, _, wrapped, wrapping, _, _, hooked, hooking, _, _, _, _, _, paying,
      updating⟩ := returned
    have paid := (transferWETHAndHandleFees_onlyBalances paying).edits module.address
    exact ⟨wrapped, hooked, fun apart => World.callToken_onlyBalances_of_ne apart wrapping,
      Or.inl ⟨_, _, _, hooking⟩, fun _ => paid.moves.trans (handleIssueStateUpdates_moves updating)⟩
  | redeem reserveAsset quantity least recipient =>
    simp only [apply, CustomOracleNAVIssuanceModule.redeem, bind_eq_ok, Prod.exists] at returned
    obtain ⟨_, burned, preparing, sent, sending, paid, paying, updating⟩ := returned
    obtain ⟨hooked, hooking, burns, _⟩ := prepareRedeem_eq_moves preparing
    have moved := (World.strictInvokeTransfer_eq_ok sending).1.trans
      (handleRedemptionFees_onlyBalances paying)
    exact ⟨world, hooked, fun _ => World.OnlyBalances.refl _, hooking, fun _ =>
      (burns.trans (moved.edits module.address).moves).trans
        (writeReservePosition_moves updating)⟩
  | redeemIntoEther quantity least recipient =>
    simp only [apply, CustomOracleNAVIssuanceModule.redeemIntoEther, bind_eq_ok, Prod.exists]
      at returned
    obtain ⟨_, burned, preparing, sent, sending, unwrapped, unwrapping, paid, paying,
      updating⟩ := returned
    obtain ⟨hooked, hooking, burns, same⟩ := prepareRedeem_eq_moves preparing
    have left := (World.strictInvokeTransfer_eq_ok sending).1
    refine ⟨world, hooked, fun _ => World.OnlyBalances.refl _, hooking, fun apart => ?_⟩
    have elsewhere : module.weth ≠ sent.setToken.address := by
      rwa [left.address, same]
    have moved := (left.trans (World.callToken_onlyBalances_of_ne elsewhere unwrapping)).trans
      (handleRedemptionFees_onlyBalances paying)
    exact (burns.trans (moved.edits module.address).moves).trans
      (writeReservePosition_moves updating)

end CustomOracleNAVIssuanceModule

/-! ### Issuance with debt -/

namespace Deployment

variable {Ledger : Type} {deployment : Deployment Ledger} {msgSender module : Address}
  {isIssue : Bool} {before after : Execution Ledger}

theorem callModuleHook_edits
    (returned : deployment.callModuleHook msgSender isIssue before module = .ok after) :
    World.EditsBy module before.world after.world := by
  unfold callModuleHook at returned
  split at returned
  · rename_i hook found
    rw [← deployment.hookModule_address module hook found]
    exact HookModule.moduleHook_edits returned
  · exact absurd returned (by simp)

end Deployment

namespace DebtIssuanceModule

variable {Ledger : Type} {module : DebtIssuanceModule} {deployment : Deployment Ledger}
  {msgSender recipient : Address} {quantity managerFee protocolFee : Nat}
  {before after : Execution Ledger}

theorem mint_moves (returned : module.mint recipient quantity before = .ok after) :
    World.MovesBy module.address before.world after.world := by
  obtain ⟨minted, minting, rfl⟩ := Execution.carryOut_eq_ok.mp returned
  exact World.mint_moves (Execution.onWorld_eq_ok minting).1

theorem resolveFees_moves
    (returned : module.resolveFees managerFee protocolFee before = .ok after) :
    World.MovesBy module.address before.world after.world := by
  unfold resolveFees at returned
  split at returned
  · rw [bind_eq_ok] at returned
    obtain ⟨minted, minting, sharing⟩ := returned
    have paid := mint_moves minting
    split at sharing
    · exact paid.trans (mint_moves sharing)
    · exact (pure_eq_ok _ _).mp sharing ▸ paid
  · exact (pure_eq_ok _ _).mp returned ▸ World.Moves.refl _ _

theorem completeIssue_moves
    (returned : module.completeIssue deployment msgSender quantity recipient before =
      .ok after) : World.MovesBy module.address before.world after.world := by
  simp only [completeIssue, bind_eq_ok] at returned
  obtain ⟨_, _, _, _, collected, collecting, resolved, resolving, paid, paying, minting⟩ :=
    returned
  have moved := (resolvePass_onlyBalances (exactMovement_onlyBalances _ _) collecting).trans
    (resolvePass_onlyBalances (exactMovement_onlyBalances _ _) resolving)
  exact ((moved.edits module.address).moves.trans (resolveFees_moves paying)).trans
    (mint_moves minting)

theorem completeRedeem_moves
    (returned : module.completeRedeem deployment msgSender quantity recipient before =
      .ok after) : World.MovesBy module.address before.world after.world := by
  simp only [completeRedeem, bind_eq_ok] at returned
  obtain ⟨burned, burning, _, _, _, _, collected, collecting, resolved, resolving, paying⟩ :=
    returned
  have burns := World.burn_moves (Execution.onWorld_eq_ok burning).1
  have moved := (resolvePass_onlyBalances (exactMovement_onlyBalances _ _) collecting).trans
    (resolvePass_onlyBalances (exactMovement_onlyBalances _ _) resolving)
  exact (burns.trans (moved.edits module.address).moves).trans (resolveFees_moves paying)

end DebtIssuanceModule

namespace DebtIssuanceModuleV2

open DebtIssuanceModule

variable {Ledger : Type} {module : DebtIssuanceModule} {deployment : Deployment Ledger}
  {tokens : TokenContracts Ledger} {msgSender recipient : Address} {quantity : Nat}
  {before after : Execution Ledger}

theorem completeIssue_moves
    (returned : completeIssue module deployment tokens msgSender quantity recipient before =
      .ok after) : World.MovesBy module.address before.world after.world := by
  simp only [completeIssue, bind_eq_ok] at returned
  obtain ⟨_, _, _, _, _, _, collected, collecting, resolved, resolving, paid, paying, minting⟩ :=
    returned
  have moved := (resolvePass_onlyBalances looseMovement_onlyBalances collecting).trans
    (resolvePass_onlyBalances looseMovement_onlyBalances resolving)
  exact ((moved.edits module.address).moves.trans (resolveFees_moves paying)).trans
    (mint_moves minting)

theorem completeRedeem_moves
    (returned : completeRedeem module deployment tokens msgSender quantity recipient before =
      .ok after) : World.MovesBy module.address before.world after.world := by
  simp only [completeRedeem, bind_eq_ok] at returned
  obtain ⟨burned, burning, _, _, _, _, _, _, collected, collecting, resolved, resolving,
    paying⟩ := returned
  have burns := World.burn_moves (Execution.onWorld_eq_ok burning).1
  have moved := (resolvePass_onlyBalances looseMovement_onlyBalances collecting).trans
    (resolvePass_onlyBalances looseMovement_onlyBalances resolving)
  exact (burns.trans (moved.edits module.address).moves).trans (resolveFees_moves paying)

end DebtIssuanceModuleV2

/-! ### Auctions -/

namespace AuctionRebalanceModuleV1

variable {module next : AuctionRebalanceModuleV1} {msgSender : Address} {adapters : Adapters}
  {world after : World}

theorem startRebalance_moves {params : StartRebalanceParams}
    (returned : module.startRebalance msgSender adapters params world = .ok (next, after)) :
    World.MovesBy module.address world after := by
  simp only [startRebalance, lockSetToken, bind_eq_ok, pure_eq_ok, Prod.exists,
    Prod.mk.injEq] at returned
  obtain ⟨_, _, locked, locking, _, _, _, _, _, _, rfl⟩ := returned
  split at locking
  · exact World.callSetToken_moves ⟨world.controller, module.address⟩ .lock
      ⟨⟨rfl, trivial⟩, trivial⟩ locking
  · exact (pure_eq_ok _ _).mp locking ▸ World.Moves.refl _ _

theorem unlock_moves (returned : module.unlock world = .ok (next, after)) :
    World.MovesBy module.address world after := by
  simp only [unlock, bind_eq_ok, pure_eq_ok, Prod.mk.injEq] at returned
  obtain ⟨_, _, _, _, _, _, _, unlocking, _, rfl⟩ := returned
  exact World.callSetToken_moves ⟨world.controller, module.address⟩ .unlock
    ⟨⟨rfl, trivial⟩, trivial⟩ unlocking

end AuctionRebalanceModuleV1

end IndexProtocol

/-
This file lets all modules of a Set call in any order, with the hooks of the
manager in between, while holders move tokens, the manager and the governance
change who may do what, and time passes. Every interleaving comes down to moves:
calls of the Set by the modules that took part, and changes that edit nothing.
What every move preserves therefore holds of all interleavings: the bookkeeping
of the positions, the frame of a locked Set, and that no module touches the
external positions of another one.
-/

import IndexProtocol.Modules.ClaimModule
import IndexProtocol.Modules.CustomOracleNAVSettings
import IndexProtocol.Modules.GeneralIndexModule
import IndexProtocol.System.LeverageChanges
import IndexProtocol.System.SetTokenLifecycle

namespace IndexProtocol

open Revert

/-! ### The calls of the modules -/

/-- A module is initialized by its own entry point, which the manager calls. -/
inductive InitializeCall : Address → World → World → Prop
  | basicIssuance {world after : World} (module next : BasicIssuanceModule)
      (msgSender preIssueHook : Address)
      (returned : module.initializeSet msgSender preIssueHook world = .ok (next, after)) :
      InitializeCall module.address world after
  | navIssuance {world after : World} (module next : CustomOracleNAVIssuanceModule)
      (msgSender : Address) (settings : NAVIssuanceSettings)
      (returned : module.initializeSet msgSender settings world = .ok (next, after)) :
      InitializeCall module.address world after
  | streamingFee {world after : World} (module next : StreamingFeeModule) (msgSender : Address)
      (settings : FeeState)
      (returned : module.initializeSet msgSender settings world = .ok (next, after)) :
      InitializeCall module.address world after
  | debtIssuance {world after : World} (next : DebtIssuanceModule)
      (address msgSender feeRecipient hook : Address) (maxFee issueFee redeemFee : Nat)
      (isModuleHook : Address → Bool)
      (returned : DebtIssuanceModule.initializeSet address msgSender maxFee issueFee redeemFee
        feeRecipient hook isModuleHook world = .ok (next, after)) :
      InitializeCall address world after
  | auction {world after : World} (module next : AuctionRebalanceModuleV1)
      (msgSender : Address)
      (returned : module.initializeSet msgSender world = .ok (next, after)) :
      InitializeCall module.address world after
  | trade {world after : World} (module : TradeModule) (msgSender : Address)
      (returned : module.initializeSet msgSender world = .ok after) :
      InitializeCall module.address world after
  | wrap {world after : World} (module : WrapModuleV2) (msgSender : Address)
      (returned : module.initializeSet msgSender world = .ok after) :
      InitializeCall module.address world after
  | generalIndex {world after : World} (module next : GeneralIndexModule) (msgSender : Address)
      (returned : module.initializeSet msgSender world = .ok (next, after)) :
      InitializeCall module.address world after
  | singleIndex {world after : World} (module next : SingleIndexModule) (msgSender : Address)
      (returned : module.initializeIndex msgSender world = .ok (next, after)) :
      InitializeCall module.address world after
  | amm {world after : World} (module : AmmModule) (msgSender : Address)
      (returned : module.initializeSet msgSender world = .ok after) :
      InitializeCall module.address world after
  | airdrop {world after : World} (module next : AirdropModule) (msgSender : Address)
      (settings : AirdropSettings)
      (returned : module.initializeSet msgSender settings world = .ok (next, after)) :
      InitializeCall module.address world after
  | claim {world after : World} (module next : ClaimModule) (msgSender : Address)
      (registry : IntegrationRegistry) (anyoneClaim : Bool) (rewardPools : List Address)
      (integrationNames : List String)
      (returned : module.initializeSet msgSender registry anyoneClaim rewardPools
        integrationNames world = .ok (next, after)) : InitializeCall module.address world after

/-- Whatever an initialization checks and records, all it does to the Set is to initialize the
module. -/
theorem InitializeCall.moves {module : Address} {world after : World}
    (call : InitializeCall module world after) : World.MovesBy module world after := by
  cases call with
  | basicIssuance module next msgSender preIssueHook returned =>
    simp only [BasicIssuanceModule.initializeSet, bind_eq_ok, pure_eq_ok, Prod.mk.injEq]
      at returned
    obtain ⟨_, _, _, _, _, initialized, _, rfl⟩ := returned
    exact World.initializeModule_moves initialized
  | navIssuance module next msgSender settings returned =>
    simp only [CustomOracleNAVIssuanceModule.initializeSet, bind_eq_ok, pure_eq_ok,
      Prod.mk.injEq] at returned
    obtain ⟨_, _, _, _, _, _, _, _, _, initialized, _, rfl⟩ := returned
    exact World.initializeModule_moves initialized
  | streamingFee module next msgSender settings returned =>
    simp only [StreamingFeeModule.initializeSet, bind_eq_ok, pure_eq_ok, Prod.mk.injEq]
      at returned
    obtain ⟨_, _, _, _, _, _, _, _, _, _, _, initialized, _, rfl⟩ := returned
    exact World.initializeModule_moves initialized
  | debtIssuance next address msgSender feeRecipient hook maxFee issueFee redeemFee
      isModuleHook returned =>
    simp only [DebtIssuanceModule.initializeSet, bind_eq_ok, pure_eq_ok, Prod.mk.injEq]
      at returned
    obtain ⟨_, _, _, _, _, _, _, _, _, initialized, _, rfl⟩ := returned
    exact World.initializeModule_moves initialized
  | auction module next msgSender returned =>
    simp only [AuctionRebalanceModuleV1.initializeSet, bind_eq_ok, pure_eq_ok, Prod.mk.injEq]
      at returned
    obtain ⟨_, _, _, _, _, _, _, _, _, _, _, initialized, _, rfl⟩ := returned
    exact World.initializeModule_moves initialized
  | trade module msgSender returned =>
    simp only [TradeModule.initializeSet, bind_eq_ok] at returned
    obtain ⟨_, _, _, _, initialized⟩ := returned
    exact World.initializeModule_moves initialized
  | wrap module msgSender returned =>
    simp only [WrapModuleV2.initializeSet, bind_eq_ok] at returned
    obtain ⟨_, _, _, _, initialized⟩ := returned
    exact World.initializeModule_moves initialized
  | generalIndex module next msgSender returned =>
    simp only [GeneralIndexModule.initializeSet, bind_eq_ok, pure_eq_ok, Prod.mk.injEq]
      at returned
    obtain ⟨_, _, _, _, _, _, _, _, _, _, _, initialized, _, rfl⟩ := returned
    exact World.initializeModule_moves initialized
  | singleIndex module next msgSender returned =>
    simp only [SingleIndexModule.initializeIndex, bind_eq_ok, pure_eq_ok, Prod.mk.injEq]
      at returned
    obtain ⟨_, _, _, _, _, _, _, _, _, _, _, initialized, _, rfl⟩ := returned
    exact World.initializeModule_moves initialized
  | amm module msgSender returned =>
    simp only [AmmModule.initializeSet, bind_eq_ok] at returned
    obtain ⟨_, _, _, _, initialized⟩ := returned
    exact World.initializeModule_moves initialized
  | airdrop module next msgSender settings returned =>
    simp only [AirdropModule.initializeSet, bind_eq_ok, pure_eq_ok, Prod.mk.injEq] at returned
    obtain ⟨_, _, _, _, _, _, _, _, _, _, _, initialized, _, rfl⟩ := returned
    exact World.initializeModule_moves initialized
  | claim module next msgSender registry anyoneClaim rewardPools integrationNames returned =>
    simp only [ClaimModule.initializeSet, bind_eq_ok, pure_eq_ok, Prod.mk.injEq] at returned
    obtain ⟨_, _, _, _, _, _, _, initialized, _, rfl⟩ := returned
    exact World.initializeModule_moves initialized

/-- A call that edits positions of its module through the library. -/
inductive EditCall : Address → World → World → Prop
  | traded {module : Address} {touched : Set Address} {world next : World}
      (call : TradingCall module touched world next) : EditCall module world next
  | batchAbsorb {world next : World} (module : AirdropModule) (msgSender : Address)
      (tokens : List Address)
      (returned : module.batchAbsorb msgSender tokens world = .ok next) :
      EditCall module.address world next
  | updateAirdropFee {world after : World} (module next : AirdropModule) (msgSender : Address)
      (newFee : Nat)
      (returned : module.updateAirdropFee msgSender newFee world = .ok (next, after)) :
      EditCall module.address world after
  | redeemMaturedPositions {Ledger : Type} {before after : Execution Ledger}
      (module : NotionalTradeModule) (wrappers : FCashWrappers Ledger)
      (returned : module.redeemMaturedPositions wrappers before = .ok after) :
      EditCall module.address before.world after.world
  | redemptionHook {Ledger : Type} {before after : Execution Ledger}
      (module : NotionalTradeModule) (wrappers : FCashWrappers Ledger) (msgSender : Address)
      (returned : module.redemptionHook wrappers msgSender before = .ok after) :
      EditCall module.address before.world after.world
  | stake {Ledger : Type} {before after : Execution Ledger} (module next : StakingModule)
      (protocols : Protocols Ledger) (adapters : StakingAdapters)
      (msgSender stakeContract component : Address) (adapterName : String) (units : Nat)
      (returned : module.stake protocols adapters msgSender stakeContract component adapterName
        units before = .ok (next, after)) : EditCall module.address before.world after.world
  | unstake {Ledger : Type} {before after : Execution Ledger} (module next : StakingModule)
      (protocols : Protocols Ledger) (adapters : StakingAdapters)
      (msgSender stakeContract component : Address) (adapterName : String) (units : Nat)
      (returned : module.unstake protocols adapters msgSender stakeContract component adapterName
        units before = .ok (next, after)) : EditCall module.address before.world after.world
  | syncAave {world next : World} (module : AaveLeverageModule)
      (returned : module.sync world = .ok next) : EditCall module.address world next
  | syncCompound {Ledger : Type} {before after : Execution Ledger}
      (module : CompoundLeverageModule) (protocols : Protocols Ledger) (accrue : Bool)
      (returned : module.sync protocols accrue before = .ok after) :
      EditCall module.address before.world after.world
  | leveraged {Ledger : Type} {before after : Execution Ledger}
      {position : LeveragePosition Ledger} (call : LeverageCall position before after) :
      EditCall position.module before.world after.world
  | moduleHook {Ledger : Type} {before after : Execution Ledger} (hook : HookModule)
      (protocols : Protocols Ledger) (msgSender : Address) (isIssue : Bool)
      (returned : hook.moduleHook protocols msgSender isIssue before = .ok after) :
      EditCall hook.address before.world after.world
  | componentHook {Ledger : Type} {before after : Execution Ledger} (hook : HookModule)
      (protocols : Protocols Ledger) (adapters : StakingAdapters) (msgSender : Address)
      (isIssue isEquity : Bool) (quantity : Nat) (component : Address)
      (returned : hook.componentHook protocols adapters msgSender isIssue isEquity quantity
        component before = .ok after) : EditCall hook.address before.world after.world
  | perpLeverage {Ledger : Type} {before after : PerpExecution Ledger}
      (module next : PerpV2LeverageModuleV2) (perp : PerpV2 Ledger) (msgSender : Address)
      (entryPoint : PerpV2LeverageModuleV2.EntryPoint)
      (library : entryPoint.EditsThroughLibrary)
      (returned : entryPoint.call perp msgSender before module = .ok (next, after)) :
      EditCall module.address before.world after.world
  | perpBasis {Ledger : Type} {before after : PerpExecution Ledger}
      (module next : PerpV2BasisTradingModule) (perp : PerpV2 Ledger) (msgSender : Address)
      (entryPoint : PerpV2BasisTradingModule.EntryPoint)
      (library : entryPoint.EditsThroughLibrary)
      (returned : entryPoint.call perp msgSender before module = .ok (next, after)) :
      EditCall module.address before.world after.world

/-- Any call of a perpetual module, with the hooks that write an external unit on its own. -/
inductive PerpCall : Address → World → World → Prop
  | leverage {Ledger : Type} {before after : PerpExecution Ledger}
      (module next : PerpV2LeverageModuleV2) (perp : PerpV2 Ledger) (msgSender : Address)
      (entryPoint : PerpV2LeverageModuleV2.EntryPoint)
      (returned : entryPoint.call perp msgSender before module = .ok (next, after)) :
      PerpCall module.address before.world after.world
  | basis {Ledger : Type} {before after : PerpExecution Ledger}
      (module next : PerpV2BasisTradingModule) (perp : PerpV2 Ledger) (msgSender : Address)
      (entryPoint : PerpV2BasisTradingModule.EntryPoint)
      (returned : entryPoint.call perp msgSender before module = .ok (next, after)) :
      PerpCall module.address before.world after.world

/-- A call of a module that runs no hook of the manager, and that edits positions through the
library if it does. -/
inductive ModuleCall : Address → World → World → Prop
  | edited {module : Address} {world next : World} (call : EditCall module world next) :
      ModuleCall module world next
  | initialized {module : Address} {world next : World}
      (call : InitializeCall module world next) : ModuleCall module world next
  | redeem {world next : World} (module : BasicIssuanceModule) (msgSender recipient : Address)
      (quantity : Nat)
      (returned : module.redeem msgSender quantity recipient world = .ok next) :
      ModuleCall module.address world next
  | accrueFee {world after : World} (module next : StreamingFeeModule)
      (returned : module.accrueFee world = .ok (next, after)) :
      ModuleCall module.address world after
  | updateStreamingFee {world after : World} (module next : StreamingFeeModule)
      (msgSender : Address) (newFee : Nat)
      (returned : module.updateStreamingFee msgSender newFee world = .ok (next, after)) :
      ModuleCall module.address world after
  | startRebalance {world after : World} (module next : AuctionRebalanceModuleV1)
      (msgSender : Address) (adapters : Adapters)
      (params : AuctionRebalanceModuleV1.StartRebalanceParams)
      (returned : module.startRebalance msgSender adapters params world = .ok (next, after)) :
      ModuleCall module.address world after
  | unlock {world after : World} (module next : AuctionRebalanceModuleV1)
      (returned : module.unlock world = .ok (next, after)) :
      ModuleCall module.address world after

/-- Any call of a module that runs no hook of the manager. -/
inductive SystemCall : Address → World → World → Prop
  | module {module : Address} {world next : World} (call : ModuleCall module world next) :
      SystemCall module world next
  | perp {module : Address} {world next : World} (call : PerpCall module world next) :
      SystemCall module world next

theorem NotionalTradeModule.redeemAllMatured_edits {Ledger : Type}
    {module : NotionalTradeModule} {wrappers : FCashWrappers Ledger}
    {before after : Execution Ledger}
    (returned : module.redeemAllMatured wrappers before = .ok after) :
    World.EditsBy module.address before.world after.world := by
  simp only [redeemAllMatured, bind_eq_ok] at returned
  obtain ⟨positions, _, redeeming⟩ := returned
  refine Execution.foldlM_moves (fun state position next redeemed => ?_) redeeming
  unfold redeemIfMatured at redeemed
  split at redeemed
  · simp only [bind_eq_ok, pure_eq_ok, Prod.exists] at redeemed
    obtain ⟨_, _, _, _, _, _, called, rfl⟩ := redeemed
    rcases redeemFCashPosition_tradedBy called with rfl | traded
    · exact World.Moves.refl _ _
    · exact traded.edits
  · exact (pure_eq_ok _ _).mp redeemed ▸ World.Moves.refl _ _

theorem AirdropModule.batchAbsorbInternal_edits {module : AirdropModule}
    {tokens : List Address} {world next : World}
    (returned : module.batchAbsorbInternal tokens world = .ok next) :
    World.EditsBy module.address world next := by
  refine World.foldlM_moves (fun state token after absorbed => ?_) returned
  simp only [absorbInternal, bind_eq_ok] at absorbed
  obtain ⟨_, _, handled⟩ := absorbed
  rcases handleAirdropPosition_tradedBy handled with rfl | traded
  · exact World.Moves.refl _ _
  · exact traded.edits

theorem EditCall.edits {module : Address} {world next : World}
    (call : EditCall module world next) : World.EditsBy module world next := by
  cases call with
  | traded call => exact call.edits
  | batchAbsorb module msgSender tokens returned =>
    simp only [AirdropModule.batchAbsorb, bind_eq_ok] at returned
    obtain ⟨_, _, _, _, absorbing⟩ := returned
    exact AirdropModule.batchAbsorbInternal_edits absorbing
  | updateAirdropFee module next msgSender newFee returned =>
    simp only [AirdropModule.updateAirdropFee, bind_eq_ok, pure_eq_ok, Prod.mk.injEq] at returned
    obtain ⟨_, _, _, _, _, absorbing, _, rfl⟩ := returned
    exact AirdropModule.batchAbsorbInternal_edits absorbing
  | redeemMaturedPositions module wrappers returned =>
    simp only [NotionalTradeModule.redeemMaturedPositions, bind_eq_ok] at returned
    obtain ⟨_, _, redeeming⟩ := returned
    exact NotionalTradeModule.redeemAllMatured_edits redeeming
  | redemptionHook module wrappers msgSender returned =>
    simp only [NotionalTradeModule.redemptionHook, bind_eq_ok] at returned
    obtain ⟨_, _, hooked⟩ := returned
    split at hooked
    · exact NotionalTradeModule.redeemAllMatured_edits hooked
    · exact (pure_eq_ok _ _).mp hooked ▸ World.Moves.refl _ _
  | stake module next protocols adapters msgSender stakeContract component adapterName units
      returned => exact StakingModule.stake_edits returned
  | unstake module next protocols adapters msgSender stakeContract component adapterName units
      returned => exact StakingModule.unstake_edits returned
  | syncAave module returned => exact AaveLeverageModule.sync_edits returned
  | syncCompound module protocols accrue returned =>
    exact CompoundLeverageModule.sync_edits returned
  | leveraged call => exact call.records.edits
  | moduleHook hook protocols msgSender isIssue returned =>
    exact HookModule.moduleHook_edits returned
  | componentHook hook protocols adapters msgSender isIssue isEquity quantity component
      returned => exact (HookModule.componentHook_emits returned).edits _
  | perpLeverage module next perp msgSender entryPoint library returned =>
    exact PerpV2LeverageModuleV2.call_edits library returned
  | perpBasis module next perp msgSender entryPoint library returned =>
    exact PerpV2BasisTradingModule.call_edits library returned

theorem PerpCall.ownEdits {module : Address} {world next : World}
    (call : PerpCall module world next) :
    World.Moves (SetTokenMove.OwnEdits {module}) world next := by
  cases call with
  | leverage module next perp msgSender entryPoint returned =>
    exact PerpV2LeverageModuleV2.call_ownEdits returned
  | basis module next perp msgSender entryPoint returned =>
    exact PerpV2BasisTradingModule.call_ownEdits returned

/-- A call is made up of moves of its module. -/
theorem ModuleCall.moves {module : Address} {world next : World}
    (call : ModuleCall module world next) : World.MovesBy module world next := by
  cases call with
  | edited call => exact call.edits.moves
  | initialized call => exact call.moves
  | redeem module msgSender recipient quantity returned =>
    exact BasicIssuanceModule.redeem_moves returned
  | accrueFee module next returned => exact StreamingFeeModule.accrueFee_moves returned
  | updateStreamingFee module next msgSender newFee returned =>
    exact StreamingFeeModule.updateStreamingFee_moves returned
  | startRebalance module next msgSender adapters params returned =>
    exact AuctionRebalanceModuleV1.startRebalance_moves returned
  | unlock module next returned => exact AuctionRebalanceModuleV1.unlock_moves returned

theorem SystemCall.moves {module : Address} {world next : World}
    (call : SystemCall module world next) :
    World.Moves (SetTokenMove.MadeBy {module}) world next := by
  cases call with
  | module call => exact call.moves.mono fun _ move => move.1
  | perp call => exact call.ownEdits.mono fun _ move => move.1

/-! ### Interleavings -/

/-- The functions of the Set for its manager. -/
def SetTokenCall.IsManagement : SetTokenCall → Prop
  | .addModule _ => True
  | .removeModule _ _ => True
  | .removePendingModule _ => True
  | .setManager _ => True
  | _ => False

/-- What happens besides the calls of the modules: time passes, the governance changes the
controller, balances and allowances of any tokens change, and accounts call the functions for
the manager. -/
inductive Environment : World → World → Prop
  | elapsed {world : World} (seconds : Nat) :
      Environment world { world with timestamp := world.timestamp + seconds }
  | governed {world : World} (controller : Controller) :
      Environment world { world with controller := controller }
  | moved {world next : World} (only : World.OnlyBalances world next) : Environment world next
  | managed {world next : World} (call : Call) (made : SetTokenCall)
      (management : made.IsManagement)
      (returned : world.callSetToken (fun setToken => SetTokenCall.apply setToken (call, made)) =
        .ok next) : Environment world next

/-- The calls of some modules in any order, with the environment in between. An order runs the
hook of the manager in its middle, and the hook may do whatever an interleaving does. -/
inductive Interleaving (calls : Address → World → World → Prop) (modules : Set Address) :
    World → World → Prop
  | refl {world : World} : Interleaving calls modules world world
  | trans {world middle next : World} (first : Interleaving calls modules world middle)
      (second : Interleaving calls modules middle next) : Interleaving calls modules world next
  | call {module : Address} {world next : World} (member : module ∈ modules)
      (called : calls module world next) : Interleaving calls modules world next
  | environment {world next : World} (environment : Environment world next) :
      Interleaving calls modules world next
  | issue {world hooked next : World} (module : BasicIssuanceModule)
      (member : module.address ∈ modules) (msgSender recipient : Address) (quantity : Nat)
      (validated : module.validateIssue quantity world = .ok ())
      (hook : Interleaving calls modules world hooked)
      (returned : module.completeIssue msgSender quantity recipient hooked = .ok next) :
      Interleaving calls modules world next
  | issueAtNAV {world next : World} (module : CustomOracleNAVIssuanceModule)
      (member : module.address ∈ modules) (contracts : NAVContracts) (msgSender : Address)
      (call : CustomOracleNAVIssuanceModule.NAVCall)
      (apart : module.weth ≠ world.setToken.address)
      (hook : ∀ start hooked, module.RunsHook contracts msgSender start hooked →
        Interleaving calls modules start hooked)
      (returned : call.apply module contracts msgSender world = .ok next) :
      Interleaving calls modules world next
  | issueWithDebt {Ledger : Type} {before after : Execution Ledger}
      (module : DebtIssuanceModule) (member : module.address ∈ modules)
      (members : ∀ hook ∈ module.moduleIssuanceHooks, hook ∈ modules)
      (deployment : Deployment Ledger) (msgSender recipient : Address) (quantity : Nat)
      (hook : ∀ start hooked, module.callManagerPreIssueHooks deployment quantity msgSender
        recipient start = .ok hooked → Interleaving calls modules start.world hooked.world)
      (returned : module.issue deployment msgSender quantity recipient before = .ok after) :
      Interleaving calls modules before.world after.world
  | redeemWithDebt {Ledger : Type} {before after : Execution Ledger}
      (module : DebtIssuanceModule) (member : module.address ∈ modules)
      (members : ∀ hook ∈ module.moduleIssuanceHooks, hook ∈ modules)
      (deployment : Deployment Ledger) (msgSender recipient : Address) (quantity : Nat)
      (returned : module.redeem deployment msgSender quantity recipient before = .ok after) :
      Interleaving calls modules before.world after.world
  | issueWithDebtV2 {Ledger : Type} {before after : Execution Ledger}
      (module : DebtIssuanceModule) (member : module.address ∈ modules)
      (members : ∀ hook ∈ module.moduleIssuanceHooks, hook ∈ modules)
      (deployment : Deployment Ledger) (tokens : TokenContracts Ledger)
      (msgSender recipient : Address) (quantity : Nat)
      (hook : ∀ start hooked, module.callManagerPreIssueHooks deployment quantity msgSender
        recipient start = .ok hooked → Interleaving calls modules start.world hooked.world)
      (returned : DebtIssuanceModuleV2.issue module deployment tokens msgSender quantity recipient
        before = .ok after) : Interleaving calls modules before.world after.world
  | redeemWithDebtV2 {Ledger : Type} {before after : Execution Ledger}
      (module : DebtIssuanceModule) (member : module.address ∈ modules)
      (members : ∀ hook ∈ module.moduleIssuanceHooks, hook ∈ modules)
      (deployment : Deployment Ledger) (tokens : TokenContracts Ledger)
      (msgSender recipient : Address) (quantity : Nat)
      (returned : DebtIssuanceModuleV2.redeem module deployment tokens msgSender quantity
        recipient before = .ok after) : Interleaving calls modules before.world after.world

/-! ### Interleavings as moves -/

/-- No move changes where the Set is. -/
theorem SetTokenMove.apply_address {move : SetTokenMove} {setToken next : SetToken}
    (returned : move.apply setToken = .ok next) : next.address = setToken.address := by
  cases move with
  | setTokenCall call made =>
    by_cases control : made.IsControl
    · exact (control.keeps returned).2.2
    cases made with
    | editDefaultPosition component newUnit =>
      obtain ⟨_, _, rfl⟩ := (Position.editDefaultPosition_editsOnly returned).only
      rfl
    | editExternalPosition component module newUnit data =>
      obtain ⟨_, _, rfl⟩ := (Position.editExternalPosition_editsOnly returned).1.only
      rfl
    | editPositionMultiplier newMultiplier =>
      obtain ⟨_, _, rfl⟩ := SetToken.editPositionMultiplier_eq_ok returned
      rfl
    | mint account quantity =>
      obtain ⟨_, rfl⟩ := SetToken.mint_eq_ok returned
      rfl
    | burn account quantity =>
      obtain ⟨_, _, rfl⟩ := SetToken.burn_eq_ok returned
      rfl
    | lock | unlock | addModule | removeModule | removePendingModule | initializeModule
    | setManager => exact absurd trivial control
  | editExternalPositionUnit call component module realUnit =>
    obtain ⟨_, _, _, rfl⟩ := SetToken.editExternalPositionUnit_eq_ok returned
    rfl
  | setHoldings balances allowances => exact (pure_eq_ok _ _).mp returned ▸ rfl

/-- One step of the world below the calls: permitted moves, or a step of the environment. -/
inductive World.Evolves (permitted : SetTokenMove → Prop) : World → World → Prop
  | moved {world next : World} (moves : World.Moves permitted world next) :
      Evolves permitted world next
  | environment {world next : World} (environment : Environment world next) :
      Evolves permitted world next

section Evolving

variable {permitted : SetTokenMove → Prop} {start reached : World}

/-- What permitted moves, the functions for the manager and other balances preserve, holds of
every Set that evolves by them. -/
theorem World.evolves_invariant (invariant : SetToken → Prop)
    (applied : ∀ setToken move next, permitted move → invariant setToken →
      SetTokenMove.apply setToken move = .ok next → invariant next)
    (managed : ∀ setToken call made next, SetTokenCall.IsManagement made → invariant setToken →
      SetTokenCall.apply setToken (call, made) = .ok next → invariant next)
    (transferred : ∀ setToken balances allowances, invariant setToken →
      invariant { setToken with balanceOf := balances, allowance := allowances })
    (evolves : Relation.ReflTransGen (World.Evolves permitted) start reached)
    (holds : invariant start.setToken) : invariant reached.setToken := by
  induction evolves with
  | refl => exact holds
  | tail _ step inductionHypothesis =>
    cases step with
    | moved moves => exact moves.setToken.invariant invariant applied inductionHypothesis
    | environment environment =>
      cases environment with
      | elapsed seconds => exact inductionHypothesis
      | governed controller => exact inductionHypothesis
      | moved only =>
        obtain ⟨balances, allowances, stored⟩ := only.setToken
        rw [stored]
        exact transferred _ balances allowances inductionHypothesis
      | managed call made management returned =>
        exact managed _ call made _ management inductionHypothesis
          (World.callSetToken_eq_ok returned).1

theorem SetTokenCall.IsManagement.isControl {made : SetTokenCall}
    (management : made.IsManagement) : made.IsControl := by
  cases made with
  | addModule | removeModule | removePendingModule | setManager => trivial
  | editDefaultPosition | editExternalPosition | editPositionMultiplier | mint | burn | lock
  | unlock | initializeModule => exact management.elim

theorem World.evolves_address
    (evolves : Relation.ReflTransGen (World.Evolves permitted) start reached) :
    reached.setToken.address = start.setToken.address := by
  refine World.evolves_invariant (fun setToken => setToken.address = start.setToken.address)
    (fun _ _ _ _ same returned => (SetTokenMove.apply_address returned).trans same)
    (fun _ _ _ _ management same returned => (management.isControl.keeps returned).2.2.trans same)
    (fun _ _ _ same => same) evolves rfl

end Evolving

section Decomposition

variable {calls : Address → World → World → Prop} {modules : Set Address}
  {permitted : SetTokenMove → Prop} {world next : World}

/-- Moves of a module that takes part are moves of those that do. -/
theorem World.MovesBy.permits {module : Address} (member : module ∈ modules)
    (own : ∀ move : SetTokenMove, move.Library modules → permitted move)
    (moves : World.MovesBy module world next) : World.Moves permitted world next :=
  moves.mono fun move made =>
    own move ⟨made.1.mono (Set.singleton_subset_iff.mpr member), made.2⟩

/-- The hooks of the modules before an order are moves of these modules. -/
theorem Deployment.hooks_move {Ledger : Type} {deployment : Deployment Ledger}
    {msgSender : Address} {isIssue : Bool} {hooks : List Address} {before after : Execution Ledger}
    (members : ∀ hook ∈ hooks, hook ∈ modules)
    (own : ∀ move : SetTokenMove, move.Library modules → permitted move)
    (returned : hooks.foldlM (deployment.callModuleHook msgSender isIssue) before = .ok after) :
    World.Moves permitted before.world after.world :=
  foldlM_invariant _ (fun state => World.Moves permitted before.world state.world) hooks
    (fun _ hook _ member moved called => moved.trans
      (World.MovesBy.permits (members hook member) own (callModuleHook_edits called).moves))
    before after (World.Moves.refl _ _) returned

/-- An interleaving evolves by moves of the modules that take part. -/
theorem Interleaving.evolves
    (made : ∀ module world next, module ∈ modules → calls module world next →
      World.Moves permitted world next)
    (own : ∀ move : SetTokenMove, move.Library modules → permitted move)
    (interleaved : Interleaving calls modules world next) :
    Relation.ReflTransGen (World.Evolves permitted) world next := by
  induction interleaved with
  | refl => exact .refl
  | trans _ _ first second => exact first.trans second
  | call member called => exact .single (.moved (made _ _ _ member called))
  | environment environment => exact .single (.environment environment)
  | issue module member msgSender recipient quantity validated _ returned hooked =>
    exact hooked.tail (.moved ((BasicIssuanceModule.completeIssue_moves returned).permits
      member own))
  | issueAtNAV module member contracts msgSender call apart _ returned hooked =>
    obtain ⟨start, hooking, parts⟩ :=
      CustomOracleNAVIssuanceModule.NAVCall.apply_callsBy returned
    have started := parts.started apart
    have before : Relation.ReflTransGen (World.Evolves permitted) _ hooking :=
      .head (.environment (.moved started)) (hooked start hooking parts.runs)
    refine before.tail (.moved ((parts.completes ?_).permits member own))
    rwa [World.evolves_address before]
  | issueWithDebt module member members deployment msgSender recipient quantity _ returned
      hooked =>
    simp only [DebtIssuanceModule.issue, DebtIssuanceModule.prepareIssue, bind_eq_ok] at returned
    obtain ⟨_, ⟨_, _, _, _, _, calling, hooking⟩, completing⟩ := returned
    exact ((hooked _ _ calling).tail (.moved (Deployment.hooks_move members own hooking))).tail
      (.moved ((DebtIssuanceModule.completeIssue_moves completing).permits member own))
  | redeemWithDebt module member members deployment msgSender recipient quantity returned =>
    simp only [DebtIssuanceModule.redeem, DebtIssuanceModule.prepareRedeem, bind_eq_ok]
      at returned
    obtain ⟨_, ⟨_, _, _, _, hooking⟩, completing⟩ := returned
    exact .tail (.single (.moved (Deployment.hooks_move members own hooking)))
      (.moved ((DebtIssuanceModule.completeRedeem_moves completing).permits member own))
  | issueWithDebtV2 module member members deployment tokens msgSender recipient quantity _
      returned hooked =>
    simp only [DebtIssuanceModuleV2.issue, DebtIssuanceModule.prepareIssue, bind_eq_ok]
      at returned
    obtain ⟨_, ⟨_, _, _, _, _, calling, hooking⟩, completing⟩ := returned
    exact ((hooked _ _ calling).tail (.moved (Deployment.hooks_move members own hooking))).tail
      (.moved ((DebtIssuanceModuleV2.completeIssue_moves completing).permits member own))
  | redeemWithDebtV2 module member members deployment tokens msgSender recipient quantity
      returned =>
    simp only [DebtIssuanceModuleV2.redeem, DebtIssuanceModule.prepareRedeem, bind_eq_ok]
      at returned
    obtain ⟨_, ⟨_, _, _, _, hooking⟩, completing⟩ := returned
    exact .tail (.single (.moved (Deployment.hooks_move members own hooking)))
      (.moved ((DebtIssuanceModuleV2.completeRedeem_moves completing).permits member own))

/-- The modules that take part make all moves. -/
theorem Interleaving.madeBy (interleaved : Interleaving SystemCall modules world next) :
    Relation.ReflTransGen (World.Evolves (SetTokenMove.MadeBy modules)) world next :=
  interleaved.evolves
    (fun _ _ _ member called => called.moves.mono fun _ move =>
      move.mono (Set.singleton_subset_iff.mpr member))
    fun _ move => move.1

/-- Without the hooks of the perpetual modules, all edits are made through the library. -/
theorem Interleaving.throughLibrary (interleaved : Interleaving ModuleCall modules world next) :
    Relation.ReflTransGen (World.Evolves SetTokenMove.ThroughLibrary) world next :=
  interleaved.evolves (fun _ _ _ _ called => called.moves.mono fun _ move => move.2)
    fun _ move => move.2

end Decomposition

end IndexProtocol

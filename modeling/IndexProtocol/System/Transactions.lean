/-
This file puts one Set, its three modules and the tokens around it together, and
models the transactions any account may send: the entry points of the modules
and of the Set, the token calls of holders, changes of the controller by its
governance, and the passing of time. An issuance also runs the manager's hook,
which may send any transactions of its own except another issuance or
redemption, which the reentrancy guard of the module refuses.
-/

import IndexProtocol.Modules.AuctionRebalanceModuleV1
import IndexProtocol.Modules.BasicIssuanceModule
import IndexProtocol.Modules.StreamingFeeModule
import IndexProtocol.Protocol.SetTokenCreator

namespace IndexProtocol

open Revert

structure System where
  world : World
  basicIssuance : BasicIssuanceModule
  auction : AuctionRebalanceModuleV1
  streamingFee : StreamingFeeModule

/-! ### Operations -/

inductive Operation
  | wait (seconds : Nat)
  | govern (controller : Controller)
  -- The Set token.
  | addModule (module : Address)
  | removeModule (module : Address) (otherCallback : Outcome Unit)
  | removePendingModule (module : Address)
  | setManager (manager : Address)
  -- The tokens.
  | transfer (token recipient : Address) (amount : Nat)
  | transferFrom (token sender recipient : Address) (amount : Nat)
  | approve (token spender : Address) (amount : Nat)
  -- The auction module.
  | initializeAuction
  | startRebalance (adapters : Adapters)
      (params : AuctionRebalanceModuleV1.StartRebalanceParams)
  | bid (adapters : Adapters) (component : Address) (componentAmount quoteAssetLimit : Nat)
  | raiseAssetTargets
  | unlock
  | setRaiseTargetPercentage (raiseTargetPercentage : Nat)
  | setBidderStatus (bidders : List Address) (statuses : List Bool)
  | setAnyoneBid (status : Bool)
  -- The issuance module.
  | initializeBasicIssuance (preIssueHook : Address)
  -- The fee module.
  | initializeStreamingFee (settings : FeeState)
  | accrueFee
  | updateStreamingFee (newFee : Nat)
  | updateFeeRecipient (newFeeRecipient : Address)

structure Transaction where
  msgSender : Address
  operation : Operation

namespace System

def onWorld (system : System) (call : World → Outcome World) : Outcome System := do
  let world ← call system.world
  pure { system with world := world }

def onAuction (system : System)
    (call : AuctionRebalanceModuleV1 → World → Outcome AuctionRebalanceModuleV1) :
    Outcome System := do
  let auction ← call system.auction system.world
  pure { system with auction := auction }

def onAuctionAndWorld (system : System)
    (call : AuctionRebalanceModuleV1 → World → Outcome (AuctionRebalanceModuleV1 × World)) :
    Outcome System := do
  let (auction, world) ← call system.auction system.world
  pure { system with auction := auction, world := world }

def onStreamingFeeAndWorld (system : System)
    (call : StreamingFeeModule → World → Outcome (StreamingFeeModule × World)) :
    Outcome System := do
  let (streamingFee, world) ← call system.streamingFee system.world
  pure { system with streamingFee := streamingFee, world := world }

/-- A block timestamp is a `uint256`. -/
def wait (seconds : Nat) (world : World) : Outcome World := do
  let timestamp ← SafeMath.add world.timestamp seconds
  pure { world with timestamp := timestamp }

/-- The callback of the module that the Set token removes. -/
def removeModuleCallback (module : Address) (otherCallback : Outcome Unit) (system : System) :
    Outcome System :=
  if module = system.basicIssuance.address then do
    let basicIssuance ← BasicIssuanceModule.removeModule
    pure { system with basicIssuance := basicIssuance }
  else if module = system.auction.address then
    pure { system with auction := system.auction.removeModule }
  else if module = system.streamingFee.address then
    pure { system with streamingFee := system.streamingFee.removeModule }
  else do
    otherCallback
    pure system

def removeModule (msgSender module : Address) (otherCallback : Outcome Unit)
    (system : System) : Outcome System := do
  let called := system.removeModuleCallback module otherCallback
  let world ← system.world.callSetToken
    (SetToken.removeModule ⟨system.world.controller, msgSender⟩ module (called.map fun _ => ()))
  let notified ← called
  pure { notified with world := world }

/-- One transaction other than an issuance or a redemption. -/
def operate (system : System) (transaction : Transaction) : Outcome System :=
  let msgSender := transaction.msgSender
  let call : Call := ⟨system.world.controller, msgSender⟩
  match transaction.operation with
  | .wait seconds => system.onWorld (wait seconds)
  | .govern controller => pure { system with world := { system.world with controller } }
  | .addModule module =>
    system.onWorld (World.callSetToken (SetToken.addModule call module))
  | .removeModule module otherCallback => system.removeModule msgSender module otherCallback
  | .removePendingModule module =>
    system.onWorld (World.callSetToken (SetToken.removePendingModule call module))
  | .setManager manager =>
    system.onWorld (World.callSetToken (SetToken.setManager call manager))
  | .transfer token recipient amount =>
    system.onWorld (World.callToken token (ERC20.transfer msgSender recipient amount))
  | .transferFrom token sender recipient amount =>
    system.onWorld
      (World.callToken token (ERC20.transferFrom msgSender sender recipient amount))
  | .approve token spender amount =>
    system.onWorld (World.callToken token (ERC20.approve msgSender spender amount))
  | .initializeAuction =>
    system.onAuctionAndWorld fun auction => auction.initializeSet msgSender
  | .startRebalance adapters params =>
    system.onAuctionAndWorld fun auction => auction.startRebalance msgSender adapters params
  | .bid adapters component componentAmount quoteAssetLimit =>
    system.onWorld
      (system.auction.bid msgSender adapters component componentAmount quoteAssetLimit)
  | .raiseAssetTargets => system.onAuction fun auction => auction.raiseAssetTargets msgSender
  | .unlock => system.onAuctionAndWorld AuctionRebalanceModuleV1.unlock
  | .setRaiseTargetPercentage raiseTargetPercentage =>
    system.onAuction fun auction =>
      auction.setRaiseTargetPercentage msgSender raiseTargetPercentage
  | .setBidderStatus bidders statuses =>
    system.onAuction fun auction => auction.setBidderStatus msgSender bidders statuses
  | .setAnyoneBid status => system.onAuction fun auction => auction.setAnyoneBid msgSender status
  | .initializeBasicIssuance preIssueHook => do
    let (basicIssuance, world) ←
      system.basicIssuance.initializeSet msgSender preIssueHook system.world
    pure { system with basicIssuance := basicIssuance, world := world }
  | .initializeStreamingFee settings =>
    system.onStreamingFeeAndWorld fun streamingFee =>
      streamingFee.initializeSet msgSender settings
  | .accrueFee => system.onStreamingFeeAndWorld StreamingFeeModule.accrueFee
  | .updateStreamingFee newFee =>
    system.onStreamingFeeAndWorld fun streamingFee =>
      streamingFee.updateStreamingFee msgSender newFee
  | .updateFeeRecipient newFeeRecipient => do
    let streamingFee ←
      system.streamingFee.updateFeeRecipient msgSender newFeeRecipient system.world
    pure { system with streamingFee := streamingFee }

/-! ### Issuance and redemption -/

/-- A hook contract that reverts, or the transactions it sends, whatever each of them does. -/
abbrev PreIssueHook := Outcome (List Transaction)

def callPreIssueHooks (hook : PreIssueHook) (system : System) : Outcome System :=
  if system.basicIssuance.managerIssuanceHook ≠ 0 then do
    let transactions ← hook
    pure (run operate system transactions)
  else pure system

def issue (msgSender : Address) (quantity : Nat) (recipient : Address) (hook : PreIssueHook)
    (system : System) : Outcome System := do
  system.basicIssuance.validateIssue quantity system.world
  let hooked ← system.callPreIssueHooks hook
  hooked.onWorld (hooked.basicIssuance.completeIssue msgSender quantity recipient)

inductive Action
  | transact (transaction : Transaction)
  | issue (msgSender : Address) (quantity : Nat) (recipient : Address) (hook : PreIssueHook)
  | redeem (msgSender : Address) (quantity : Nat) (recipient : Address)

def step (system : System) : Action → Outcome System
  | .transact transaction => system.operate transaction
  | .issue msgSender quantity recipient hook => system.issue msgSender quantity recipient hook
  | .redeem msgSender quantity recipient =>
    system.onWorld (system.basicIssuance.redeem msgSender quantity recipient)

/-- Every transaction that the action sends is allowed, those of the hook too, and so is who
redeems. -/
def Action.Sends (allowed : Transaction → Prop) (redeems : Address → Prop) : Action → Prop
  | .transact transaction => allowed transaction
  | .issue _ _ _ hook =>
    ∀ transactions, hook = .ok transactions → ∀ transaction ∈ transactions, allowed transaction
  | .redeem msgSender _ _ => redeems msgSender

/-- The issuance module refuses to be removed, the other two are cleared, and the callback of a
foreign module writes nothing here. -/
theorem removeModuleCallback_eq_ok {system next : System} {module : Address}
    {otherCallback : Outcome Unit}
    (returned : system.removeModuleCallback module otherCallback = .ok next) :
    module = system.auction.address ∧
        next = { system with auction := system.auction.removeModule } ∨
      module ≠ system.auction.address ∧
        (next = { system with streamingFee := system.streamingFee.removeModule } ∨
          next = system) := by
  unfold removeModuleCallback at returned
  split at returned
  · simp only [BasicIssuanceModule.removeModule, bind_eq_ok, error_ne_ok, false_and,
      exists_false] at returned
  split at returned
  · rename_i same
    exact Or.inl ⟨same, ((pure_eq_ok _ _).mp returned).symm⟩
  rename_i different
  refine Or.inr ⟨different, ?_⟩
  split at returned
  · exact Or.inl ((pure_eq_ok _ _).mp returned).symm
  · simp only [bind_eq_ok, pure_eq_ok] at returned
    obtain ⟨_, _, same⟩ := returned
    exact Or.inr same.symm

/-- What every allowed transaction preserves, and both ends of the issuance module, every
action preserves. -/
theorem step_invariant (invariant : System → Prop) (allowed : Transaction → Prop)
    (redeems : Address → Prop)
    (operated : ∀ state transaction next, allowed transaction → invariant state →
      state.operate transaction = .ok next → invariant next)
    (issued : ∀ (state : System) msgSender quantity recipient world, invariant state →
      state.basicIssuance.completeIssue msgSender quantity recipient state.world = .ok world →
      invariant { state with world := world })
    (redeemed : ∀ (state : System) msgSender quantity recipient world, redeems msgSender →
      invariant state →
      state.basicIssuance.redeem msgSender quantity recipient state.world = .ok world →
      invariant { state with world := world }) :
    ∀ state action next, action.Sends allowed redeems → invariant state →
      step state action = .ok next → invariant next := by
  intro state action next sends holds returned
  cases action with
  | transact transaction => exact operated state transaction next sends holds returned
  | issue msgSender quantity recipient hook =>
    simp only [step, issue, onWorld, bind_eq_ok, pure_eq_ok] at returned
    obtain ⟨_, _, hooked, calling, world, completed, rfl⟩ := returned
    refine issued hooked msgSender quantity recipient world ?_ completed
    unfold callPreIssueHooks at calling
    split at calling
    · simp only [bind_eq_ok, pure_eq_ok] at calling
      obtain ⟨transactions, sent, rfl⟩ := calling
      exact run_invariant operate invariant allowed operated transactions
        (sends transactions sent) state holds
    · exact (pure_eq_ok _ _).mp calling ▸ holds
  | redeem msgSender quantity recipient =>
    simp only [step, onWorld, bind_eq_ok, pure_eq_ok] at returned
    obtain ⟨world, called, rfl⟩ := returned
    exact redeemed state msgSender quantity recipient world sends holds called

/-! ### A sample system -/

/-- One adapter, which quotes a price of one. -/
def sampleAdapters : Adapters where
  getIntegrationAdapter := fun _ _ => 20
  priceAdapter := fun _ =>
    { isPriceAdapterConfigDataValid := fun _ => true
      getPrice := fun _ _ _ _ _ _ => .ok (10 ^ 18) }

/-- A Set of supply one, at address 2 and managed by account 5, which holds one unit of token
3; account 7 holds the Set and every token. -/
def sample : System where
  world :=
    { timestamp := 1000
      controller :=
        { isInitialized := true, sets := [2], isSet := fun account => account = 2,
          isFactory := fun _ => false, isModule := fun account => 10 ≤ account ∧ account ≤ 12,
          fees := fun _ _ => 0, feeRecipient := 9 }
      setToken :=
        { SetToken.construct 2 [3] [10 ^ 18] [10, 11, 12] 5 with
          totalSupply := 10 ^ 18
          balanceOf := fun account => if account = 7 then 10 ^ 18 else 0 }
      tokens := fun _ =>
        { totalSupply := 2 * 10 ^ 18
          balanceOf := fun account => if account = 2 ∨ account = 7 then 10 ^ 18 else 0
          allowance := fun owner _ => if owner = 7 then 10 ^ 18 else 0 } }
  basicIssuance := { address := 10, managerIssuanceHook := 0 }
  auction := .deployed 11
  streamingFee :=
    { address := 12
      feeStates :=
        { feeRecipient := 0, maxStreamingFeePercentage := 0, streamingFeePercentage := 0,
          lastStreamingFeeTimestamp := 0 } }

def sampleParams (targetUnit : Nat) : AuctionExecutionParams :=
  { targetUnit, priceAdapterName := "Constant", priceAdapterConfigData := [] }

/-- Add the auction module, let anyone bid, and start to sell half of token 3 for token 4. -/
def sampleStart : List Transaction :=
  [⟨5, .initializeAuction⟩, ⟨5, .setAnyoneBid true⟩,
    ⟨5, .startRebalance sampleAdapters
      { quoteAsset := 4, newComponents := [], newComponentsAuctionParams := []
        oldComponentsAuctionParams := [sampleParams (5 * 10 ^ 17)]
        shouldLockSetToken := true, rebalanceDuration := 100
        initialPositionMultiplier := 10 ^ 18 }⟩]

end System

end IndexProtocol

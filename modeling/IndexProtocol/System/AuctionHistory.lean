/-
This file records the history of the auction module: when the module is added,
when a rebalance starts, and when one is ended early. It says once what a
transaction can do to the module and to the control of the Set, and reads two
invariants off the history: bids happen only inside the window of the newest
rebalance, and the target of an asset is the one written to it last.
-/

import IndexProtocol.Modules.AuctionCalls
import IndexProtocol.System.Transactions

namespace IndexProtocol

open Revert

/-! ### Events -/

/-- The events that open and close the window of a rebalance, with the targets they write. -/
inductive AuctionEvent
  | initialized (targets : List (Address × Nat))
  | started (time duration : Nat) (quoteAsset : Address) (components : List Address)
      (targets : List (Address × Nat))
  | endedEarly

namespace System

/-- The positions that adding the module records. -/
def recordedPositions (setToken : SetToken) : List (Address × Nat) :=
  match setToken.getPositions with
  | .ok positions => positions.map fun position => (position.component, position.unit.toNat)
  | .error _ => []

/-- The event of a successful transaction. -/
def observe (system : System) (transaction : Transaction) : List AuctionEvent :=
  match transaction.operation with
  | .initializeAuction => [.initialized (recordedPositions system.world.setToken)]
  | .startRebalance _ params =>
    let components := system.world.setToken.components ++ params.newComponents
    let auctionParams := params.oldComponentsAuctionParams ++ params.newComponentsAuctionParams
    [.started system.world.timestamp params.rebalanceDuration params.quoteAsset components
      (components.zip (auctionParams.map AuctionExecutionParams.targetUnit))]
  | .unlock =>
    match system.auction.canUnlockEarly system.world with
    | .ok true => [.endedEarly]
    | _ => []
  | _ => []

/-! ### What a transaction does -/

/-- The world in which one module has another state. -/
def withModuleState (world : World) (module : Address) (state : ModuleState) : World :=
  { world with
    setToken := { world.setToken with
      moduleStates := Function.update world.setToken.moduleStates module state } }

/-- Everything a successful transaction can do to the auction module and to the control of
the Set, with the events it records. -/
inductive Effect (system : System) : List AuctionEvent → System → Prop
  | quiet {next : System} (control : World.KeepsControl system.world next.world)
      (auction : next.auction = system.auction) : Effect system [] next
  | waited {next : System} (seconds : Nat)
      (fits : system.world.timestamp + seconds < 2 ^ 256)
      (advanced : next =
        { system with
          world := { system.world with timestamp := system.world.timestamp + seconds } }) :
      Effect system [] next
  | governed {next : System} (controller : Controller)
      (replaced : next = { system with world := { system.world with controller } }) :
      Effect system [] next
  | managed {next : System} (manager : Address)
      (replaced : next =
        { system with
          world := { system.world with setToken := { system.world.setToken with manager } } }) :
      Effect system [] next
  | lifecycle {next : System} (module : Address) (state : ModuleState)
      (control : World.KeepsControl (withModuleState system.world module state) next.world)
      (auction : next.auction = system.auction)
      (other : module = system.auction.address →
        system.world.setToken.moduleStates module ≠ .initialized)
      (foreign : state = .initialized →
        module = system.basicIssuance.address ∨ module = system.streamingFee.address) :
      Effect system [] next
  | removed {next : System}
      (unlocked : system.world.setToken.isLocked = false)
      (control : World.KeepsControl
        (withModuleState system.world system.auction.address .none) next.world)
      (auction : next.auction = system.auction.removeModule) : Effect system [] next
  | initialized {next : System} (positions : List PositionEntry)
      (read : system.world.setToken.getPositions = .ok positions)
      (unlocked : system.world.setToken.isLocked = false)
      (pending : system.world.setToken.moduleStates system.auction.address = .pending)
      (control : World.KeepsControl
        (withModuleState system.world system.auction.address .initialized) next.world)
      (auction : next.auction = { system.auction with
        executionInfo := positions.foldl
          (fun info position => Function.update info position.component
            { info position.component with targetUnit := position.unit.toNat })
          system.auction.executionInfo
        rebalanceInfo := { system.auction.rebalanceInfo with
          positionMultiplier := system.world.setToken.positionMultiplier.toNat } }) :
      Effect system
        [.initialized (positions.map fun position => (position.component, position.unit.toNat))]
        next
  | started {next : System} (params : AuctionRebalanceModuleV1.StartRebalanceParams)
      (active : system.world.setToken.moduleStates system.auction.address = .initialized)
      (locking : system.auction.lockSetToken params.shouldLockSetToken system.world =
        .ok next.world)
      (nodup : (system.world.setToken.components ++ params.newComponents).Nodup)
      (lengths : (system.world.setToken.components ++ params.newComponents).length =
        (params.oldComponentsAuctionParams ++ params.newComponentsAuctionParams).length)
      (auction : next.auction = { system.auction with
        executionInfo := ((system.world.setToken.components ++ params.newComponents).zip
          (params.oldComponentsAuctionParams ++ params.newComponentsAuctionParams)).foldl
            (fun info entry => Function.update info entry.1 entry.2) system.auction.executionInfo
        rebalanceInfo := { system.auction.rebalanceInfo with
          quoteAsset := params.quoteAsset
          rebalanceStartTime := system.world.timestamp
          rebalanceDuration := params.rebalanceDuration
          positionMultiplier := params.initialPositionMultiplier
          rebalanceComponents := system.world.setToken.components ++ params.newComponents } }) :
      Effect system
        [.started system.world.timestamp params.rebalanceDuration params.quoteAsset
          (system.world.setToken.components ++ params.newComponents)
          ((system.world.setToken.components ++ params.newComponents).zip
            ((params.oldComponentsAuctionParams ++ params.newComponentsAuctionParams).map
              AuctionExecutionParams.targetUnit))]
        next
  | tuned {next : System} (permissionInfo : BidPermissionInfo)
      (positionMultiplier raiseTargetPercentage : Nat)
      (changed : next = { system with
        auction := { system.auction with
          permissionInfo := permissionInfo
          rebalanceInfo := { system.auction.rebalanceInfo with
            positionMultiplier := positionMultiplier
            raiseTargetPercentage := raiseTargetPercentage } } }) :
      Effect system [] next
  | unlocked {next : System}
      (world : next.world = { system.world with
        setToken := { system.world.setToken with locker := 0, isLocked := false } })
      (auction : next.auction = system.auction) : Effect system [] next
  | unlockedEarly {next : System}
      (world : next.world = { system.world with
        setToken := { system.world.setToken with locker := 0, isLocked := false } })
      (auction : next.auction = { system.auction with
        rebalanceInfo := { system.auction.rebalanceInfo with rebalanceDuration := 0 } }) :
      Effect system [.endedEarly] next

section Effects

variable {system next : System} {msgSender : Address}

theorem onWorld_eq_ok {call : World → Outcome World}
    (returned : system.onWorld call = .ok next) :
    ∃ world, call system.world = .ok world ∧ next = { system with world := world } := by
  simp only [onWorld, bind_eq_ok, pure_eq_ok] at returned
  obtain ⟨world, called, rfl⟩ := returned
  exact ⟨world, called, rfl⟩

theorem onAuction_eq_ok
    {call : AuctionRebalanceModuleV1 → World → Outcome AuctionRebalanceModuleV1}
    (returned : system.onAuction call = .ok next) :
    ∃ auction, call system.auction system.world = .ok auction ∧
      next = { system with auction := auction } := by
  simp only [onAuction, bind_eq_ok, pure_eq_ok] at returned
  obtain ⟨auction, called, rfl⟩ := returned
  exact ⟨auction, called, rfl⟩

theorem onAuctionAndWorld_eq_ok
    {call : AuctionRebalanceModuleV1 → World → Outcome (AuctionRebalanceModuleV1 × World)}
    (returned : system.onAuctionAndWorld call = .ok next) :
    ∃ auction world, call system.auction system.world = .ok (auction, world) ∧
      next = { system with auction := auction, world := world } := by
  simp only [onAuctionAndWorld, bind_eq_ok, pure_eq_ok, Prod.exists] at returned
  obtain ⟨auction, world, called, rfl⟩ := returned
  exact ⟨auction, world, called, rfl⟩

theorem onStreamingFeeAndWorld_eq_ok
    {call : StreamingFeeModule → World → Outcome (StreamingFeeModule × World)}
    (returned : system.onStreamingFeeAndWorld call = .ok next) :
    ∃ streamingFee world, call system.streamingFee system.world = .ok (streamingFee, world) ∧
      next = { system with streamingFee := streamingFee, world := world } := by
  simp only [onStreamingFeeAndWorld, bind_eq_ok, pure_eq_ok, Prod.exists] at returned
  obtain ⟨streamingFee, world, called, rfl⟩ := returned
  exact ⟨streamingFee, world, called, rfl⟩

/-- A call of a token changes no control, whatever the token does. -/
theorem effect_of_callToken {token : Address} {call : ERC20 → Outcome ERC20}
    (returned : system.onWorld (World.callToken token call) = .ok next) :
    Effect system [] next := by
  obtain ⟨_, called, rfl⟩ := onWorld_eq_ok returned
  obtain ⟨_, _, rfl⟩ := World.callToken_eq_ok called
  exact .quiet (World.keepsControl_storeToken _ _) rfl

/-- A module other than the auction module is removed, or the auction module is. -/
theorem effect_of_removeModule {module : Address} {otherCallback : Outcome Unit}
    (returned : system.removeModule msgSender module otherCallback = .ok next) :
    Effect system [] next := by
  simp only [System.removeModule, bind_eq_ok, pure_eq_ok] at returned
  obtain ⟨world, removing, notified, called, rfl⟩ := returned
  obtain ⟨removed, stored⟩ := World.callSetToken_eq_ok removing
  obtain ⟨unlocked, initialized, modules, _, written⟩ := SetToken.removeModule_eq_ok removed
  rw [written] at stored
  have control : World.KeepsControl (withModuleState system.world module .none) world := by
    rw [stored]
    exact ⟨rfl, rfl, rfl, rfl, rfl, rfl, rfl⟩
  rcases removeModuleCallback_eq_ok called with ⟨same, rfl⟩ | ⟨different, rfl | rfl⟩
  · exact .removed unlocked (same ▸ control) rfl
  · exact .lifecycle module .none control rfl (fun same => absurd same different)
      fun initialized => absurd initialized (by decide)
  · exact .lifecycle module .none control rfl (fun same => absurd same different)
      fun initialized => absurd initialized (by decide)

/-- A change of the Set that writes the state of one module. -/
theorem effect_of_moduleState {module : Address} (state : ModuleState) {world : World}
    {streamingFee : StreamingFeeModule} {basicIssuance : BasicIssuanceModule}
    (before : system.world.setToken.moduleStates module ≠ .initialized)
    (foreign : state = .initialized →
      module = system.basicIssuance.address ∨ module = system.streamingFee.address)
    (control : World.KeepsControl (withModuleState system.world module state) world) :
    Effect system [] { system with
      world := world, streamingFee := streamingFee, basicIssuance := basicIssuance } :=
  .lifecycle module state control rfl (fun _ => before) foreign

/-- The effect of a transaction, whatever it is. -/
theorem operate_effect {transaction : Transaction}
    (returned : system.operate transaction = .ok next) :
    Effect system (system.observe transaction) next := by
  obtain ⟨msgSender, operation⟩ := transaction
  cases operation with
  | wait seconds =>
    obtain ⟨_, waited, rfl⟩ := onWorld_eq_ok returned
    simp only [System.wait, bind_eq_ok, SafeMath.add_eq_ok, pure_eq_ok] at waited
    obtain ⟨_, ⟨fits, rfl⟩, rfl⟩ := waited
    exact .waited seconds fits rfl
  | govern controller => exact .governed controller ((pure_eq_ok _ _).mp returned).symm
  | addModule module =>
    obtain ⟨_, called, rfl⟩ := onWorld_eq_ok returned
    obtain ⟨added, stored⟩ := World.callSetToken_eq_ok called
    obtain ⟨absent, written⟩ := SetToken.addModule_eq_ok added
    rw [written] at stored
    refine effect_of_moduleState .pending (absent.trans_ne (by decide))
      (fun initialized => absurd initialized (by decide)) ?_
    exact stored ▸ ⟨rfl, rfl, rfl, rfl, rfl, rfl, rfl⟩
  | removeModule module otherCallback => exact effect_of_removeModule returned
  | removePendingModule module =>
    obtain ⟨_, called, rfl⟩ := onWorld_eq_ok returned
    obtain ⟨removed, stored⟩ := World.callSetToken_eq_ok called
    obtain ⟨_, pending, written⟩ := SetToken.removePendingModule_eq_ok removed
    rw [written] at stored
    refine effect_of_moduleState .none (pending.trans_ne (by decide))
      (fun initialized => absurd initialized (by decide)) ?_
    exact stored ▸ ⟨rfl, rfl, rfl, rfl, rfl, rfl, rfl⟩
  | setManager manager =>
    obtain ⟨_, called, rfl⟩ := onWorld_eq_ok returned
    obtain ⟨replaced, stored⟩ := World.callSetToken_eq_ok called
    rw [(SetToken.setManager_eq_ok replaced).2] at stored
    exact .managed manager (by rw [stored])
  | transfer token recipient amount => exact effect_of_callToken returned
  | transferFrom token sender recipient amount => exact effect_of_callToken returned
  | approve token spender amount => exact effect_of_callToken returned
  | initializeAuction =>
    simp only [operate] at returned
    obtain ⟨_, _, called, rfl⟩ := onAuctionAndWorld_eq_ok returned
    obtain ⟨positions, read, unlocked, pending, rfl, rfl⟩ :=
      AuctionRebalanceModuleV1.initializeSet_eq_ok called
    have observed : recordedPositions system.world.setToken =
        positions.map fun position => (position.component, position.unit.toNat) := by
      unfold recordedPositions
      rw [read]
    simp only [observe, observed]
    exact .initialized positions read unlocked pending ⟨rfl, rfl, rfl, rfl, rfl, rfl, rfl⟩ rfl
  | startRebalance adapters params =>
    simp only [operate] at returned
    obtain ⟨_, _, called, rfl⟩ := onAuctionAndWorld_eq_ok returned
    obtain ⟨active, locking, nodup, lengths, rfl⟩ :=
      AuctionRebalanceModuleV1.startRebalance_eq_ok called
    exact .started params active locking nodup lengths rfl
  | bid adapters component componentAmount quoteAssetLimit =>
    obtain ⟨_, called, rfl⟩ := onWorld_eq_ok returned
    exact .quiet (AuctionRebalanceModuleV1.bid_keepsControl called) rfl
  | raiseAssetTargets =>
    simp only [operate] at returned
    obtain ⟨_, called, rfl⟩ := onAuction_eq_ok returned
    obtain ⟨_, rfl⟩ := AuctionRebalanceModuleV1.raiseAssetTargets_eq_ok called
    exact .tuned _ _ _ rfl
  | unlock =>
    simp only [operate] at returned
    obtain ⟨_, _, called, rfl⟩ := onAuctionAndWorld_eq_ok returned
    obtain ⟨early, decided, rfl, rfl⟩ := AuctionRebalanceModuleV1.unlock_eq_ok called
    simp only [observe, decided]
    cases early with
    | false => exact .unlocked rfl rfl
    | true => exact .unlockedEarly rfl rfl
  | setRaiseTargetPercentage raiseTargetPercentage =>
    simp only [operate] at returned
    obtain ⟨_, called, rfl⟩ := onAuction_eq_ok returned
    obtain rfl := AuctionRebalanceModuleV1.setRaiseTargetPercentage_eq_ok called
    exact .tuned _ _ _ rfl
  | setBidderStatus bidders statuses =>
    simp only [operate] at returned
    obtain ⟨_, called, rfl⟩ := onAuction_eq_ok returned
    obtain ⟨_, rfl⟩ := AuctionRebalanceModuleV1.setBidderStatus_eq_ok called
    exact .tuned _ _ _ rfl
  | setAnyoneBid status =>
    simp only [operate] at returned
    obtain ⟨_, called, rfl⟩ := onAuction_eq_ok returned
    obtain ⟨_, rfl⟩ := AuctionRebalanceModuleV1.setAnyoneBid_eq_ok called
    exact .tuned _ _ _ rfl
  | initializeBasicIssuance preIssueHook =>
    simp only [operate, bind_eq_ok, pure_eq_ok, Prod.exists] at returned
    obtain ⟨basicIssuance, world, called, rfl⟩ := returned
    obtain ⟨pending, _, _, stored⟩ := BasicIssuanceModule.initializeSet_eq_ok called
    refine effect_of_moduleState .initialized (pending.trans_ne (by decide))
      (fun _ => Or.inl rfl) ?_
    exact stored ▸ ⟨rfl, rfl, rfl, rfl, rfl, rfl, rfl⟩
  | initializeStreamingFee settings =>
    simp only [operate] at returned
    obtain ⟨_, _, called, rfl⟩ := onStreamingFeeAndWorld_eq_ok returned
    obtain ⟨pending, _, _, stored⟩ := StreamingFeeModule.initializeSet_eq_ok called
    refine effect_of_moduleState .initialized (pending.trans_ne (by decide))
      (fun _ => Or.inr rfl) ?_
    exact stored ▸ ⟨rfl, rfl, rfl, rfl, rfl, rfl, rfl⟩
  | accrueFee =>
    simp only [operate] at returned
    obtain ⟨_, _, called, rfl⟩ := onStreamingFeeAndWorld_eq_ok returned
    obtain ⟨_, _, inflated⟩ := StreamingFeeModule.accrueFee_eq_ok called
    exact .quiet (StreamingFeeModule.inflate_keepsControl inflated) rfl
  | updateStreamingFee newFee =>
    simp only [operate] at returned
    obtain ⟨_, _, called, rfl⟩ := onStreamingFeeAndWorld_eq_ok returned
    obtain ⟨_, _, inflated⟩ := StreamingFeeModule.updateStreamingFee_eq_ok called
    exact .quiet (StreamingFeeModule.inflate_keepsControl inflated) rfl
  | updateFeeRecipient newFeeRecipient =>
    simp only [operate, bind_eq_ok, pure_eq_ok] at returned
    obtain ⟨_, _, rfl⟩ := returned
    exact .quiet (World.KeepsControl.refl _) rfl

end Effects

end System

end IndexProtocol

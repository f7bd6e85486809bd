/-
This file says once what a transaction can do to the positions, the holdings and
the fee of a Set. Most transactions touch none of them; token calls move what
the Set holds, bids trade, and an accrual inflates the supply. What is true of
every run is then proved from these cases alone.
-/

import IndexProtocol.System.AuctionHistory

namespace IndexProtocol

open Revert

/-- Two worlds in which the Set has the same supply and the same positions. -/
structure World.KeepsPositions (world next : World) : Prop where
  address : next.setToken.address = world.setToken.address
  totalSupply : next.setToken.totalSupply = world.setToken.totalSupply
  components : next.setToken.components = world.setToken.components
  componentPositions : next.setToken.componentPositions = world.setToken.componentPositions
  positionMultiplier : next.setToken.positionMultiplier = world.setToken.positionMultiplier

theorem World.OnlyBalances.keepsPositions {world next : World}
    (only : World.OnlyBalances world next) : World.KeepsPositions world next :=
  ⟨only.address, only.totalSupply, only.components, only.samePositions.componentPositions,
    only.positionMultiplier⟩

theorem World.KeepsPositions.samePositions {world next : World}
    (kept : World.KeepsPositions world next) :
    SetToken.SamePositions world.setToken next.setToken :=
  ⟨kept.components, kept.componentPositions, kept.positionMultiplier⟩

/-- The account whose tokens a transaction transfers. -/
def Transaction.spender (transaction : Transaction) : Option Address :=
  match transaction.operation with
  | .transfer _ _ _ => some transaction.msgSender
  | .transferFrom _ sender _ _ => some sender
  | _ => none

/-- The transaction neither sets the fee nor adds or removes a module with its fee. -/
def Transaction.KeepsFee (transaction : Transaction) : Prop :=
  match transaction.operation with
  | .updateStreamingFee _ => False
  | .initializeStreamingFee _ => False
  | .removeModule _ _ => False
  | _ => True

namespace System

/-- The fee and the time of its last accrual are the same. -/
structure SameFee (system next : System) : Prop where
  percentage : next.streamingFee.feeStates.streamingFeePercentage =
    system.streamingFee.feeStates.streamingFeePercentage
  last : next.streamingFee.feeStates.lastStreamingFeeTimestamp =
    system.streamingFee.feeStates.lastStreamingFeeTimestamp

/-- The modules are the same contracts. -/
structure SameAddresses (system next : System) : Prop where
  basicIssuance : next.basicIssuance.address = system.basicIssuance.address
  auction : next.auction.address = system.auction.address
  streamingFee : next.streamingFee.address = system.streamingFee.address

/-- Everything a successful transaction can do to the positions, the holdings and the fee. -/
inductive Impact (system : System) (transaction : Transaction) (next : System) : Prop
  | quiet (addresses : SameAddresses system next)
      (positions : World.KeepsPositions system.world next.world)
      (held : next.world.held = system.world.held)
      (fee : transaction.KeepsFee → SameFee system next)
  | moved (addresses : SameAddresses system next)
      (only : World.OnlyBalances system.world next.world)
      (more : transaction.spender ≠ some system.world.setToken.address →
        ∀ token, system.world.held token ≤ next.world.held token)
      (fee : SameFee system next)
  | traded (addresses : SameAddresses system next)
      (adapters : Adapters) (component : Address) (componentAmount quoteAssetLimit : Nat)
      (bid : system.auction.bid transaction.msgSender adapters component componentAmount
        quoteAssetLimit system.world = .ok next.world)
      (fee : SameFee system next)
      (operation : transaction.operation =
        .bid adapters component componentAmount quoteAssetLimit)
  | accrued (addresses : SameAddresses system next)
      (operation : transaction.operation = .accrueFee)
      (accrual : system.streamingFee.accrueFee system.world = .ok (next.streamingFee, next.world))
  | repriced (addresses : SameAddresses system next)
      (newFee : Nat) (operation : transaction.operation = .updateStreamingFee newFee)
      (inflated : system.streamingFee.inflate system.world = .ok next.world)

section Impacts

variable {system next : System} {transaction : Transaction}

theorem Impact.addresses (impact : Impact system transaction next) :
    SameAddresses system next := by
  cases impact <;> assumption

/-- Removing a module clears its storage but not its address. -/
theorem addresses_of_removeModuleCallback {module : Address} {otherCallback : Outcome Unit}
    {world : World} (returned : system.removeModuleCallback module otherCallback = .ok next) :
    SameAddresses system { next with world := world } := by
  rcases removeModuleCallback_eq_ok returned with ⟨_, rfl⟩ | ⟨_, rfl | rfl⟩
  · exact ⟨rfl, rfl, rfl⟩
  · exact ⟨rfl, rfl, rfl⟩
  · exact ⟨rfl, rfl, rfl⟩

/-- A change of the Set's storage outside the positions. -/
theorem impact_of_setToken {setToken : SetToken} {basicIssuance : BasicIssuanceModule}
    {auction : AuctionRebalanceModuleV1} {streamingFee : StreamingFeeModule}
    (addresses : SameAddresses system ⟨system.world, basicIssuance, auction, streamingFee⟩)
    (token : setToken.toERC20 = system.world.setToken.toERC20)
    (address : setToken.address = system.world.setToken.address)
    (components : setToken.components = system.world.setToken.components)
    (positions : setToken.componentPositions = system.world.setToken.componentPositions)
    (multiplier : setToken.positionMultiplier = system.world.setToken.positionMultiplier)
    (fee : transaction.KeepsFee → streamingFee.feeStates = system.streamingFee.feeStates) :
    Impact system transaction
      ⟨{ system.world with setToken := setToken }, basicIssuance, auction, streamingFee⟩ := by
  refine .quiet ⟨addresses.1, addresses.2, addresses.3⟩
    ⟨address, congrArg ERC20.totalSupply token, components, positions, multiplier⟩
    ?_ (fun keeps => ⟨by rw [fee keeps], by rw [fee keeps]⟩)
  funext other
  unfold World.held World.balanceOf World.token
  rw [token, address]

/-- A change outside the Set and its tokens. -/
theorem impact_of_world {timestamp : Nat} {controller : Controller}
    {auction : AuctionRebalanceModuleV1} (address : auction.address = system.auction.address) :
    Impact system transaction
      ⟨{ system.world with timestamp := timestamp, controller := controller },
        system.basicIssuance, auction, system.streamingFee⟩ :=
  .quiet ⟨rfl, address, rfl⟩ ⟨rfl, rfl, rfl, rfl, rfl⟩ rfl fun _ => ⟨rfl, rfl⟩

/-- A token call that keeps the supply, and takes nothing from the Set but as its spender. -/
theorem impact_of_callToken {token : Address} {call : ERC20 → Outcome ERC20}
    (safe : ∀ before after, call before = .ok after → after.totalSupply = before.totalSupply ∧
      (transaction.spender ≠ some system.world.setToken.address →
        before.balanceOf system.world.setToken.address ≤
          after.balanceOf system.world.setToken.address))
    (returned : system.onWorld (World.callToken token call) = .ok next) :
    Impact system transaction next := by
  obtain ⟨_, called, rfl⟩ := onWorld_eq_ok returned
  obtain ⟨stored, written, rfl⟩ := World.callToken_eq_ok called
  obtain ⟨supply, more⟩ := safe _ _ written
  refine .moved ⟨rfl, rfl, rfl⟩ (World.onlyBalances_storeToken _ _ supply)
    (fun other account => ?_) ⟨rfl, rfl⟩
  rw [World.held_storeToken]
  by_cases same : account = token
  · subst same
    rw [Function.update_self]
    exact more other
  · rw [Function.update_of_ne same]

/-- The impact of a transaction, whatever it is. -/
theorem operate_impact (returned : system.operate transaction = .ok next) :
    Impact system transaction next := by
  obtain ⟨msgSender, operation⟩ := transaction
  cases operation with
  | wait seconds =>
    obtain ⟨_, waited, rfl⟩ := onWorld_eq_ok returned
    simp only [System.wait, bind_eq_ok, pure_eq_ok] at waited
    obtain ⟨_, _, rfl⟩ := waited
    exact impact_of_world rfl
  | govern controller =>
    obtain rfl := (pure_eq_ok _ _).mp returned
    exact impact_of_world rfl
  | addModule module =>
    obtain ⟨_, called, rfl⟩ := onWorld_eq_ok returned
    obtain ⟨added, stored⟩ := World.callSetToken_eq_ok called
    rw [(SetToken.addModule_eq_ok added).2] at stored
    exact stored ▸ impact_of_setToken ⟨rfl, rfl, rfl⟩ rfl rfl rfl rfl rfl fun _ => rfl
  | removeModule module otherCallback =>
    simp only [operate, System.removeModule, bind_eq_ok, pure_eq_ok] at returned
    obtain ⟨_, removing, _, called, rfl⟩ := returned
    obtain ⟨removed, stored⟩ := World.callSetToken_eq_ok removing
    obtain ⟨_, _, _, _, written⟩ := SetToken.removeModule_eq_ok removed
    rw [written] at stored
    rw [stored]
    exact impact_of_setToken (addresses_of_removeModuleCallback called) rfl rfl rfl rfl rfl
      fun keeps => keeps.elim
  | removePendingModule module =>
    obtain ⟨_, called, rfl⟩ := onWorld_eq_ok returned
    obtain ⟨removed, stored⟩ := World.callSetToken_eq_ok called
    rw [(SetToken.removePendingModule_eq_ok removed).2.2] at stored
    exact stored ▸ impact_of_setToken ⟨rfl, rfl, rfl⟩ rfl rfl rfl rfl rfl fun _ => rfl
  | setManager manager =>
    obtain ⟨_, called, rfl⟩ := onWorld_eq_ok returned
    obtain ⟨replaced, stored⟩ := World.callSetToken_eq_ok called
    rw [(SetToken.setManager_eq_ok replaced).2] at stored
    exact stored ▸ impact_of_setToken ⟨rfl, rfl, rfl⟩ rfl rfl rfl rfl rfl fun _ => rfl
  | transfer token recipient amount =>
    refine impact_of_callToken (fun before after moved => ?_) returned
    obtain ⟨_, rfl⟩ := ERC20.move_eq_ok moved
    exact ⟨rfl, fun other => ERC20.le_movedBalance _ _ _ _ fun same =>
      other (congrArg some same.symm)⟩
  | transferFrom token owner recipient amount =>
    refine impact_of_callToken (fun before after moved => ?_) returned
    obtain ⟨_, supply, balances⟩ := ERC20.transferFrom_eq_ok moved
    exact ⟨supply, fun other => balances ▸ ERC20.le_movedBalance _ _ _ _ fun same =>
      other (congrArg some same.symm)⟩
  | approve token spender amount =>
    refine impact_of_callToken (fun before after approved => ?_) returned
    obtain ⟨supply, balances⟩ := ERC20.approve_eq_ok approved
    exact ⟨supply, fun _ => (congrFun balances _).ge⟩
  | initializeAuction =>
    simp only [operate] at returned
    obtain ⟨_, _, called, rfl⟩ := onAuctionAndWorld_eq_ok returned
    obtain ⟨_, _, _, _, rfl, rfl⟩ := AuctionRebalanceModuleV1.initializeSet_eq_ok called
    exact impact_of_setToken ⟨rfl, rfl, rfl⟩ rfl rfl rfl rfl rfl fun _ => rfl
  | startRebalance adapters params =>
    simp only [operate] at returned
    obtain ⟨_, _, called, rfl⟩ := onAuctionAndWorld_eq_ok returned
    obtain ⟨_, locking, _, _, rfl⟩ := AuctionRebalanceModuleV1.startRebalance_eq_ok called
    rcases AuctionRebalanceModuleV1.lockSetToken_eq_ok locking with rfl | ⟨_, _, _, rfl⟩
    · exact impact_of_world rfl
    · exact impact_of_setToken ⟨rfl, rfl, rfl⟩ rfl rfl rfl rfl rfl fun _ => rfl
  | bid adapters component componentAmount quoteAssetLimit =>
    obtain ⟨_, called, rfl⟩ := onWorld_eq_ok returned
    exact .traded ⟨rfl, rfl, rfl⟩ adapters component componentAmount quoteAssetLimit called
      ⟨rfl, rfl⟩ rfl
  | raiseAssetTargets =>
    simp only [operate] at returned
    obtain ⟨_, called, rfl⟩ := onAuction_eq_ok returned
    obtain ⟨_, rfl⟩ := AuctionRebalanceModuleV1.raiseAssetTargets_eq_ok called
    exact impact_of_world rfl
  | unlock =>
    simp only [operate] at returned
    obtain ⟨_, _, called, rfl⟩ := onAuctionAndWorld_eq_ok returned
    obtain ⟨early, _, rfl, rfl⟩ := AuctionRebalanceModuleV1.unlock_eq_ok called
    cases early <;> exact impact_of_setToken ⟨rfl, rfl, rfl⟩ rfl rfl rfl rfl rfl fun _ => rfl
  | setRaiseTargetPercentage raiseTargetPercentage =>
    simp only [operate] at returned
    obtain ⟨_, called, rfl⟩ := onAuction_eq_ok returned
    obtain rfl := AuctionRebalanceModuleV1.setRaiseTargetPercentage_eq_ok called
    exact impact_of_world rfl
  | setBidderStatus bidders statuses =>
    simp only [operate] at returned
    obtain ⟨_, called, rfl⟩ := onAuction_eq_ok returned
    obtain ⟨_, rfl⟩ := AuctionRebalanceModuleV1.setBidderStatus_eq_ok called
    exact impact_of_world rfl
  | setAnyoneBid status =>
    simp only [operate] at returned
    obtain ⟨_, called, rfl⟩ := onAuction_eq_ok returned
    obtain ⟨_, rfl⟩ := AuctionRebalanceModuleV1.setAnyoneBid_eq_ok called
    exact impact_of_world rfl
  | initializeBasicIssuance preIssueHook =>
    simp only [operate, bind_eq_ok, pure_eq_ok, Prod.exists] at returned
    obtain ⟨_, _, called, rfl⟩ := returned
    obtain ⟨_, address, _, rfl⟩ := BasicIssuanceModule.initializeSet_eq_ok called
    exact impact_of_setToken ⟨address, rfl, rfl⟩ rfl rfl rfl rfl rfl fun _ => rfl
  | initializeStreamingFee settings =>
    simp only [operate] at returned
    obtain ⟨_, _, called, rfl⟩ := onStreamingFeeAndWorld_eq_ok returned
    obtain ⟨_, address, _, rfl⟩ := StreamingFeeModule.initializeSet_eq_ok called
    exact impact_of_setToken ⟨rfl, rfl, address⟩ rfl rfl rfl rfl rfl fun keeps => keeps.elim
  | accrueFee =>
    simp only [operate] at returned
    obtain ⟨_, _, called, rfl⟩ := onStreamingFeeAndWorld_eq_ok returned
    have fees := (StreamingFeeModule.accrueFee_eq_ok called).1
    exact .accrued ⟨rfl, rfl, by rw [fees]⟩ rfl called
  | updateStreamingFee newFee =>
    simp only [operate] at returned
    obtain ⟨_, _, called, rfl⟩ := onStreamingFeeAndWorld_eq_ok returned
    obtain ⟨fees, _, inflated⟩ := StreamingFeeModule.updateStreamingFee_eq_ok called
    exact .repriced ⟨rfl, rfl, by rw [fees]⟩ newFee rfl inflated
  | updateFeeRecipient newFeeRecipient =>
    simp only [operate, StreamingFeeModule.updateFeeRecipient, bind_eq_ok, require_eq_ok,
      exists_const, pure_eq_ok] at returned
    obtain ⟨_, ⟨_, _, _, _, _, rfl⟩, rfl⟩ := returned
    exact .quiet ⟨rfl, rfl, rfl⟩ ⟨rfl, rfl, rfl, rfl, rfl⟩ rfl fun _ => ⟨rfl, rfl⟩

end Impacts

end System

end IndexProtocol

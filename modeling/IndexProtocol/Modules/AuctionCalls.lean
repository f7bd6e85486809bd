/-
This file says what a successful call of the auction module changes. Starting a
rebalance and adding the module write the execution info and the rebalance info;
a bid moves tokens and edits two positions; every other call writes one field.
None but these reach the Set, and only starting and unlocking change its lock.
-/

import IndexProtocol.Modules.AuctionRebalanceModuleV1

namespace IndexProtocol

open Revert PreciseUnitMath

/-- The unit of a default position as the modules read it. -/
def SetToken.currentUnit (setToken : SetToken) (component : Address) : Nat :=
  (setToken.defaultRealUnit component).toNat

namespace AuctionRebalanceModuleV1

variable {module next : AuctionRebalanceModuleV1} {world after : World} {msgSender : Address}

/-! ### Starting a rebalance -/

/-- Either nothing is locked, or the module locks an unlocked Set. -/
theorem lockSetToken_eq_ok {shouldLockSetToken : Bool}
    (returned : module.lockSetToken shouldLockSetToken world = .ok after) :
    after = world ∨
      world.setToken.moduleStates module.address = .initialized ∧
        world.controller.isModule module.address = true ∧ world.setToken.isLocked = false ∧
          after = { world with
            setToken := { world.setToken with locker := module.address, isLocked := true } } := by
  unfold lockSetToken at returned
  split at returned
  · obtain ⟨locked, stored⟩ := World.callSetToken_eq_ok returned
    obtain ⟨initialized, enabled, unlocked, written⟩ := SetToken.lock_eq_ok locked
    rw [written] at stored
    exact Or.inr ⟨initialized, enabled, unlocked, stored⟩
  · exact Or.inl ((pure_eq_ok _ _).mp returned).symm

theorem aggregateComponentsAndAuctionParams_eq_ok {adapters : Adapters}
    {currentComponents newComponents components : List Address}
    {newComponentsAuctionParams oldComponentsAuctionParams params : List AuctionExecutionParams}
    (returned : module.aggregateComponentsAndAuctionParams adapters currentComponents newComponents
      newComponentsAuctionParams oldComponentsAuctionParams = .ok (components, params)) :
    components = currentComponents ++ newComponents ∧
      params = oldComponentsAuctionParams ++ newComponentsAuctionParams ∧
        components.Nodup ∧ components.length = params.length := by
  simp only [aggregateComponentsAndAuctionParams, concatAndValidateAuctionParams, bind_eq_ok,
    require_eq_ok, exists_const, pure_eq_ok, Prod.mk.injEq, AddressArrayUtils.extend] at returned
  obtain ⟨newLengths, oldLengths, _, distinct, rfl, _, ⟨_, _, _, _, rfl⟩, rfl, rfl⟩ :=
    returned
  refine ⟨rfl, rfl, ((AddressArrayUtils.hasDuplicate_eq_ok_false _).mp distinct).2, ?_⟩
  rw [List.length_append, List.length_append, newLengths, oldLengths]

/-- A successful start records the parameters of every component and opens the rebalance at
the current time. -/
theorem startRebalance_eq_ok {adapters : Adapters} {params : StartRebalanceParams}
    (returned : module.startRebalance msgSender adapters params world = .ok (next, after)) :
    world.setToken.moduleStates module.address = .initialized ∧
    module.lockSetToken params.shouldLockSetToken world = .ok after ∧
    (world.setToken.components ++ params.newComponents).Nodup ∧
    (world.setToken.components ++ params.newComponents).length =
      (params.oldComponentsAuctionParams ++ params.newComponentsAuctionParams).length ∧
    next = { module with
      executionInfo := ((world.setToken.components ++ params.newComponents).zip
        (params.oldComponentsAuctionParams ++ params.newComponentsAuctionParams)).foldl
          (fun info entry => Function.update info entry.1 entry.2) module.executionInfo
      rebalanceInfo := { module.rebalanceInfo with
        quoteAsset := params.quoteAsset
        rebalanceStartTime := world.timestamp
        rebalanceDuration := params.rebalanceDuration
        positionMultiplier := params.initialPositionMultiplier
        rebalanceComponents := world.setToken.components ++ params.newComponents } } := by
  simp only [startRebalance, bind_eq_ok, ModuleBase.validateOnlyManagerAndValidSet_eq_ok,
    exists_const, pure_eq_ok, Prod.mk.injEq, Prod.exists] at returned
  obtain ⟨⟨_, _, initialized⟩, locked, locking, components, parameters, aggregated, info, recorded,
    rfl, rfl⟩ := returned
  have same : locked.setToken.components = world.setToken.components ∧
      locked.timestamp = world.timestamp := by
    rcases lockSetToken_eq_ok locking with rfl | ⟨_, _, _, rfl⟩ <;> exact ⟨rfl, rfl⟩
  obtain ⟨rfl, rfl, nodup, lengths⟩ := aggregateComponentsAndAuctionParams_eq_ok aggregated
  have written := foldlM_eq_foldl (setExecutionInfo locked.setToken)
    (fun info entry => Function.update info entry.1 entry.2) (by
      intro info entry updated set
      simp only [setExecutionInfo, bind_eq_ok, require_eq_ok, exists_const, pure_eq_ok] at set
      exact set.2.symm) _ _ _ recorded
  rw [same.1] at nodup lengths written
  rw [same.1, same.2, ← written]
  exact ⟨initialized, locking, nodup, lengths, rfl⟩

/-! ### Units and targets -/

/-- The target unit of a component, scaled by the multiplier of the Set over the logged one. -/
def normalizedTargetUnit (module : AuctionRebalanceModuleV1) (setToken : SetToken)
    (component : Address) : Nat :=
  (module.executionInfo component).targetUnit * setToken.positionMultiplier.toNat /
    module.rebalanceInfo.positionMultiplier

/-- The product in a normalized target fits, and the logged multiplier is not zero. -/
def TargetComputable (module : AuctionRebalanceModuleV1) (setToken : SetToken)
    (component : Address) : Prop :=
  (module.executionInfo component).targetUnit * setToken.positionMultiplier.toNat < 2 ^ 256 ∧
    0 < module.rebalanceInfo.positionMultiplier

instance (setToken : SetToken) (component : Address) :
    Decidable (module.TargetComputable setToken component) :=
  inferInstanceAs (Decidable (_ ∧ _))

theorem getNormalizedTargetUnit_eq_ok {component : Address} {target : Nat}
    (nonneg : 0 ≤ world.setToken.positionMultiplier) :
    module.getNormalizedTargetUnit world component = .ok target ↔
      module.TargetComputable world.setToken component ∧
        module.normalizedTargetUnit world.setToken component = target := by
  obtain ⟨multiplier, read⟩ := Int.eq_ofNat_of_zero_le nonneg
  simp only [getNormalizedTargetUnit, TargetComputable, normalizedTargetUnit, bind_eq_ok,
    SafeCast.toUint256_eq_ok, SafeMath.mul_eq_ok, SafeMath.div_eq_ok, read, Int.toNat_natCast,
    Int.natCast_inj]
  constructor
  · rintro ⟨_, rfl, _, ⟨fits, rfl⟩, logged, computed⟩
    exact ⟨⟨fits, logged⟩, computed⟩
  · rintro ⟨⟨fits, logged⟩, computed⟩
    exact ⟨_, rfl, _, ⟨fits, rfl⟩, logged, computed⟩

theorem getDefaultPositionRealUnit_eq_ok {component : Address} {unit : Nat} :
    getDefaultPositionRealUnit world component = .ok unit ↔
      FitsInt256 (world.setToken.defaultPositionVirtualUnit component *
        world.setToken.positionMultiplier) ∧
      world.setToken.defaultRealUnit component = unit := by
  simp only [getDefaultPositionRealUnit, bind_eq_ok, SetToken.getDefaultPositionRealUnit_eq_ok,
    SafeCast.toUint256_eq_ok]
  constructor
  · rintro ⟨_, ⟨fits, rfl⟩, read⟩
    exact ⟨fits, read⟩
  · rintro ⟨fits, read⟩
    exact ⟨_, ⟨fits, rfl⟩, read⟩

/-! ### Raising, unlocking and permissions -/

theorem raiseAssetTargets_eq_ok
    (returned : module.raiseAssetTargets msgSender world = .ok next) :
    ∃ positionMultiplier, next = { module with
      rebalanceInfo :=
        { module.rebalanceInfo with positionMultiplier := positionMultiplier } } := by
  simp only [raiseAssetTargets, bind_eq_ok, pure_eq_ok] at returned
  obtain ⟨_, _, _, _, _, _, _, _, _, _, _, _, positionMultiplier, _, rfl⟩ := returned
  exact ⟨positionMultiplier, rfl⟩

/-- Unlocking ends the rebalance when it could be unlocked early. -/
theorem unlock_eq_ok (returned : module.unlock world = .ok (next, after)) :
    ∃ early, module.canUnlockEarly world = .ok early ∧
      (next = if early then
        { module with rebalanceInfo := { module.rebalanceInfo with rebalanceDuration := 0 } }
        else module) ∧
      after = { world with
        setToken := { world.setToken with locker := 0, isLocked := false } } := by
  simp only [unlock, bind_eq_ok, require_eq_ok, exists_const, pure_eq_ok, Prod.mk.injEq]
    at returned
  obtain ⟨_, _, early, decided, _, _, unlocked, rfl, rfl⟩ := returned
  obtain ⟨called, stored⟩ := World.callSetToken_eq_ok unlocked
  obtain ⟨_, _, _, written⟩ := SetToken.unlock_eq_ok.mp called
  rw [← written] at stored
  exact ⟨early, decided, rfl, stored⟩

theorem setRaiseTargetPercentage_eq_ok {raiseTargetPercentage : Nat}
    (returned :
      module.setRaiseTargetPercentage msgSender raiseTargetPercentage world = .ok next) :
    next = { module with rebalanceInfo := { module.rebalanceInfo with
      raiseTargetPercentage := raiseTargetPercentage } } := by
  simp only [setRaiseTargetPercentage, bind_eq_ok, pure_eq_ok] at returned
  obtain ⟨_, _, _, _, rfl⟩ := returned
  rfl

theorem setBidderStatus_eq_ok {bidders : List Address} {statuses : List Bool}
    (returned : module.setBidderStatus msgSender bidders statuses world = .ok next) :
    ∃ permissionInfo, next = { module with permissionInfo := permissionInfo } := by
  simp only [setBidderStatus, bind_eq_ok, pure_eq_ok] at returned
  obtain ⟨_, _, _, _, permissionInfo, _, rfl⟩ := returned
  exact ⟨permissionInfo, rfl⟩

theorem setAnyoneBid_eq_ok {status : Bool}
    (returned : module.setAnyoneBid msgSender status world = .ok next) :
    ∃ permissionInfo, next = { module with permissionInfo := permissionInfo } := by
  simp only [setAnyoneBid, bind_eq_ok, pure_eq_ok] at returned
  obtain ⟨_, _, rfl⟩ := returned
  exact ⟨_, rfl⟩

/-! ### Adding the module -/

/-- Adding the module records the unit of every position as its target, and the multiplier. -/
theorem initializeSet_eq_ok
    (returned : module.initializeSet msgSender world = .ok (next, after)) :
    ∃ positions, world.setToken.getPositions = .ok positions ∧
      world.setToken.isLocked = false ∧
      world.setToken.moduleStates module.address = .pending ∧
      (next = { module with
        executionInfo := positions.foldl
          (fun info position => Function.update info position.component
            { info position.component with targetUnit := position.unit.toNat })
          module.executionInfo
        rebalanceInfo := { module.rebalanceInfo with
          positionMultiplier := world.setToken.positionMultiplier.toNat } }) ∧
      after = { world with
        setToken := { world.setToken with
          moduleStates := Function.update world.setToken.moduleStates module.address .initialized
          modules := world.setToken.modules ++ [module.address] } } := by
  simp only [initializeSet, bind_eq_ok, pure_eq_ok, Prod.mk.injEq] at returned
  obtain ⟨_, _, _, _, positions, read, info, recorded, multiplier, cast, _, initialized, rfl,
    rfl⟩ := returned
  obtain ⟨unlocked, pending, stored⟩ := World.callSetToken_initializeModule_eq_ok initialized
  rw [SafeCast.toUint256_eq_ok] at cast
  have folded := foldlM_eq_foldl setInitialTarget
    (fun info position => Function.update info position.component
      { info position.component with targetUnit := position.unit.toNat }) (by
      intro info position updated set
      simp only [setInitialTarget, bind_eq_ok, require_eq_ok, exists_const, pure_eq_ok,
        SafeCast.toUint256_eq_ok] at set
      obtain ⟨_, unit, cast, rfl⟩ := set
      rw [cast, Int.toNat_natCast]) _ _ _ recorded
  refine ⟨positions, read, unlocked, pending, ?_, stored⟩
  rw [← folded, cast, Int.toNat_natCast]

/-! ### Bidding -/

/-- What a successful bid did: the tokens that moved, as changes of what the Set holds, and
the two position edits that followed. -/
structure BidTrade (module : AuctionRebalanceModuleV1) (component : Address) (amount : Nat)
    (world next : World) (info : BidInfo) (fee : Nat) (paid edited : World) : Prop where
  notQuote : component ≠ module.rebalanceInfo.quoteAsset
  member : component ∈ module.rebalanceInfo.rebalanceComponents
  notEnded : world.timestamp <
    module.rebalanceInfo.rebalanceStartTime + module.rebalanceInfo.rebalanceDuration
  size : module.calculateAuctionSizeAndDirection component world.setToken.totalSupply world =
    .ok (info.isSellAuction, info.auctionQuantity)
  bounded : amount ≤ info.auctionQuantity
  tokens : (info.sendToken, info.receiveToken) =
    module.getSendAndReceiveTokens info.isSellAuction component
  quantity : (if info.isSellAuction then info.quantitySentBySet else info.quantityReceivedBySet) =
    amount
  onlyBalances : World.OnlyBalances world paid
  sent : info.quantitySentBySet ≤ world.held info.sendToken
  feeRate : fee = Rounding.mulFloor preciseUnit info.quantityReceivedBySet
    (world.controller.getModuleFee module.address protocolFeeIndex)
  feeBounded : fee ≤ info.quantityReceivedBySet
  held : paid.held = Function.update
    (Function.update world.held info.sendToken
      (world.held info.sendToken - info.quantitySentBySet))
    info.receiveToken (world.held info.receiveToken + info.quantityReceivedBySet - fee)
  sendEdit : ∃ result, paid.calculateAndEditDefaultPosition module.address info.sendToken
    world.setToken.totalSupply (world.held info.sendToken) = .ok (edited, result)
  receiveEdit : ∃ result, edited.calculateAndEditDefaultPosition module.address info.receiveToken
    world.setToken.totalSupply (world.held info.receiveToken) = .ok (next, result)

theorem createBidInfo_eq_ok {adapters : Adapters} {component : Address} {amount limit : Nat}
    {info : BidInfo}
    (returned : module.createBidInfo adapters component amount limit world = .ok info) :
    module.calculateAuctionSizeAndDirection component world.setToken.totalSupply world =
      .ok (info.isSellAuction, info.auctionQuantity) ∧
    amount ≤ info.auctionQuantity ∧
    (info.sendToken, info.receiveToken) =
      module.getSendAndReceiveTokens info.isSellAuction component ∧
    (if info.isSellAuction then info.quantitySentBySet else info.quantityReceivedBySet) =
      amount ∧
    info.preBidTokenSentBalance = world.held info.sendToken ∧
    info.preBidTokenReceivedBalance = world.held info.receiveToken ∧
    info.setTotalSupply = world.setToken.totalSupply := by
  simp only [createBidInfo, bind_eq_ok, require_eq_ok, exists_const, pure_eq_ok, Prod.exists]
    at returned
  obtain ⟨_, _, isSellAuction, size, sized, bounded, _, _, _, _, quote, _, _, _, rfl⟩ := returned
  refine ⟨sized, bounded, rfl, ?_, rfl, rfl, rfl⟩
  cases isSellAuction <;> rfl

theorem validateBidTargets_eq_ok {component : Address} {done : Unit}
    (returned : module.validateBidTargets component world = .ok done) :
    component ≠ module.rebalanceInfo.quoteAsset ∧
      component ∈ module.rebalanceInfo.rebalanceComponents ∧
        world.timestamp < module.rebalanceInfo.rebalanceStartTime +
          module.rebalanceInfo.rebalanceDuration := by
  simp only [validateBidTargets, isRebalanceDurationElapsed, bind_eq_ok, require_eq_ok,
    exists_const, pure_eq_ok, SafeMath.add_eq_ok, AddressArrayUtils.contains_eq_true] at returned
  obtain ⟨notQuote, member, _, _, ⟨_, ⟨_, rfl⟩, rfl⟩, running⟩ := returned
  exact ⟨notQuote, member, not_le.mp (of_decide_eq_false running)⟩

/-- The component and the quote asset are on opposite sides of a bid. -/
theorem sendToken_ne_receiveToken {component : Address} {info : BidInfo}
    (notQuote : component ≠ module.rebalanceInfo.quoteAsset)
    (tokens : (info.sendToken, info.receiveToken) =
      module.getSendAndReceiveTokens info.isSellAuction component) :
    info.sendToken ≠ info.receiveToken := by
  unfold getSendAndReceiveTokens at tokens
  split at tokens
  · obtain ⟨send, receive⟩ := Prod.mk.injEq _ _ _ _ ▸ tokens
    rw [send, receive]
    exact notQuote
  · obtain ⟨send, receive⟩ := Prod.mk.injEq _ _ _ _ ▸ tokens
    rw [send, receive]
    exact notQuote.symm

/-- The tokens of a bid move in and out of the Set, and nothing else changes. -/
theorem executeBid_eq_ok {info : BidInfo} (different : info.sendToken ≠ info.receiveToken)
    (returned : module.executeBid msgSender info world = .ok after) :
    World.OnlyBalances world after ∧ info.quantitySentBySet ≤ world.held info.sendToken ∧
      after.held = Function.update
        (Function.update world.held info.receiveToken
          (world.held info.receiveToken + info.quantityReceivedBySet))
        info.sendToken (world.held info.sendToken - info.quantitySentBySet) := by
  simp only [executeBid, bind_eq_ok] at returned
  obtain ⟨received, receiving, sending⟩ := returned
  obtain ⟨first, receivedHeld⟩ := World.explicitTransferFrom_eq_ok receiving
  obtain ⟨second, enough, sentHeld⟩ := World.strictInvokeTransfer_eq_ok sending
  rw [receivedHeld, Function.update_of_ne different] at enough sentHeld
  exact ⟨first.trans second, enough, sentHeld⟩

/-- The fee is a share of what the Set received. -/
theorem accrueProtocolFee_eq_ok {info : BidInfo} {fee received : Nat}
    (before : world.held info.receiveToken = info.preBidTokenReceivedBalance + received)
    (returned : module.accrueProtocolFee info world = .ok (after, fee)) :
    World.OnlyBalances world after ∧
      fee = Rounding.mulFloor preciseUnit received
        (world.controller.getModuleFee module.address protocolFeeIndex) ∧
      fee ≤ world.held info.receiveToken ∧
      after.held =
        Function.update world.held info.receiveToken (world.held info.receiveToken - fee) := by
  simp only [accrueProtocolFee, ModuleBase.getModuleFee, bind_eq_ok, SafeMath.sub_eq_ok,
    preciseMul_eq_ok, pure_eq_ok, Prod.mk.injEq] at returned
  obtain ⟨_, ⟨_, rfl⟩, _, ⟨_, rfl⟩, _, paying, rfl, rfl⟩ := returned
  rw [before, Nat.add_sub_cancel_left] at paying ⊢
  obtain ⟨only, enough, paid⟩ := ModuleBase.payProtocolFeeFromSetToken_eq_ok paying
  rw [before] at enough paid
  exact ⟨only, rfl, enough, paid⟩

/-- What a bid computes before it moves anything, and what it does. -/
theorem bid_created {adapters : Adapters} {component : Address} {amount limit : Nat}
    (returned : module.bid msgSender adapters component amount limit world = .ok after) :
    ∃ info fee paid edited,
      module.createBidInfo adapters component amount limit world = .ok info ∧
      module.BidTrade component amount world after info fee paid edited := by
  simp only [bid, updatePositionState, bind_eq_ok, pure_eq_ok, Prod.exists, SafeMath.sub_eq_ok,
    Prod.mk.injEq] at returned
  obtain ⟨_, _, _, validated, info, created, executed, executing, paid, fee, accrued, _, _, _,
    ⟨edited, _, _, _, sendEdit, _, received, _, _, receiveEdit, _, _, _, ⟨kept, _⟩, rfl, _⟩,
    rfl⟩ := returned
  obtain ⟨notQuote, member, notEnded⟩ := validateBidTargets_eq_ok validated
  obtain ⟨size, bounded, tokens, quantity, sentBefore, receivedBefore, supply⟩ :=
    createBidInfo_eq_ok created
  rw [sentBefore, supply] at sendEdit
  rw [receivedBefore, supply] at receiveEdit
  rw [receivedBefore] at kept
  have different := sendToken_ne_receiveToken notQuote tokens
  obtain ⟨first, sent, executedHeld⟩ := executeBid_eq_ok different executing
  have exchanged : executed.held info.receiveToken =
      info.preBidTokenReceivedBalance + info.quantityReceivedBySet := by
    rw [executedHeld, Function.update_of_ne different.symm, Function.update_self, receivedBefore]
  obtain ⟨second, rate, enough, paidHeld⟩ := accrueProtocolFee_eq_ok exchanged accrued
  rw [exchanged, receivedBefore] at enough
  rw [exchanged, receivedBefore, executedHeld, Function.update_comm different.symm,
    Function.update_idem] at paidHeld
  have balance : received = world.held info.receiveToken + info.quantityReceivedBySet - fee := by
    obtain ⟨_, _, _, read, _⟩ := World.calculateAndEditDefaultPosition_eq_ok receiveEdit
    rw [read, World.calculateAndEditDefaultPosition_held sendEdit, paidHeld, Function.update_self]
  refine ⟨info, fee, paid, edited, created, notQuote, member, notEnded, size, bounded, tokens,
    quantity, first.trans second, sent, ?_, ?_, paidHeld, ⟨_, sendEdit⟩, ⟨_, receiveEdit⟩⟩
  · rw [rate, first.controller]
  · rw [balance] at kept
    omega

theorem bid_eq_ok {adapters : Adapters} {component : Address} {amount limit : Nat}
    (returned : module.bid msgSender adapters component amount limit world = .ok after) :
    ∃ info fee paid edited,
      module.BidTrade component amount world after info fee paid edited := by
  obtain ⟨info, fee, paid, edited, _, trade⟩ := bid_created returned
  exact ⟨info, fee, paid, edited, trade⟩

theorem bid_keepsControl {adapters : Adapters} {component : Address} {amount limit : Nat}
    (returned : module.bid msgSender adapters component amount limit world = .ok after) :
    World.KeepsControl world after := by
  obtain ⟨_, _, _, _, trade⟩ := bid_eq_ok returned
  obtain ⟨_, sendEdit⟩ := trade.sendEdit
  obtain ⟨_, receiveEdit⟩ := trade.receiveEdit
  exact trade.onlyBalances.keepsControl.trans
    ((World.calculateAndEditDefaultPosition_keepsControl sendEdit).trans
      (World.calculateAndEditDefaultPosition_keepsControl receiveEdit))

/-! ### The two edits of a bid -/

/-- The edit of one token of a bid, from a state to another one. It starts from the supply, the
multiplier and the unit there were before the bid and from the balances it moved, and the unit
it stores is the one the bid leaves. -/
structure TokenEdit (module : AuctionRebalanceModuleV1) (token : Address)
    (world paid next start done : World) : Prop where
  edit : ∃ result, start.calculateAndEditDefaultPosition module.address token
    start.setToken.totalSupply (world.held token) = .ok (done, result)
  held : start.held = paid.held
  totalSupply : start.setToken.totalSupply = world.setToken.totalSupply
  positionMultiplier : start.setToken.positionMultiplier = world.setToken.positionMultiplier
  unitBefore : start.setToken.defaultRealUnit token = world.setToken.defaultRealUnit token
  virtualUnitAfter : next.setToken.defaultPositionVirtualUnit token =
    done.setToken.defaultPositionVirtualUnit token
  multiplierAfter : next.setToken.positionMultiplier = done.setToken.positionMultiplier

section Edits

variable {component token : Address} {amount fee : Nat} {info : BidInfo}
  {paid next edited start done : World}

theorem TokenEdit.positive (edit : module.TokenEdit token world paid next start done)
    (positive : 0 < world.setToken.positionMultiplier) :
    0 < start.setToken.positionMultiplier :=
  edit.positionMultiplier ▸ positive

theorem TokenEdit.unitAfter (edit : module.TokenEdit token world paid next start done) :
    next.setToken.defaultRealUnit token = done.setToken.defaultRealUnit token := by
  unfold SetToken.defaultRealUnit SetToken.realUnit
  rw [edit.virtualUnitAfter, edit.multiplierAfter]

namespace BidTrade

variable (positive : 0 < world.setToken.positionMultiplier)
  (trade : module.BidTrade component amount world next info fee paid edited)

include trade

theorem different : info.sendToken ≠ info.receiveToken :=
  sendToken_ne_receiveToken trade.notQuote trade.tokens

theorem totalSupply : next.setToken.totalSupply = world.setToken.totalSupply := by
  obtain ⟨_, sendEdit⟩ := trade.sendEdit
  obtain ⟨_, receiveEdit⟩ := trade.receiveEdit
  rw [World.calculateAndEditDefaultPosition_totalSupply receiveEdit,
    World.calculateAndEditDefaultPosition_totalSupply sendEdit, trade.onlyBalances.totalSupply]

theorem positionMultiplier :
    next.setToken.positionMultiplier = world.setToken.positionMultiplier := by
  obtain ⟨_, sendEdit⟩ := trade.sendEdit
  obtain ⟨_, receiveEdit⟩ := trade.receiveEdit
  rw [World.calculateAndEditDefaultPosition_positionMultiplier receiveEdit,
    World.calculateAndEditDefaultPosition_positionMultiplier sendEdit,
    trade.onlyBalances.positionMultiplier]

theorem heldAfter : next.held = paid.held := by
  obtain ⟨_, sendEdit⟩ := trade.sendEdit
  obtain ⟨_, receiveEdit⟩ := trade.receiveEdit
  rw [World.calculateAndEditDefaultPosition_held receiveEdit,
    World.calculateAndEditDefaultPosition_held sendEdit]

include positive

theorem paidPositive : 0 < paid.setToken.positionMultiplier :=
  trade.onlyBalances.positionMultiplier ▸ positive

theorem editedPositive : 0 < edited.setToken.positionMultiplier := by
  obtain ⟨_, sendEdit⟩ := trade.sendEdit
  rw [World.calculateAndEditDefaultPosition_positionMultiplier sendEdit]
  exact trade.paidPositive positive

/-- The token that was sent is edited first, and the second edit leaves it alone. -/
theorem sending : module.TokenEdit info.sendToken world paid next paid edited := by
  obtain ⟨sendResult, sendEdit⟩ := trade.sendEdit
  obtain ⟨_, receiveEdit⟩ := trade.receiveEdit
  have only := trade.onlyBalances
  rw [← only.totalSupply] at sendEdit
  exact
    { edit := ⟨sendResult, sendEdit⟩
      held := rfl
      totalSupply := only.totalSupply
      positionMultiplier := only.positionMultiplier
      unitBefore := only.defaultRealUnit _
      virtualUnitAfter := World.calculateAndEditDefaultPosition_virtualUnit
        (trade.editedPositive positive) receiveEdit trade.different
      multiplierAfter := World.calculateAndEditDefaultPosition_positionMultiplier receiveEdit }

/-- The token that was received is edited second, and the first edit has left it alone. -/
theorem receiving : module.TokenEdit info.receiveToken world paid next edited next := by
  obtain ⟨_, sendEdit⟩ := trade.sendEdit
  obtain ⟨receiveResult, receiveEdit⟩ := trade.receiveEdit
  have only := trade.onlyBalances
  have supply := World.calculateAndEditDefaultPosition_totalSupply sendEdit
  obtain ⟨_, others⟩ :=
    World.calculateAndEditDefaultPosition_frame (trade.paidPositive positive) sendEdit
  rw [← only.totalSupply, ← supply] at receiveEdit
  exact
    { edit := ⟨receiveResult, receiveEdit⟩
      held := World.calculateAndEditDefaultPosition_held sendEdit
      totalSupply := supply.trans only.totalSupply
      positionMultiplier := (World.calculateAndEditDefaultPosition_positionMultiplier
        sendEdit).trans only.positionMultiplier
      unitBefore := (others _ trade.different.symm).2.trans (only.defaultRealUnit _)
      virtualUnitAfter := rfl
      multiplierAfter := rfl }

/-- The components that are not traded stay listed with their units. -/
theorem frame : (world.setToken.components.Nodup → next.setToken.components.Nodup) ∧
    ∀ other, other ≠ info.sendToken → other ≠ info.receiveToken →
      (other ∈ next.setToken.components ↔ other ∈ world.setToken.components) ∧
      next.setToken.defaultRealUnit other = world.setToken.defaultRealUnit other := by
  obtain ⟨_, sendEdit⟩ := trade.sendEdit
  obtain ⟨_, receiveEdit⟩ := trade.receiveEdit
  have only := trade.onlyBalances
  obtain ⟨editedNodup, editedOthers⟩ :=
    World.calculateAndEditDefaultPosition_frame (trade.paidPositive positive) sendEdit
  obtain ⟨nextNodup, nextOthers⟩ :=
    World.calculateAndEditDefaultPosition_frame (trade.editedPositive positive) receiveEdit
  refine ⟨fun distinct => nextNodup (editedNodup (only.components ▸ distinct)),
    fun other sent received => ?_⟩
  obtain ⟨editedMember, editedUnit⟩ := editedOthers other sent
  obtain ⟨nextMember, nextUnit⟩ := nextOthers other received
  rw [only.components] at editedMember
  exact ⟨nextMember.trans editedMember,
    nextUnit.trans (editedUnit.trans (only.defaultRealUnit other))⟩

end BidTrade

end Edits

theorem bid_totalSupply {adapters : Adapters} {component : Address} {amount limit : Nat}
    (returned : module.bid msgSender adapters component amount limit world = .ok after) :
    after.setToken.totalSupply = world.setToken.totalSupply := by
  obtain ⟨_, _, _, _, trade⟩ := bid_eq_ok returned
  exact trade.totalSupply

theorem bid_positionMultiplier {adapters : Adapters} {component : Address} {amount limit : Nat}
    (returned : module.bid msgSender adapters component amount limit world = .ok after) :
    after.setToken.positionMultiplier = world.setToken.positionMultiplier := by
  obtain ⟨_, _, _, _, trade⟩ := bid_eq_ok returned
  exact trade.positionMultiplier

end AuctionRebalanceModuleV1

end IndexProtocol

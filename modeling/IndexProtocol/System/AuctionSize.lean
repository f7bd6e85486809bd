/-
This file bounds what the bids on one component can move while its target stays
the same. Each bid is a trade of the component towards the notional of its
target, whose tracked part is the notional of the unit; the unit is rounded
after every bid, and what the rounding drops is never bid on again. So the Set
never sells more than the first size; it buys at most that much as long as no
purchase follows a bid that dropped something, and a purchase too small to move
the unit can be repeated without end.
-/

import IndexProtocol.Library.Trading
import IndexProtocol.System.Transactions
import IndexProtocol.Modules.AuctionCalls

namespace IndexProtocol

open Revert PreciseUnitMath Trading

/-! ### Notionals -/

/-- The notional of the unit of a component: what the Set tracks of its balance. -/
def SetToken.trackedNotional (setToken : SetToken) (component : Address) : Nat :=
  Rounding.mulFloor preciseUnit setToken.totalSupply (setToken.currentUnit component)

/-- The balance of a component and its tracked part. -/
def World.account (world : World) (component : Address) : Account where
  balance := world.held component
  tracked := world.setToken.trackedNotional component

namespace AuctionRebalanceModuleV1

/-- The notional of the target of a component. -/
def targetNotional (module : AuctionRebalanceModuleV1) (setToken : SetToken)
    (component : Address) : Nat :=
  Rounding.mulCeil preciseUnit setToken.totalSupply (module.normalizedTargetUnit setToken component)

/-- A bid with its sender, its time and the prices it finds. -/
structure BidCall where
  msgSender : Address
  timestamp : Nat
  adapters : Adapters
  componentAmount : Nat
  quoteAssetLimit : Nat

def bidOn (module : AuctionRebalanceModuleV1) (component : Address) (world : World)
    (call : BidCall) : Outcome World :=
  module.bid call.msgSender call.adapters component call.componentAmount call.quoteAssetLimit
    { world with timestamp := call.timestamp }

section Size

variable {module : AuctionRebalanceModuleV1} {world next : World} {component : Address}

theorem trackedNotional_of_unit {setToken : SetToken} {unit : Nat}
    (read : setToken.defaultRealUnit component = unit) :
    setToken.trackedNotional component =
      Rounding.mulFloor preciseUnit setToken.totalSupply unit := by
  unfold SetToken.trackedNotional SetToken.currentUnit
  rw [read, Int.toNat_natCast]

/-- The size of an auction is the distance of the two notionals, plus the fee when buying. -/
theorem calculateAuctionSizeAndDirection_eq_ok {isSellAuction : Bool} {quantity : Nat}
    (positive : 0 < world.setToken.positionMultiplier)
    (returned : module.calculateAuctionSizeAndDirection component world.setToken.totalSupply world =
      .ok (isSellAuction, quantity)) :
    isSellAuction = true ∧
      module.targetNotional world.setToken component < world.setToken.trackedNotional component ∧
      quantity = world.setToken.trackedNotional component -
        module.targetNotional world.setToken component ∨
    isSellAuction = false ∧
      world.setToken.trackedNotional component ≤ module.targetNotional world.setToken component ∧
      world.controller.getModuleFee module.address protocolFeeIndex < preciseUnit ∧
      quantity = (module.targetNotional world.setToken component -
          world.setToken.trackedNotional component) * preciseUnit /
        (preciseUnit - world.controller.getModuleFee module.address protocolFeeIndex) := by
  simp only [calculateAuctionSizeAndDirection, getUnitsAndNotionalAmounts,
    Position.getDefaultTotalNotional, bind_eq_ok, require_eq_ok, exists_const, pure_eq_ok,
    Prod.exists, Prod.mk.injEq, getDefaultPositionRealUnit_eq_ok,
    getNormalizedTargetUnit_eq_ok positive.le, preciseMul_eq_ok, preciseMulCeil_eq_ok] at returned
  obtain ⟨unit, target, current, notional, ⟨_, ⟨_, read⟩, _, ⟨_, rfl⟩, _, ⟨_, rfl⟩, _, ⟨_, rfl⟩,
    rfl, rfl, rfl, rfl⟩, _, sized⟩ := returned
  rw [trackedNotional_of_unit read]
  unfold targetNotional
  split at sized
  · simp only [bind_eq_ok, SafeMath.sub_eq_ok, pure_eq_ok, Prod.mk.injEq] at sized
    obtain ⟨_, ⟨_, rfl⟩, rfl, rfl⟩ := sized
    exact Or.inl ⟨rfl, ‹_›, rfl⟩
  · simp only [bind_eq_ok, SafeMath.sub_eq_ok, preciseDiv_eq_ok, pure_eq_ok, Prod.mk.injEq]
      at sized
    obtain ⟨_, ⟨missing, rfl⟩, _, ⟨_, rfl⟩, _, ⟨_, kept, rfl⟩, rfl, rfl⟩ := sized
    exact Or.inr ⟨rfl, missing, Nat.lt_of_sub_pos kept, rfl⟩

/-- An edit from a balance tracks at most the balance without the surplus there was before. -/
theorem tracked_le_of_edit {address : Address} {before : Nat} {result : Nat × Nat × Nat}
    (positive : 0 < world.setToken.positionMultiplier)
    (returned : world.calculateAndEditDefaultPosition address component
      world.setToken.totalSupply before = .ok (next, result))
    (emptied : world.held component = 0 → before ≤ world.setToken.trackedNotional component) :
    (next.setToken.trackedNotional component : Int) ≤
      world.held component - (before - world.setToken.trackedNotional component) := by
  obtain ⟨read, _, _, _, computed, empty⟩ := World.calculateAndEditDefaultPosition_eq_ok returned
  obtain ⟨stored, readNext, bound⟩ := World.calculateAndEditDefaultPosition_unit positive returned
  have commuted := Nat.mul_comm result.2.1 world.setToken.totalSupply
  have tracked := trackedNotional_of_unit read
  have trackedNext := trackedNotional_of_unit readNext
  rw [World.calculateAndEditDefaultPosition_totalSupply returned] at trackedNext
  unfold Rounding.mulFloor at tracked trackedNext bound
  rw [commuted, ← tracked] at bound
  have most : next.setToken.trackedNotional component ≤
      world.held component - (before - world.setToken.trackedNotional component) := by
    rw [trackedNext, Nat.mul_comm]
    exact Nat.div_le_of_le_mul (bound.trans_eq (Nat.mul_comm _ _))
  rcases Nat.eq_zero_or_pos (world.held component) with zero | some
  · have enough := emptied zero
    omega
  · obtain ⟨enough, remaining, _⟩ := Position.calculateDefaultEditPositionUnit_eq_ok (computed some)
    unfold Rounding.mulFloor at enough remaining
    rw [commuted, ← tracked] at enough remaining
    omega

theorem trackedNotional_congr {setToken other : SetToken}
    (supply : other.totalSupply = setToken.totalSupply)
    (unit : other.defaultRealUnit component = setToken.defaultRealUnit component) :
    other.trackedNotional component = setToken.trackedNotional component := by
  unfold SetToken.trackedNotional SetToken.currentUnit
  rw [supply, unit]

/-- The edit of one token of a bid does not let the surplus of that token shrink. -/
theorem TokenEdit.surplus {amount fee : Nat} {info : BidInfo} {paid edited start done : World}
    {token : Address} (positive : 0 < world.setToken.positionMultiplier)
    (trade : module.BidTrade component amount world next info fee paid edited)
    (edit : module.TokenEdit token world paid next start done)
    (emptied : paid.held token = 0 → world.held token ≤ world.setToken.trackedNotional token) :
    (world.account token).surplus ≤ (next.account token).surplus := by
  obtain ⟨_, returned⟩ := edit.edit
  have before := trackedNotional_congr edit.totalSupply edit.unitBefore
  have doneSupply := World.calculateAndEditDefaultPosition_totalSupply returned
  have after : next.setToken.trackedNotional token = done.setToken.trackedNotional token := by
    refine trackedNotional_congr ?_ edit.unitAfter
    rw [trade.totalSupply, doneSupply, edit.totalSupply]
  have bound := tracked_le_of_edit (edit.positive positive) returned
    (by rw [before, edit.held]; exact emptied)
  rw [← after, before, edit.held] at bound
  unfold Account.surplus World.account
  rw [trade.heldAfter]
  linarith

/-- A bid is a trade of the component towards the notional of its target, and keeps what that
notional is computed from. -/
theorem bid_trade {msgSender : Address} {adapters : Adapters} {amount limit : Nat}
    (positive : 0 < world.setToken.positionMultiplier)
    (returned : module.bid msgSender adapters component amount limit world = .ok next) :
    next.setToken.positionMultiplier = world.setToken.positionMultiplier ∧
    module.targetNotional next.setToken component =
      module.targetNotional world.setToken component ∧
    ∃ quantity : Nat, (0 < quantity → 0 < amount) ∧ (0 < amount → 0 < quantity) ∧
      Trade (module.targetNotional world.setToken component) quantity (world.account component)
        (next.account component) := by
  obtain ⟨info, fee, paid, edited, trade⟩ := bid_eq_ok returned
  have held := congrFun trade.heldAfter component
  have bounded := trade.bounded
  refine ⟨trade.positionMultiplier, ?_, ?_⟩
  · unfold targetNotional normalizedTargetUnit
    rw [trade.totalSupply, trade.positionMultiplier]
  rcases calculateAuctionSizeAndDirection_eq_ok positive trade.size with
    ⟨sells, above, size⟩ | ⟨buys, below, feeBelow, size⟩
  · have tokens := trade.tokens
    have quantity := trade.quantity
    simp only [sells, getSendAndReceiveTokens, if_true, Prod.mk.injEq] at tokens quantity
    obtain ⟨sent, _⟩ := tokens
    have enough := trade.sent
    have paidHeld : paid.held component = world.held component - amount := by
      rw [trade.held, ← sent, Function.update_of_ne trade.different, Function.update_self,
        quantity]
    rw [sent, quantity] at enough
    have surplus := TokenEdit.surplus positive trade (sent ▸ trade.sending positive) (by omega)
    refine ⟨amount, id, id, surplus, Or.inl ⟨?_, ?_, ?_⟩⟩
    · exact Int.ofNat_lt.mpr above
    · show (amount : Int) ≤ world.setToken.trackedNotional component -
        module.targetNotional world.setToken component
      omega
    · show (next.held component : Int) = world.held component - amount
      omega
  · have tokens := trade.tokens
    have quantity := trade.quantity
    simp only [buys, getSendAndReceiveTokens, Bool.false_eq_true, if_false, Prod.mk.injEq]
      at tokens quantity
    obtain ⟨_, received⟩ := tokens
    have feeRate := trade.feeRate
    have feeBounded := trade.feeBounded
    have paidHeld : paid.held component = world.held component + amount - fee := by
      rw [trade.held, ← received, Function.update_self, quantity]
    rw [quantity] at feeRate feeBounded
    rw [size] at bounded
    have net := Rounding.sub_mulFloor_le feeBelow bounded
    rw [← feeRate] at net
    have surplus := TokenEdit.surplus positive trade (received ▸ trade.receiving positive)
      (by omega)
    refine ⟨amount - fee, by omega, fun some => ?_, surplus, Or.inr ⟨?_, ?_, ?_⟩⟩
    · have less := Rounding.mulFloor_lt feeBelow some
      omega
    · exact Int.ofNat_le.mpr below
    · show ((amount - fee : Nat) : Int) ≤ module.targetNotional world.setToken component -
        world.setToken.trackedNotional component
      omega
    · show (next.held component : Int) = world.held component + (amount - fee : Nat)
      omega

/-! ### Sequences of bids -/

/-- The time at which a bid is made does not matter. -/
theorem bidOn_trade {call : BidCall} (positive : 0 < world.setToken.positionMultiplier)
    (returned : module.bidOn component world call = .ok next) :
    next.setToken.positionMultiplier = world.setToken.positionMultiplier ∧
    module.targetNotional next.setToken component =
      module.targetNotional world.setToken component ∧
    ∃ quantity : Nat, (0 < quantity ↔ 0 < call.componentAmount) ∧
      Trade (module.targetNotional world.setToken component) quantity (world.account component)
        (next.account component) := by
  unfold bidOn at returned
  obtain ⟨multiplier, targets, quantity, amount, some, trade⟩ :=
    bid_trade (by exact positive) returned
  exact ⟨multiplier, targets, quantity, ⟨amount, some⟩, trade⟩

/-- Whatever bids are made, selling leaves the target over the first surplus. -/
theorem bids_sold (start : Account) (target : Int) (calls : List BidCall) :
    ∀ world final : World, 0 < world.setToken.positionMultiplier →
      (module.targetNotional world.setToken component : Int) = target →
      Sold target start (world.account component) →
      calls.foldlM (module.bidOn component) world = .ok final →
      Sold target start (final.account component) := by
  induction calls with
  | nil =>
    intro world final _ _ kept returned
    exact (pure_eq_ok _ _).mp returned ▸ kept
  | cons call rest inductionHypothesis =>
    intro world final positive same kept returned
    rw [List.foldlM_cons, bind_eq_ok] at returned
    obtain ⟨next, first, remaining⟩ := returned
    obtain ⟨multiplier, targets, _, _, trade⟩ := bidOn_trade positive first
    refine inductionHypothesis next final (multiplier ▸ positive) (targets ▸ same) ?_ remaining
    exact kept.trade (same ▸ trade)

/-- If every purchase finds the surplus that there was at first, the bids settle the first
size. -/
theorem bids_settled (start : Account) (target : Int) (calls : List BidCall) :
    ∀ (world final : World) (trades : Nat), 0 < world.setToken.positionMultiplier →
      (module.targetNotional world.setToken component : Int) = target →
      Settled target start (world.account component) trades →
      calls.foldlM (module.bidOn component) world = .ok final →
      (∀ before call after reached, calls = before ++ call :: after →
        before.foldlM (module.bidOn component) world = .ok reached → 0 < call.componentAmount →
        (reached.account component).tracked < target →
        (reached.account component).surplus ≤ start.surplus) →
      Settled target start (final.account component)
        (trades + calls.countP fun call => 0 < call.componentAmount) := by
  induction calls with
  | nil =>
    intro world final trades _ _ kept returned _
    exact (pure_eq_ok _ _).mp returned ▸ kept
  | cons call rest inductionHypothesis =>
    intro world final trades positive same kept returned lossless
    rw [List.foldlM_cons, bind_eq_ok] at returned
    obtain ⟨next, first, remaining⟩ := returned
    obtain ⟨multiplier, targets, quantity, moves, trade⟩ := bidOn_trade positive first
    have traded := kept.trade (same ▸ trade) fun some below =>
      lossless [] call rest world rfl rfl (moves.mp some) below
    have count : (call :: rest).countP (fun call => 0 < call.componentAmount) =
        (if 0 < quantity then 1 else 0) + rest.countP fun call => 0 < call.componentAmount := by
      simp only [List.countP_cons, decide_eq_true_eq, moves, Nat.add_comm]
    rw [count, ← Nat.add_assoc]
    refine inductionHypothesis next final _ (multiplier ▸ positive) (targets ▸ same) traded
      remaining fun before other after reached split bids => ?_
    refine lossless (call :: before) other after reached (congrArg (call :: ·) split) ?_
    rw [List.foldlM_cons, bind_eq_ok]
    exact ⟨next, first, bids⟩

/-- Each bid that buys finds no more surplus of the component than there was at first. -/
def FindsFirstSurplus (module : AuctionRebalanceModuleV1) (component : Address) (world : World)
    (calls : List BidCall) : Prop :=
  ∀ before call after reached, calls = before ++ call :: after →
    before.foldlM (module.bidOn component) world = .ok reached → 0 < call.componentAmount →
    reached.setToken.trackedNotional component < module.targetNotional world.setToken component →
    (reached.account component).surplus ≤ (world.account component).surplus

/-- Above its target a component is never sold for more than its size, whatever is bought back.
Below it the Set never receives more than the size, and only so many bids move anything, if
each purchase finds the first surplus. -/
theorem bids_within_size (calls : List BidCall) {final : World}
    (positive : 0 < world.setToken.positionMultiplier)
    (returned : calls.foldlM (module.bidOn component) world = .ok final) :
    let unit := world.setToken.currentUnit component
    let target := module.normalizedTargetUnit world.setToken component
    let size : Int := world.setToken.trackedNotional component -
      module.targetNotional world.setToken component
    (target < unit → 0 ≤ size → (world.held component : Int) - final.held component ≤ size) ∧
    (module.FindsFirstSurplus component world calls →
      (unit < target → (final.held component : Int) - world.held component ≤ -size) ∧
      ((calls.countP fun call => 0 < call.componentAmount : Nat) : Int) ≤ |size|) := by
  intro unit target size
  refine ⟨fun _ above => ?_, fun lossless => ?_⟩
  · have sold := (bids_sold _ _ calls world final positive rfl (.refl _ _) returned).balance
      (by simpa [size, World.account] using above)
    simp only [Account.surplus, World.account] at sold
    omega
  · have settled := bids_settled _ _ calls world final 0 positive rfl (.refl _ _) returned
      fun before call after reached split bids some below =>
        lossless before call after reached split bids some (Int.ofNat_lt.mp below)
    rw [Nat.zero_add] at settled
    refine ⟨fun order => ?_, settled.trades_le⟩
    have below : world.setToken.trackedNotional component ≤
        module.targetNotional world.setToken component :=
      Rounding.mulFloor_le_mulCeil preciseUnit_pos order.le
    have bought := (settled.bought (Int.ofNat_le.mpr below)).1
    simp only [Account.surplus, World.account] at bought
    omega

end Size

/-- A Set of supply two whose component 4 has no unit and a target of one, to be bought for
token 3. -/
def sampleSizeWorld : World :=
  { System.sample.world with
    setToken :=
      { SetToken.construct 2 [3] [5 * 10 ^ 17] [10, 11, 12] 5 with
        totalSupply := 2 * 10 ^ 18
        moduleStates := fun _ => .initialized } }

def sampleSizeAuction : AuctionRebalanceModuleV1 :=
  { deployed 11 with
    executionInfo := fun _ => System.sampleParams 1
    permissionInfo :=
      { isAnyoneAllowedToBid := true, biddersHistory := [], bidAllowList := fun _ => false }
    rebalanceInfo :=
      { quoteAsset := 3, rebalanceStartTime := 1000, rebalanceDuration := 100,
        positionMultiplier := 10 ^ 18, raiseTargetPercentage := 0,
        rebalanceComponents := [3, 4] } }

def sampleBid (componentAmount : Nat) : BidCall where
  msgSender := 7
  timestamp := 1010
  adapters := System.sampleAdapters
  componentAmount := componentAmount
  quoteAssetLimit := 0

/-- The same auction with a target of two, a size of four. -/
def sampleDoubledAuction : AuctionRebalanceModuleV1 :=
  { sampleSizeAuction with executionInfo := fun _ => System.sampleParams 2 }

/-- Two bids of two fill the size, and the second finds the surplus of the first. -/
theorem bids_within_size_sample :
    ∃ final, [sampleBid 2, sampleBid 2].foldlM (sampleDoubledAuction.bidOn 4) sampleSizeWorld =
        .ok final ∧
      final.held 4 = sampleSizeWorld.held 4 + 4 ∧
      (final.held 4 : Int) - sampleSizeWorld.held 4 ≤ 4 := by
  have returned : returns ([sampleBid 2, sampleBid 2].foldlM (sampleDoubledAuction.bidOn 4)
      sampleSizeWorld) (fun final => decide (final.held 4 = sampleSizeWorld.held 4 + 4)) =
        true := by
    decide +kernel
  obtain ⟨final, bids, received⟩ := exists_of_returns returned
  have lossless :
      sampleDoubledAuction.FindsFirstSurplus 4 sampleSizeWorld [sampleBid 2, sampleBid 2] := by
    intro before call after reached split earlier _ _
    match before with
    | [] => exact (congrArg (fun world => (World.account world 4).surplus)
        ((pure_eq_ok _ _).mp earlier)).ge
    | [first] =>
      obtain rfl : first = sampleBid 2 := (List.cons.inj split).1.symm
      have settles : returns ([sampleBid 2].foldlM (sampleDoubledAuction.bidOn 4) sampleSizeWorld)
          (fun middle => decide ((middle.account 4).surplus ≤
            (sampleSizeWorld.account 4).surplus)) = true := by
        decide +kernel
      obtain ⟨middle, bid, settled⟩ := exists_of_returns settles
      obtain rfl := Except.ok.inj (earlier.symm.trans bid)
      exact of_decide_eq_true settled
    | _ :: _ :: rest =>
      have length := congrArg List.length split
      simp only [List.length_append, List.length_cons, List.length_nil] at length
      omega
  have bound := ((bids_within_size [sampleBid 2, sampleBid 2] (by decide) bids).2 lossless).1
    (by decide)
  have tracked : sampleSizeWorld.setToken.trackedNotional 4 = 0 := by decide
  have target : sampleDoubledAuction.targetNotional sampleSizeWorld.setToken 4 = 4 := by decide
  rw [tracked, target] at bound
  exact ⟨final, bids, of_decide_eq_true received, bound⟩

/-- Purchases too small to move the unit together exceed the size. -/
theorem bids_exceed_size :
    ¬∀ (module : AuctionRebalanceModuleV1) (world final : World) (component : Address)
        (calls : List BidCall), 0 < world.setToken.totalSupply →
      0 < world.setToken.positionMultiplier →
      calls.foldlM (module.bidOn component) world = .ok final →
      world.setToken.currentUnit component < module.normalizedTargetUnit world.setToken component →
      (final.held component : Int) - world.held component ≤
        module.targetNotional world.setToken component -
          world.setToken.trackedNotional component := by
  intro bounded
  have returned : returns ([sampleBid 1, sampleBid 1, sampleBid 1].foldlM
      (sampleSizeAuction.bidOn 4) sampleSizeWorld) (fun final =>
        decide (final.held 4 = sampleSizeWorld.held 4 + 3)) = true := by
    decide +kernel
  obtain ⟨final, bids, received⟩ := exists_of_returns returned
  have bound := bounded sampleSizeAuction sampleSizeWorld final 4 _ (by decide) (by decide) bids
    (by decide)
  rw [of_decide_eq_true received] at bound
  exact absurd bound (by decide)

end AuctionRebalanceModuleV1

end IndexProtocol

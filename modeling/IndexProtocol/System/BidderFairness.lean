/-
This file proves that bidders cannot wear down a Set, whatever bids, issuances
and redemptions they combine. Its net asset value is what one Set is worth at
some prices of its components in the quote asset. A bid whose price beats these,
net of the protocol's fee, is a gain for the Set, and only the truncation of the
two units that it edits can lower the value: by a few base units of each token
for every bid, more the smaller the supply. Issuing and redeeming leave it.
-/

import IndexProtocol.Library.Portfolio
import IndexProtocol.System.AuctionSettlement
import IndexProtocol.System.AuctionUnlock
import IndexProtocol.System.Solvency
import Mathlib.Algebra.BigOperators.Ring.List

namespace IndexProtocol

open Revert PreciseUnitMath

/-- What one Set is worth, in multiples of the two scales. -/
def SetToken.netAssetValue (setToken : SetToken) (prices : PriceList Address) : Int :=
  prices.worth setToken.defaultRealUnit

/-- A Set whose books are in order and covered by what it holds. -/
structure SoundSet (world : World) : Prop where
  bookkeeping : PositionBookkeeping world.setToken
  bounded : world.setToken.positionMultiplier ≤ preciseUnit
  solvent : world.fund.Solvent (preciseUnit : Int)

/-- What is not a component has no unit, so every token is covered. -/
theorem SoundSet.covered {world : World} (sound : SoundSet world) (token : Address) :
    Covers (preciseUnit : Int) world.setToken.totalSupply (world.setToken.defaultRealUnit token)
      (world.held token) := by
  by_cases member : token ∈ world.setToken.components
  · exact sound.solvent token member
  · have untracked := mt (sound.bookkeeping.mem_components_iff token).mpr member
    have closed : world.setToken.defaultPositionVirtualUnit token = 0 :=
      le_antisymm (not_lt.mp fun opened => untracked (Or.inl opened))
        (sound.bookkeeping.positions token).defaultNonneg
    have unit : world.setToken.defaultRealUnit token = 0 := by
      unfold SetToken.defaultRealUnit SetToken.realUnit
      rw [closed, zero_mul, Int.zero_ediv]
    rw [unit, Covers, mul_zero]
    exact mul_nonneg (Int.natCast_nonneg _) preciseUnit_int_pos.le

theorem SoundSet.accounted {world next : World} (sound : SoundSet world)
    (bookkeeping : PositionBookkeeping next.setToken) (accounted : Accounted world next) :
    SoundSet next where
  bookkeeping := bookkeeping
  bounded := accounted.multiplier ▸ sound.bounded
  solvent := Fund.solvent_of_steps preciseUnit_int_pos.le accounted.steps sound.solvent

namespace AuctionRebalanceModuleV1

/-! ### One bid -/

/-- The bid trades at the given price of the component or at a better one for the Set, net of
the fee. -/
def FairPrice (fee price : Nat) (info : BidInfo) : Prop :=
  if info.isSellAuction = true then price * preciseUnit ≤ info.componentPrice * (preciseUnit - fee)
  else info.componentPrice * preciseUnit ≤ price * (preciseUnit - fee)

variable {module : AuctionRebalanceModuleV1} {world next : World} {component msgSender : Address}
  {adapters : Adapters} {amount limit : Nat} {info : BidInfo}

/-- The quote asset that the Set sends is rounded down, and what it receives is rounded up. -/
theorem createBidInfo_quote
    (created : module.createBidInfo adapters component amount limit world = .ok info) :
    (if info.isSellAuction = true then info.quantityReceivedBySet else info.quantitySentBySet) =
      if info.isSellAuction = true then Rounding.mulCeil preciseUnit amount info.componentPrice
      else Rounding.mulFloor preciseUnit amount info.componentPrice := by
  simp only [createBidInfo, bind_eq_ok, require_eq_ok, exists_const, pure_eq_ok, Prod.exists]
    at created
  obtain ⟨_, _, isSellAuction, _, _, _, _, _, _, _, _, quote, _, _, rfl⟩ := created
  cases isSellAuction with
  | true =>
    simp only [calculateQuoteAssetQuantity, if_true, preciseMulCeil_eq_ok] at quote
    simp only [calculateQuantitiesForBid, if_true]
    exact quote.2.symm
  | false =>
    simp only [calculateQuoteAssetQuantity, Bool.false_eq_true, if_false, preciseMul_eq_ok]
      at quote
    simp only [calculateQuantitiesForBid, Bool.false_eq_true, if_false]
    exact quote.2.symm

/-- What a sale at a fair price brings is worth what was sold. -/
theorem sale_gains (amount : Nat) {price fee componentPrice : Nat}
    (fair : price * preciseUnit ≤ componentPrice * (preciseUnit - fee)) :
    let quote := Rounding.mulCeil preciseUnit amount componentPrice
    amount * price ≤ (quote - Rounding.mulFloor preciseUnit quote fee) * preciseUnit := by
  intro quote
  refine Nat.le_of_mul_le_mul_right ?_ preciseUnit_pos
  calc amount * price * preciseUnit = amount * (price * preciseUnit) := Nat.mul_assoc _ _ _
    _ ≤ amount * (componentPrice * (preciseUnit - fee)) := Nat.mul_le_mul_left _ fair
    _ = amount * componentPrice * (preciseUnit - fee) := (Nat.mul_assoc _ _ _).symm
    _ ≤ quote * preciseUnit * (preciseUnit - fee) :=
        Nat.mul_le_mul_right _ (Rounding.le_mulCeil_mul _ _ _ preciseUnit_pos)
    _ = quote * (preciseUnit - fee) * preciseUnit := Nat.mul_right_comm _ _ _
    _ ≤ (quote - Rounding.mulFloor preciseUnit quote fee) * preciseUnit * preciseUnit :=
        Nat.mul_le_mul_right _ (Rounding.mul_complement_le preciseUnit quote fee)

/-- What a purchase at a fair price costs is not more than what was bought is worth. -/
theorem purchase_gains (amount : Nat) {price fee componentPrice : Nat}
    (fair : componentPrice * preciseUnit ≤ price * (preciseUnit - fee)) :
    let quote := Rounding.mulFloor preciseUnit amount componentPrice
    quote * preciseUnit ≤ (amount - Rounding.mulFloor preciseUnit amount fee) * price := by
  intro quote
  refine Nat.le_of_mul_le_mul_right ?_ preciseUnit_pos
  calc quote * preciseUnit * preciseUnit ≤ amount * componentPrice * preciseUnit :=
        Nat.mul_le_mul_right _ (Rounding.mulFloor_mul_le _ _ _)
    _ = amount * (componentPrice * preciseUnit) := Nat.mul_assoc _ _ _
    _ ≤ amount * (price * (preciseUnit - fee)) := Nat.mul_le_mul_left _ fair
    _ = amount * (preciseUnit - fee) * price := by ring
    _ ≤ (amount - Rounding.mulFloor preciseUnit amount fee) * preciseUnit * price :=
        Nat.mul_le_mul_right _ (Rounding.mul_complement_le preciseUnit amount fee)
    _ = (amount - Rounding.mulFloor preciseUnit amount fee) * price * preciseUnit :=
        Nat.mul_right_comm _ _ _

/-- The unit of a token follows its balance but for the truncation of one base unit and of two
units of the supply. -/
theorem TokenEdit.unit_kept {token : Address} {paid start done : World} (sound : SoundSet world)
    (supplied : 0 < world.setToken.totalSupply)
    (edit : module.TokenEdit token world paid next start done) :
    world.setToken.defaultRealUnit token * world.setToken.totalSupply +
        ((paid.held token : Int) - world.held token) * preciseUnit ≤
      next.setToken.defaultRealUnit token * world.setToken.totalSupply +
        (preciseUnit + 2 * world.setToken.totalSupply) := by
  obtain ⟨stored, read, _, settled⟩ :=
    edit.stored sound.bookkeeping.multiplierPositive sound.bounded
  rw [read]
  rcases settled with ⟨empty, none⟩ | ⟨_, settled⟩
  · have covered := sound.covered token
    unfold Covers at covered
    rw [empty, none]
    push_cast
    linarith [preciseUnit_int_pos]
  · have unit : world.setToken.defaultRealUnit token * world.setToken.totalSupply <
        (world.setToken.trackedNotional token + 1) * preciseUnit := by
      have below := Nat.lt_mul_div_succ
        (world.setToken.totalSupply * world.setToken.currentUnit token) preciseUnit_pos
      rw [mul_comm preciseUnit] at below
      refine lt_of_le_of_lt ?_ (Int.ofNat_lt.mpr below)
      rw [Nat.cast_mul, mul_comm]
      exact mul_le_mul_of_nonneg_left (Int.self_le_toNat _) (Int.natCast_nonneg _)
    -- The edit subtracts the untracked surplus in the natural numbers.
    let remaining := paid.held token - (world.held token - world.setToken.trackedNotional token)
    have balance : (paid.held token : Int) - world.held token +
        world.setToken.trackedNotional token ≤ remaining := by omega
    have quotient : remaining * preciseUnit < world.setToken.totalSupply * (stored + 2) := by
      refine (Nat.lt_mul_div_succ (remaining * preciseUnit) supplied).trans_le ?_
      exact Nat.mul_le_mul_left _ (Nat.succ_le_succ settled.atLeast)
    have scaled := mul_le_mul_of_nonneg_right balance preciseUnit_int_pos.le
    have spread := Int.ofNat_lt.mpr quotient
    push_cast at spread
    linarith

/-- What a bid at a fair price changes is worth something to the Set. -/
theorem BidTrade.gains {fee : Nat} {paid edited : World} {prices : PriceList Address}
    (trade : module.BidTrade component amount world next info fee paid edited)
    (created : module.createBidInfo adapters component amount limit world = .ok info)
    (quote : prices.price module.rebalanceInfo.quoteAsset = preciseUnit)
    (fair : FairPrice (world.controller.getModuleFee module.address protocolFeeIndex)
      (prices.price component) info) :
    0 ≤ ((paid.held info.sendToken : Int) - world.held info.sendToken) *
          prices.price info.sendToken +
        ((paid.held info.receiveToken : Int) - world.held info.receiveToken) *
          prices.price info.receiveToken ∧
      prices.price info.sendToken + prices.price info.receiveToken =
        prices.price component + preciseUnit := by
  have quantities := createBidInfo_quote created
  have tokens := trade.tokens
  have quantity := trade.quantity
  have sent := trade.sent
  have rate := trade.feeRate
  have bounded := trade.feeBounded
  have paidSent : (paid.held info.sendToken : Int) - world.held info.sendToken =
      -info.quantitySentBySet := by
    rw [trade.held, Function.update_of_ne trade.different, Function.update_self]
    omega
  have paidReceived : (paid.held info.receiveToken : Int) - world.held info.receiveToken =
      (info.quantityReceivedBySet - fee : Nat) := by
    rw [trade.held, Function.update_self]
    omega
  rw [paidSent, paidReceived, rate]
  unfold FairPrice at fair
  rcases selling : info.isSellAuction with _ | _
  · simp only [selling, getSendAndReceiveTokens, Bool.false_eq_true, if_false, Prod.mk.injEq]
      at tokens quantity quantities fair
    obtain ⟨sendToken, receiveToken⟩ := tokens
    rw [sendToken, receiveToken, quote, quantity, quantities]
    have gained := Int.ofNat_le.mpr (purchase_gains amount fair)
    push_cast at gained
    refine ⟨?_, Nat.add_comm _ _⟩
    linarith
  · simp only [selling, getSendAndReceiveTokens, if_true, Prod.mk.injEq]
      at tokens quantity quantities fair
    obtain ⟨sendToken, receiveToken⟩ := tokens
    rw [sendToken, receiveToken, quote, quantity, quantities]
    have gained := Int.ofNat_le.mpr (sale_gains amount fair)
    push_cast at gained
    refine ⟨?_, rfl⟩
    linarith

/-- A bid at a fair price lowers the net asset value by at most its truncations. -/
theorem bid_netAssetValue {prices : PriceList Address} {scarcity : Nat} (sound : SoundSet world)
    (scarce : preciseUnit ≤ scarcity * world.setToken.totalSupply)
    (quote : prices.price module.rebalanceInfo.quoteAsset = preciseUnit)
    (fair : ∀ info, module.createBidInfo adapters component amount limit world = .ok info →
      FairPrice (world.controller.getModuleFee module.address protocolFeeIndex)
        (prices.price component) info)
    (returned : module.bid msgSender adapters component amount limit world = .ok next) :
    world.setToken.netAssetValue prices ≤ next.setToken.netAssetValue prices +
      ((scarcity + 2) * (prices.price component + preciseUnit) : Nat) := by
  obtain ⟨info, fee, paid, edited, created, trade⟩ := bid_created returned
  have positive := sound.bookkeeping.multiplierPositive
  have supplied : 0 < world.setToken.totalSupply :=
    Nat.pos_of_mul_pos_left (preciseUnit_pos.trans_le scarce)
  obtain ⟨gains, total⟩ := trade.gains created quote (fair info created)
  have sent := mul_le_mul_of_nonneg_right
    ((trade.sending positive).unit_kept sound supplied)
    (Int.natCast_nonneg (prices.price info.sendToken))
  have received := mul_le_mul_of_nonneg_right
    ((trade.receiving positive).unit_kept sound supplied)
    (Int.natCast_nonneg (prices.price info.receiveToken))
  have changed := prices.worth_of_pair trade.different
    fun token sentOther receivedOther => ((trade.frame positive).2 token sentOther receivedOther).2
  have weight : (prices.price info.sendToken : Int) + prices.price info.receiveToken =
      prices.price component + preciseUnit := by exact_mod_cast total
  have rounded : ((preciseUnit : Int) + 2 * world.setToken.totalSupply) *
        (prices.price info.sendToken + prices.price info.receiveToken) ≤
      world.setToken.totalSupply *
        (((scarcity : Int) + 2) * (prices.price component + preciseUnit)) := by
    rw [weight, ← mul_assoc]
    refine mul_le_mul_of_nonneg_right ?_ (by positivity)
    have := Int.ofNat_le.mpr scarce
    push_cast at this
    linarith
  have scaled := mul_nonneg gains preciseUnit_int_pos.le
  have supply : (0 : Int) < world.setToken.totalSupply := Int.natCast_pos.mpr supplied
  unfold SetToken.netAssetValue
  rw [changed]
  push_cast
  refine le_of_mul_le_mul_left ?_ supply
  linarith

end AuctionRebalanceModuleV1

/-! ### Issuance and redemption -/

/-- A change of the ERC20 part of the Set alone leaves its books and its value. -/
theorem SoundSet.of_token {world next : World} (sound : SoundSet world) (token : ERC20)
    (stored : next.setToken = { world.setToken with toERC20 := token })
    (accounted : Accounted world next) (prices : PriceList Address) :
    SoundSet next ∧
      next.setToken.netAssetValue prices = world.setToken.netAssetValue prices := by
  refine ⟨sound.accounted ?_ accounted, ?_⟩
  · rw [stored]
    exact sound.bookkeeping.congr ⟨rfl, rfl, rfl⟩
  · rw [stored]
    rfl

section Issuance

variable {module : BasicIssuanceModule} {world next : World} {msgSender recipient : Address}
  {quantity : Nat}

theorem completeIssue_netAssetValue (sound : SoundSet world) (prices : PriceList Address)
    (returned : module.completeIssue msgSender quantity recipient world = .ok next) :
    SoundSet next ∧
      next.setToken.netAssetValue prices = world.setToken.netAssetValue prices := by
  obtain ⟨collected, only, _, minting, stored⟩ := BasicIssuanceModule.completeIssue_eq_ok returned
  obtain ⟨_, written⟩ := SetToken.mint_eq_ok minting
  obtain ⟨_, _, moved⟩ := only.setToken
  refine sound.of_token next.setToken.toERC20 ?_ (completeIssue_accounted returned) prices
  rw [written, moved]

theorem redeem_netAssetValue (sound : SoundSet world) (prices : PriceList Address)
    (other : msgSender ≠ world.setToken.address)
    (returned : module.redeem msgSender quantity recipient world = .ok next) :
    SoundSet next ∧
      next.setToken.netAssetValue prices = world.setToken.netAssetValue prices := by
  have distinct := sound.bookkeeping.components.nodup
  obtain ⟨burned, burning, stored, only, _⟩ := BasicIssuanceModule.redeem_eq_ok distinct returned
  obtain ⟨_, _, written⟩ := SetToken.burn_eq_ok burning
  obtain ⟨_, _, moved⟩ := only.setToken
  refine sound.of_token next.setToken.toERC20 ?_ (redeem_accounted other distinct returned) prices
  rw [moved, written]

end Issuance

/-! ### Transactions and runs -/

/-- Prices with a ceiling, and the inverse of the least supply that bids find. -/
structure Market extends PriceList Address where
  ceiling : Nat
  price_le : ∀ token, price token ≤ ceiling
  scarcity : Nat

/-- What a bid may cost the holder of one Set. -/
def Market.loss (market : Market) : Nat := (market.scarcity + 2) * (market.ceiling + preciseUnit)

namespace System

/-- The prices are in the quote asset, the supply is not below the least, and the bid trades at
the price of the component or at a better one for the Set. -/
structure BidsFairly (market : Market) (system : System) (adapters : Adapters)
    (component : Address) (componentAmount quoteAssetLimit : Nat) : Prop where
  quote : market.price system.auction.rebalanceInfo.quoteAsset = preciseUnit
  scarce : preciseUnit ≤ market.scarcity * system.world.setToken.totalSupply
  fair : ∀ info, system.auction.createBidInfo adapters component componentAmount quoteAssetLimit
      system.world = .ok info →
    AuctionRebalanceModuleV1.FairPrice (system.world.controller.getModuleFee
      system.auction.address AuctionRebalanceModuleV1.protocolFeeIndex) (market.price component) info

/-- Takes nothing from the Set but by a bid at a fair price. -/
structure FairTransaction (market : Market) (system : System) (transaction : Transaction) : Prop
    where
  outside : transaction.Outside system.world.setToken.address
  bid : ∀ adapters component componentAmount quoteAssetLimit,
    transaction.operation = .bid adapters component componentAmount quoteAssetLimit →
      BidsFairly market system adapters component componentAmount quoteAssetLimit

/-- Every transaction that the action makes is fair in the state it finds, those of the hook of
an issuance too. -/
def FairAction (market : Market) (system : System) : Action → Prop
  | .transact transaction => FairTransaction market system transaction
  | .issue _ _ _ hook =>
    ∀ transactions, hook = .ok transactions →
      ∀ front transaction next, front ++ [transaction] <+: transactions →
        operate (run operate system front) transaction = .ok next →
          FairTransaction market (run operate system front) transaction
  | .redeem msgSender _ _ => msgSender ≠ system.world.setToken.address

def bidsOfTransaction (transaction : Transaction) : Nat :=
  match transaction.operation with
  | .bid _ _ _ _ => 1
  | _ => 0

def bidsOfAction : Action → Nat
  | .transact transaction => bidsOfTransaction transaction
  | .issue _ _ _ (.ok transactions) => (transactions.map bidsOfTransaction).sum
  | .issue _ _ _ (.error _) => 0
  | .redeem _ _ _ => 0

variable {market : Market} {system next : System}

theorem operate_netAssetValue {transaction : Transaction} (sound : SoundSet system.world)
    (fair : FairTransaction market system transaction)
    (returned : system.operate transaction = .ok next) :
    SoundSet next.world ∧
      system.world.setToken.netAssetValue market.toPriceList ≤
        next.world.setToken.netAssetValue market.toPriceList +
          (bidsOfTransaction transaction * market.loss : Nat) := by
  have accounted := operate_accounted sound.bookkeeping.multiplierPositive fair.outside returned
  have bookkeeping := (operate_bookkeeping sound.bookkeeping returned).1
  refine ⟨sound.accounted bookkeeping accounted, ?_⟩
  have unchanged : World.KeepsPositions system.world next.world →
      system.world.setToken.netAssetValue market.toPriceList ≤
        next.world.setToken.netAssetValue market.toPriceList +
          (bidsOfTransaction transaction * market.loss : Nat) := by
    intro positions
    unfold SetToken.netAssetValue
    rw [funext positions.samePositions.defaultRealUnit]
    exact le_add_of_nonneg_right (Int.natCast_nonneg _)
  have outside := fair.outside
  unfold Transaction.Outside at outside
  cases operate_impact returned with
  | quiet addresses positions => exact unchanged positions
  | moved addresses only => exact unchanged only.keepsPositions
  | traded addresses adapters component componentAmount quoteAssetLimit bid fee operation =>
    have fairly := fair.bid adapters component componentAmount quoteAssetLimit operation
    have kept := AuctionRebalanceModuleV1.bid_netAssetValue sound fairly.scarce fairly.quote
      fairly.fair bid
    have cost : (market.scarcity + 2) * (market.price component + preciseUnit) ≤
        bidsOfTransaction transaction * market.loss := by
      unfold bidsOfTransaction Market.loss
      rw [operation, Nat.one_mul]
      exact Nat.mul_le_mul_left _ (Nat.add_le_add_right (market.price_le component) _)
    exact kept.trans (add_le_add_right (Int.ofNat_le.mpr cost) _)
  | accrued addresses operation =>
    rw [operation] at outside
    exact outside.elim
  | repriced addresses newFee operation =>
    rw [operation] at outside
    exact outside.elim

theorem step_netAssetValue {action : Action} (sound : SoundSet system.world)
    (fair : FairAction market system action) (returned : step system action = .ok next) :
    SoundSet next.world ∧
      system.world.setToken.netAssetValue market.toPriceList ≤
        next.world.setToken.netAssetValue market.toPriceList +
          (bidsOfAction action * market.loss : Nat) := by
  cases action with
  | transact transaction => exact operate_netAssetValue sound fair returned
  | issue msgSender quantity recipient hook =>
    simp only [step, issue, onWorld, bind_eq_ok, pure_eq_ok] at returned
    obtain ⟨_, _, hooked, calling, world, completed, rfl⟩ := returned
    -- The hook is a run of transactions of its own, before the issuance is completed.
    have reached : SoundSet hooked.world ∧
        system.world.setToken.netAssetValue market.toPriceList ≤
          hooked.world.setToken.netAssetValue market.toPriceList +
            (bidsOfAction (.issue msgSender quantity recipient hook) * market.loss : Nat) := by
      unfold callPreIssueHooks at calling
      split at calling
      · simp only [bind_eq_ok, pure_eq_ok] at calling
        obtain ⟨transactions, rfl, rfl⟩ := calling
        have drawn := run_drawdown operate (fun reached => SoundSet reached.world)
          (FairTransaction market)
          (fun reached => reached.world.setToken.netAssetValue market.toPriceList)
          (fun transaction => bidsOfTransaction transaction * market.loss)
          (fun _ _ _ kept fairly operated => operate_netAssetValue kept fairly operated)
          transactions system sound (fair transactions rfl)
        rw [List.sum_map_mul_right] at drawn
        exact drawn
      · obtain rfl := (pure_eq_ok _ _).mp calling
        exact ⟨sound, le_add_of_nonneg_right (Int.natCast_nonneg _)⟩
    obtain ⟨kept, same⟩ := completeIssue_netAssetValue reached.1 market.toPriceList completed
    exact ⟨kept, same ▸ reached.2⟩
  | redeem msgSender quantity recipient =>
    simp only [step, onWorld, bind_eq_ok, pure_eq_ok] at returned
    obtain ⟨world, called, rfl⟩ := returned
    obtain ⟨kept, same⟩ := redeem_netAssetValue sound market.toPriceList fair called
    refine ⟨kept, ?_⟩
    show _ ≤ world.setToken.netAssetValue market.toPriceList + _
    rw [same]
    exact le_add_of_nonneg_right (Int.natCast_nonneg _)

/-- Whatever the bidders, the holders and the manager do, hooks of issuances included, as long as
every bid trades at the market's prices or at better ones for the Set, net of the fee, and no
streaming fee accrues, the net asset value of one Set at these prices falls by at most the
truncation of the units for every bid. -/
theorem net_asset_value_after (market : Market) (start : System) (actions : List Action)
    (sound : SoundSet start.world)
    (fair : ∀ front action next, front ++ [action] <+: actions →
      step (run step start front) action = .ok next →
        FairAction market (run step start front) action) :
    start.world.setToken.netAssetValue market.toPriceList ≤
      (run step start actions).world.setToken.netAssetValue market.toPriceList +
        ((actions.map bidsOfAction).sum * market.loss : Nat) := by
  have drawn := (run_drawdown step (fun reached => SoundSet reached.world) (FairAction market)
    (fun reached => reached.world.setToken.netAssetValue market.toPriceList)
    (fun action => bidsOfAction action * market.loss)
    (fun _ _ _ kept fairly stepped => step_netAssetValue kept fairly stepped)
    actions start sound fair).2
  rwa [List.sum_map_mul_right] at drawn

/-- Tokens 3 and 4 trade at par. -/
def sampleMarket : Market where
  basket := {3, 4}
  price := fun token => if token = 3 ∨ token = 4 then 10 ^ 18 else 0
  priced := fun token outside => if_neg fun member => outside (by simpa using member)
  ceiling := 10 ^ 18
  price_le := fun token => by split <;> simp
  scarcity := 1

/-- The manager starts an auction that leaves the Set open. -/
def sampleOpening : List Action :=
  [.transact ⟨5, .initializeBasicIssuance 0⟩, .transact ⟨5, .initializeAuction⟩,
    .transact ⟨5, .setAnyoneBid true⟩,
    .transact ⟨5, .startRebalance sampleAdapters
      { quoteAsset := 4, newComponents := [], newComponentsAuctionParams := []
        oldComponentsAuctionParams := [sampleParams (5 * 10 ^ 17)]
        shouldLockSetToken := false, rebalanceDuration := 100
        initialPositionMultiplier := 10 ^ 18 }⟩]

/-- Buy a tenth of a token from the Set, and redeem a fifth of its supply. -/
def sampleRaid : List Action :=
  [.transact ⟨7, .bid sampleAdapters 3 (10 ^ 17) (10 ^ 18)⟩, .redeem 7 (2 * 10 ^ 17) 7]

theorem net_asset_value_after_sample :
    let start := run step sample sampleOpening
    (run step start sampleRaid).world.setToken.totalSupply = 8 * 10 ^ 17 ∧
      start.world.setToken.netAssetValue sampleMarket.toPriceList ≤
        (run step start sampleRaid).world.setToken.netAssetValue sampleMarket.toPriceList +
          (sampleMarket.loss : Nat) := by
  intro start
  have components : start.world.setToken.components = [3] := by decide
  have sound : SoundSet start.world := by
    refine ⟨(run_unlockable sample sampleOpening sample_beforeAuction.unlockable).bookkeeping,
      by decide, fun component member => ?_⟩
    have listed : component ∈ start.world.setToken.components := member
    rw [components, List.mem_singleton] at listed
    subst listed
    unfold Covers
    decide
  have priced : returns (start.auction.createBidInfo sampleAdapters 3 (10 ^ 17) (10 ^ 18)
      start.world) (fun info => info.isSellAuction && decide (info.componentPrice = 10 ^ 18)) =
        true := by
    decide
  obtain ⟨info, created, quoted⟩ := exists_of_returns priced
  rw [Bool.and_eq_true, decide_eq_true_eq] at quoted
  have met : ∀ front action next, front ++ [action] <+: sampleRaid →
      step (run step start front) action = .ok next →
        FairAction sampleMarket (run step start front) action := by
    intro front action next within _
    match front with
    | [] =>
      obtain rfl : action = .transact ⟨7, .bid sampleAdapters 3 (10 ^ 17) (10 ^ 18)⟩ :=
        (List.cons_prefix_cons.mp within).1
      refine ⟨trivial, fun adapters component componentAmount quoteAssetLimit operation => ?_⟩
      injection operation with sameAdapters sameComponent sameAmount sameLimit
      subst sameAdapters sameComponent sameAmount sameLimit
      refine ⟨by decide, by decide, fun other same => ?_⟩
      rw [run_nil, created] at same
      obtain rfl := Except.ok.inj same
      unfold AuctionRebalanceModuleV1.FairPrice
      rw [if_pos quoted.1, quoted.2]
      decide
    | first :: [] =>
      obtain ⟨rfl, rest⟩ := List.cons_prefix_cons.mp within
      obtain rfl : action = .redeem 7 (2 * 10 ^ 17) 7 := (List.cons_prefix_cons.mp rest).1
      show (7 : Address) ≠ _
      decide
    | _ :: _ :: _ =>
      have short := within.length_le
      simp [sampleRaid] at short
  have once : (sampleRaid.map bidsOfAction).sum = 1 := rfl
  have kept := net_asset_value_after sampleMarket start sampleRaid sound met
  rw [once, Nat.one_mul] at kept
  exact ⟨by decide, kept⟩

end System

end IndexProtocol

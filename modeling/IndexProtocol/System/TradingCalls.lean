/-
This file goes through the modules that trade: bids in auctions, trades of the
manager, of the index modules and against pools, wrapping, redemptions of fixed
cash, and airdrops that are absorbed. Each of these calls edits positions as its
own module and exchanges the tokens it names, whatever the contracts it calls do
with the balances of the Set.
-/

import IndexProtocol.Modules.AirdropModule
import IndexProtocol.Modules.AmmModule
import IndexProtocol.Modules.GeneralIndexCalls
import IndexProtocol.Modules.NotionalTradeModule
import IndexProtocol.Modules.SingleIndexModule
import IndexProtocol.Modules.TradeModule
import IndexProtocol.Modules.WrapModuleV2
import IndexProtocol.Protocol.ModuleMoves
import IndexProtocol.System.Exchanges

namespace IndexProtocol

open Revert PreciseUnitMath

namespace World

/-- A module settled some tokens. -/
structure SettledBy (module : Address) (touched : Set Address) (world next : World) : Prop where
  edits : EditsBy module world next
  settles : Settles touched world next

/-- A module exchanged some tokens. -/
structure TradedBy (module : Address) (touched : Set Address) (world next : World) : Prop where
  edits : EditsBy module world next
  exchanges : Exchanges touched world next

section Rules

variable {module component : Address} {first second touched : Set Address}
  {world middle paid next : World} {supply before balance unit newUnit : Nat}
  {controller : Controller}

theorem SettledBy.trans (settled : SettledBy module first world middle)
    (later : SettledBy module second middle next) :
    SettledBy module (first ∪ second) world next :=
  ⟨settled.edits.trans later.edits, settled.settles.trans later.settles⟩

/-- A loop that edits the token of every item settles these tokens. -/
theorem foldlM_settledBy {State Item : Type} {body : State → Item → Outcome State}
    (view : State → World) (token : Item → Address) (items : List Item) {start final : State}
    (each : ∀ state item after,
      (view state).setToken.totalSupply = (view start).setToken.totalSupply →
        body state item = .ok after → SettledBy module {token item} (view state) (view after))
    (returned : items.foldlM body start = .ok final) :
    SettledBy module {settled | settled ∈ items.map token} (view start) (view final) := by
  refine foldlM_seen body (fun seen state =>
    SettledBy module {settled | settled ∈ seen.map token} (view start) (view state)) items ?_ ?_
    returned
  · rw [show {settled : Address | settled ∈ List.map token []} = ∅ by simp]
    exact ⟨Moves.refl _ _, .none _⟩
  · intro seen item rest state after _ settled called
    have both := settled.trans (each state item after settled.settles.kept.totalSupply called)
    have tokens : {other | other ∈ seen.map token} ∪ {token item} =
        {other | other ∈ (seen ++ [item]).map token} := by
      ext other
      simp [or_comm]
    rwa [tokens] at both

theorem SettledBy.traded (only : OnlyBalances world paid)
    (settled : SettledBy module touched paid next) : TradedBy module touched world next :=
  ⟨(only.edits module).trans settled.edits, settled.settles.exchanges only⟩

theorem calculateAndEditDefaultPosition_settledBy
    (supplied : supply = world.setToken.totalSupply)
    (returned : world.calculateAndEditDefaultPosition module component supply before =
      .ok (next, balance, unit, newUnit)) : SettledBy module {component} world next :=
  ⟨calculateAndEditDefaultPosition_edits returned,
    calculateAndEditDefaultPosition_settles supplied returned⟩

theorem editDefaultPosition_settledBy
    (returned : world.callSetToken
      (Position.editDefaultPosition ⟨controller, module⟩ component newUnit) = .ok next)
    (spread : newUnit * world.setToken.totalSupply ≤ world.held component * preciseUnit) :
    SettledBy module {component} world next :=
  ⟨editDefaultPosition_edits returned, editDefaultPosition_settles returned spread⟩

/-- Two tokens that are edited one after the other, for the supply before they were traded. -/
theorem settledBy_pair {firstBefore secondBefore firstBalance secondBalance firstUnit secondUnit
      firstNew secondNew : Nat} {sendToken receiveToken : Address}
    (supplied : supply = world.setToken.totalSupply)
    (sending : world.calculateAndEditDefaultPosition module sendToken supply firstBefore =
      .ok (middle, firstBalance, firstUnit, firstNew))
    (receiving : middle.calculateAndEditDefaultPosition module receiveToken supply secondBefore =
      .ok (next, secondBalance, secondUnit, secondNew)) :
    SettledBy module {sendToken, receiveToken} world next :=
  ⟨(calculateAndEditDefaultPosition_edits sending).trans
    (calculateAndEditDefaultPosition_edits receiving), settles_pair supplied sending receiving⟩

theorem updatePositions_settledBy {sendToken receiveToken : Address}
    {preSend preReceive sentAmount receivedAmount : Nat}
    (returned : world.updatePositions module sendToken receiveToken preSend preReceive =
      .ok (next, sentAmount, receivedAmount)) :
    SettledBy module {sendToken, receiveToken} world next :=
  ⟨updatePositions_edits returned, updatePositions_settles returned⟩

/-- The units of a spread balance are covered by it. -/
theorem spread_le {preciseBalance newUnit : Nat}
    (quotient : preciseBalance * preciseUnit / supply = newUnit) (below : preciseBalance ≤ balance) :
    newUnit * supply ≤ balance * preciseUnit := by
  rw [← quotient]
  exact (Nat.div_mul_le_self _ _).trans (Nat.mul_le_mul_right _ below)

end Rules

end World

/-! ### Bids -/

theorem AuctionRebalanceModuleV1.bid_tradedBy {module : AuctionRebalanceModuleV1}
    {msgSender component : Address} {adapters : Adapters} {amount limit : Nat}
    {world next : World}
    (returned : module.bid msgSender adapters component amount limit world = .ok next) :
    World.TradedBy module.address {component, module.rebalanceInfo.quoteAsset} world next := by
  obtain ⟨info, fee, paid, edited, trade⟩ := bid_eq_ok returned
  obtain ⟨_, sending⟩ := trade.sendEdit
  obtain ⟨_, receiving⟩ := trade.receiveEdit
  have settled := World.settledBy_pair trade.onlyBalances.totalSupply.symm sending receiving
  have tokens : ({info.sendToken, info.receiveToken} : Set Address) =
      {component, module.rebalanceInfo.quoteAsset} := by
    have sides := trade.tokens
    unfold getSendAndReceiveTokens at sides
    split at sides
    · obtain ⟨send, receive⟩ := Prod.mk.injEq _ _ _ _ ▸ sides
      rw [send, receive]
    · obtain ⟨send, receive⟩ := Prod.mk.injEq _ _ _ _ ▸ sides
      rw [send, receive, Set.pair_comm]
  rw [← tokens]
  exact settled.traded trade.onlyBalances

/-! ### Trades of the manager -/

namespace TradeModule

variable {Ledger : Type} {module : TradeModule} {protocols : Protocols Ledger}
  {adapters : ExchangeAdapters Ledger} {msgSender sendToken receiveToken : Address}
  {exchangeName : String} {sendQuantity minReceiveQuantity : Nat} {data : Bytes}
  {before after : Execution Ledger} {exchanged : ComponentExchanged}

theorem executeTrade_emits {tradeInfo : TradeInfo}
    (returned : module.executeTrade protocols adapters tradeInfo data before = .ok after) :
    Execution.Emits [] before after := by
  simp only [executeTrade, bind_eq_ok, Prod.exists] at returned
  obtain ⟨_, approving, _, _, _, _, trading⟩ := returned
  exact (Execution.invokeApprove_emits approving).then_silent
    (Execution.invokeUnchecked_emits trading)

theorem trade_tradedBy
    (returned : module.trade msgSender protocols adapters exchangeName sendToken sendQuantity
      receiveToken minReceiveQuantity data before = .ok (after, exchanged)) :
    World.TradedBy module.address {sendToken, receiveToken} before.world after.world := by
  simp only [trade, createTradeInfo, accrueProtocolFee, updateSetTokenPositions, bind_eq_ok,
    pure_eq_ok, Prod.exists, Prod.mk.injEq] at returned
  obtain ⟨_, _, _, ⟨_, _, _, _, _, _, rfl⟩, _, _, traded, trading, _, _, paid, _,
    ⟨_, _, _, paying, rfl, _⟩, _, _, _, ⟨_, _, _, _, sending, _, _, _, _, receiving, _, _, _, _,
    rfl, _⟩, rfl, _⟩ := returned
  have moved := (executeTrade_emits trading).onlyBalances.trans
    (ModuleBase.payProtocolFeeFromSetToken_eq_ok paying).1
  exact (World.settledBy_pair moved.totalSupply.symm sending receiving).traded moved

end TradeModule

/-! ### Wrapping -/

namespace WrapModuleV2

variable {Ledger : Type} {module : WrapModuleV2} {protocols : Protocols Ledger}
  {contracts : WrapContracts Ledger} {msgSender underlyingToken wrappedToken token : Address}
  {integrationName : String} {units sent received : Nat} {data : Bytes} {usesEther : Bool}
  {world next : World} {before after : Execution Ledger}

theorem updatePosition_settledBy {preBalance postBalance : Nat}
    (held : world.held token = postBalance)
    (returned : module.updatePosition token preBalance postBalance world = .ok next) :
    World.SettledBy module.address {token} world next := by
  simp only [updatePosition, bind_eq_ok] at returned
  obtain ⟨_, _, _, _, newUnit, spreading, editing⟩ := returned
  obtain ⟨_, _, _, quotient⟩ := Position.calculateDefaultEditPositionUnit_eq_ok spreading
  refine World.editDefaultPosition_settledBy editing (World.spread_le quotient ?_)
  rw [held]
  exact Nat.sub_le _ _

/-- The balances that are read after the action do not change between the two edits. -/
theorem updatePositions_settledBy {preUnderlying preWrapped postUnderlying postWrapped : Nat}
    (returned : module.updatePositions underlyingToken wrappedToken preUnderlying preWrapped
      world = .ok (next, postUnderlying, postWrapped)) :
    World.SettledBy module.address {underlyingToken, wrappedToken} world next := by
  simp only [updatePositions, snapshotTargetAssetsBalance, bind_eq_ok, pure_eq_ok,
    Prod.mk.injEq] at returned
  obtain ⟨_, first, _, second, rfl, _⟩ := returned
  have underlying := updatePosition_settledBy rfl first
  have both := underlying.trans
    (updatePosition_settledBy (congrFun underlying.settles.kept.held _) second)
  rwa [Set.singleton_union] at both

theorem validateWrapAndUpdate_tradedBy
    (returned : module.validateWrapAndUpdate protocols contracts integrationName underlyingToken
      wrappedToken units data usesEther before = .ok (after, sent, received)) :
    World.TradedBy module.address {underlyingToken, wrappedToken} before.world after.world := by
  simp only [validateWrapAndUpdate, createWrapDataAndInvoke, bind_eq_ok, pure_eq_ok, Prod.exists,
    Prod.mk.injEq] at returned
  obtain ⟨_, _, _, _, _, _, prepared, preparing, wrapped, ⟨_, _, _, _, wrapping⟩, _, _, _,
    updating, _, _, _, _, rfl, _⟩ := returned
  have readied : Execution.Emits [] before prepared := by
    split at preparing
    · exact Execution.invokeUnchecked_emits preparing
    · exact Execution.invokeApprove_emits preparing
  exact (updatePositions_settledBy updating).traded
    (readied.then_silent (Execution.invokeUnchecked_emits wrapping)).onlyBalances

theorem validateUnwrapAndUpdate_tradedBy
    (returned : module.validateUnwrapAndUpdate protocols contracts integrationName
      underlyingToken wrappedToken units data usesEther before = .ok (after, received, sent)) :
    World.TradedBy module.address {underlyingToken, wrappedToken} before.world after.world := by
  simp only [validateUnwrapAndUpdate, createUnwrapDataAndInvoke, bind_eq_ok, pure_eq_ok,
    Prod.exists, Prod.mk.injEq] at returned
  obtain ⟨_, _, _, _, _, _, _, approving, unwrapped, ⟨_, _, _, _, unwrapping⟩, settled, settling,
    _, _, _, updating, _, _, _, _, rfl, _⟩ := returned
  have last : Execution.Emits [] unwrapped settled := by
    split at settling
    · exact Execution.invokeUnchecked_emits settling
    · exact (pure_eq_ok _ _).mp settling ▸ Execution.Emits.refl _
  exact (updatePositions_settledBy updating).traded
    (((Execution.invokeApprove_emits approving).then_silent
      (Execution.invokeUnchecked_emits unwrapping)).then_silent last).onlyBalances

end WrapModuleV2

/-! ### Trades of the index modules -/

namespace GeneralIndexTrading

variable {Ledger : Type} {module next : GeneralIndexTrading} {protocols : Protocols Ledger}
  {adapters : IndexAdapters} {msgSender origin component : Address} {limit : Nat}
  {before after : Execution Ledger} {tradeInfo : TradeInfo}

/-- The two tokens of a trade are wrapped ether and the component. -/
theorem getDefaultTradeInfo_tokens {direction : Bool} {world : World}
    (returned : module.getDefaultTradeInfo adapters component direction world = .ok tradeInfo) :
    ({tradeInfo.sendToken, tradeInfo.receiveToken} : Set Address) = {component, module.weth} ∧
      tradeInfo.setTotalSupply = world.setToken.totalSupply := by
  simp only [getDefaultTradeInfo, bind_eq_ok, pure_eq_ok, Prod.exists] at returned
  obtain ⟨_, _, isSendTokenFixed, _, _, rfl⟩ := returned
  refine ⟨?_, rfl⟩
  cases isSendTokenFixed
  · exact Set.pair_comm _ _
  · rfl

theorem createTradeInfo_tokens {world : World}
    (returned : module.createTradeInfo adapters component limit world = .ok tradeInfo) :
    ({tradeInfo.sendToken, tradeInfo.receiveToken} : Set Address) = {component, module.weth} ∧
      tradeInfo.setTotalSupply = world.setToken.totalSupply := by
  simp only [createTradeInfo, bind_eq_ok] at returned
  obtain ⟨_, created, filled⟩ := returned
  have tokens := getDefaultTradeInfo_tokens created
  split at filled
  · exact (pure_eq_ok _ _).mp filled ▸ tokens
  · exact (pure_eq_ok _ _).mp filled ▸ tokens

theorem createTradeRemainingInfo_tokens {world : World}
    (returned : module.createTradeRemainingInfo adapters component limit world =
      .ok tradeInfo) :
    ({tradeInfo.sendToken, tradeInfo.receiveToken} : Set Address) = {component, module.weth} ∧
      tradeInfo.setTotalSupply = world.setToken.totalSupply := by
  simp only [createTradeRemainingInfo, bind_eq_ok, pure_eq_ok] at returned
  obtain ⟨_, created, _, _, rfl⟩ := returned
  have tokens := getDefaultTradeInfo_tokens created
  exact tokens

theorem settleTrade_tradedBy {sent received fee : Nat}
    (supplied : tradeInfo.setTotalSupply = before.world.setToken.totalSupply)
    (returned : module.settleTrade protocols adapters tradeInfo component before =
      .ok (next, after, sent, received, fee)) :
    World.TradedBy module.address {tradeInfo.sendToken, tradeInfo.receiveToken} before.world
      after.world := by
  simp only [settleTrade, executeTrade, accrueProtocolFee, updatePositionStateAndTimestamp,
    bind_eq_ok, pure_eq_ok, Prod.exists, Prod.mk.injEq] at returned
  obtain ⟨traded, ⟨_, approving, trading⟩, paid, _, ⟨_, _, _, _, _, paying, rfl, _⟩, _, _, _, _,
    ⟨_, _, _, _, sending, _, _, _, _, receiving, _, _, _, _, _, rfl, _⟩, _, rfl, _⟩ := returned
  have moved := ((Execution.invokeApprove_emits approving).then_silent
    (Execution.invokeUnchecked_emits trading)).onlyBalances.trans
      (ModuleBase.payProtocolFeeFromSetToken_eq_ok paying).1
  exact (World.settledBy_pair (supplied.trans moved.totalSupply.symm) sending
    receiving).traded moved

theorem trade_tradedBy
    (returned : module.trade msgSender origin protocols adapters component limit before =
      .ok (next, after)) :
    World.TradedBy module.address {component, module.weth} before.world after.world := by
  simp only [trade, bind_eq_ok, pure_eq_ok, Prod.exists, Prod.mk.injEq] at returned
  obtain ⟨_, _, _, _, _, _, tradeInfo, created, _, _, _, _, _, settling, _, rfl⟩ := returned
  obtain ⟨tokens, supplied⟩ := createTradeInfo_tokens created
  exact tokens ▸ settleTrade_tradedBy supplied settling

theorem tradeRemainingWETH_tradedBy
    (returned : module.tradeRemainingWETH msgSender origin protocols adapters component limit
      before = .ok (next, after)) :
    World.TradedBy module.address {component, module.weth} before.world after.world := by
  simp only [tradeRemainingWETH, bind_eq_ok, pure_eq_ok, Prod.exists, Prod.mk.injEq] at returned
  obtain ⟨_, _, _, _, _, _, _, _, _, _, _, _, tradeInfo, created, _, _, _, _, _, settling, _, _,
    _, _, _, _, _, rfl⟩ := returned
  obtain ⟨tokens, supplied⟩ := createTradeRemainingInfo_tokens created
  exact tokens ▸ settleTrade_tradedBy supplied settling

end GeneralIndexTrading

namespace SingleIndexModule

variable {Ledger : Type} {module next : SingleIndexModule} {protocols : Protocols Ledger}
  {encode : ExchangeCall → Bytes} {msgSender origin component : Address}
  {before after : Execution Ledger}

theorem executeTrade_emits {sellComponent buyComponent : Address} {fixIn : Bool} {amount : Nat}
    {exchange : ExchangeId}
    (returned : module.executeTrade protocols encode sellComponent buyComponent fixIn amount
      exchange before = .ok after) : Execution.Emits [] before after := by
  simp only [executeTrade, bind_eq_ok, Prod.exists] at returned
  obtain ⟨_, _, _, _, approving, trading⟩ := returned
  exact (Execution.invokeApprove_emits approving).then_silent
    (Execution.invokeUnchecked_emits trading)

theorem swapAndUpdate_tradedBy {sellComponent buyComponent : Address} {fixIn : Bool}
    {amount sold bought : Nat}
    (returned : module.swapAndUpdate protocols encode component sellComponent buyComponent fixIn
      amount before = .ok (after, sold, bought)) :
    World.TradedBy module.address {sellComponent, buyComponent} before.world after.world := by
  simp only [swapAndUpdate, updatePositionState, bind_eq_ok, pure_eq_ok, Prod.exists,
    Prod.mk.injEq] at returned
  obtain ⟨_, trading, _, _, _, updating, rfl, _⟩ := returned
  exact (World.updatePositions_settledBy updating).traded (executeTrade_emits trading).onlyBalances

theorem trade_tradedBy
    (returned : module.trade msgSender origin protocols encode component before =
      .ok (next, after)) :
    World.TradedBy module.address {component, module.weth} before.world after.world := by
  simp only [trade, bind_eq_ok, pure_eq_ok, Prod.exists, Prod.mk.injEq] at returned
  obtain ⟨_, _, _, _, _, _, isBuy, _, _, _, _, _, trading, _, rfl⟩ := returned
  cases isBuy with
  | true =>
    rw [Set.pair_comm]
    exact swapAndUpdate_tradedBy trading
  | false => exact swapAndUpdate_tradedBy trading

theorem tradeRemainingWETH_tradedBy
    (returned : module.tradeRemainingWETH msgSender origin protocols encode component before =
      .ok (next, after)) :
    World.TradedBy module.address {component, module.weth} before.world after.world := by
  simp only [tradeRemainingWETH, bind_eq_ok, pure_eq_ok, Prod.exists, Prod.mk.injEq] at returned
  obtain ⟨_, _, _, _, _, _, _, _, _, _, _, _, _, _, _, _, trading, _, _, _, rfl⟩ := returned
  rw [Set.pair_comm]
  exact swapAndUpdate_tradedBy trading

end SingleIndexModule

/-! ### Pools -/

namespace AmmModule

variable {Ledger : Type} {module : AmmModule} {protocols : Protocols Ledger}
  {adapters : AmmAdapters Ledger} {actionInfo : LiquidityActionInfo Ledger}
  {msgSender component ammPool : Address} {ammName : String} {components : List Address}
  {componentUnits : List Nat} {poolTokens componentUnit : Nat} {world next : World}
  {before after : Execution Ledger} {change : LiquidityChange}

theorem invokePool_emits {callData : Outcome (Address × Nat × Bytes)}
    {approve : Execution Ledger → Outcome (Execution Ledger)}
    (approves : ∀ start approved, approve start = .ok approved →
      Execution.Emits [] start approved)
    (returned : module.invokePool protocols callData approve before = .ok after) :
    Execution.Emits [] before after := by
  simp only [invokePool, bind_eq_ok, Prod.exists] at returned
  obtain ⟨_, _, _, _, _, approving, calling⟩ := returned
  exact (approves _ _ approving).then_silent (Execution.invokeUnchecked_emits calling)

theorem executeComponentApprovals_emits
    (returned : module.executeComponentApprovals actionInfo before = .ok after) :
    Execution.Emits [] before after := by
  have emitted := Execution.foldlM_emits (fun _ => [])
    (fun _ _ _ _ _ => Execution.invokeApprove_emits) returned
  rwa [List.flatMap_eq_nil_iff.mpr fun _ _ => rfl] at emitted

theorem executeLiquidityApproval_emits
    (returned : module.executeLiquidityApproval actionInfo before = .ok after) :
    Execution.Emits [] before after :=
  Execution.invokeApprove_emits returned

/-- The loop over the components settles each of them. -/
theorem updateComponentPositions_settledBy {deltas : List Int}
    (supplied : actionInfo.totalSupply = world.setToken.totalSupply)
    (lengths : actionInfo.components.length = actionInfo.preActionComponentBalances.length)
    (returned : module.updateComponentPositions actionInfo world = .ok (next, deltas)) :
    World.SettledBy module.address {token | token ∈ actionInfo.components} world next := by
  have settled : World.SettledBy module.address {token | token ∈ (actionInfo.components.zip
      actionInfo.preActionComponentBalances).map Prod.fst} world next :=
    World.foldlM_settledBy Prod.fst Prod.fst _ (fun state item after kept called => by
      simp only [bind_eq_ok, pure_eq_ok, Prod.exists] at called
      obtain ⟨_, _, _, _, editing, _, _, rfl⟩ := called
      exact World.calculateAndEditDefaultPosition_settledBy (supplied.trans kept.symm) editing)
    returned
  rwa [List.map_fst_zip lengths.le] at settled

theorem updateLiquidityTokenPositions_settledBy {delta : Int}
    (supplied : actionInfo.totalSupply = world.setToken.totalSupply)
    (returned : module.updateLiquidityTokenPositions actionInfo world = .ok (next, delta)) :
    World.SettledBy module.address {actionInfo.liquidityToken} world next := by
  simp only [updateLiquidityTokenPositions, bind_eq_ok, pure_eq_ok, Prod.exists,
    Prod.mk.injEq] at returned
  obtain ⟨_, _, _, _, editing, _, _, rfl, _⟩ := returned
  exact World.calculateAndEditDefaultPosition_settledBy supplied editing

section Actions

variable {execute : LiquidityActionInfo Ledger → Execution Ledger → Outcome (Execution Ledger)}
  (executes : ∀ start done, execute actionInfo start = .ok done → Execution.Emits [] start done)
  (supplied : actionInfo.totalSupply = before.world.setToken.totalSupply)
  (lengths : actionInfo.components.length = actionInfo.preActionComponentBalances.length)

include executes supplied lengths

theorem performAdd_tradedBy
    (returned : module.performAdd execute actionInfo before = .ok (after, change)) :
    World.TradedBy module.address
      (insert actionInfo.liquidityToken {token | token ∈ actionInfo.components}) before.world
      after.world := by
  simp only [performAdd, bind_eq_ok, pure_eq_ok, Prod.exists, Prod.mk.injEq] at returned
  obtain ⟨_, _, added, executing, _, _, _, _, updating, _, _, settling, rfl, _⟩ := returned
  have only := (executes _ _ executing).onlyBalances
  have components := updateComponentPositions_settledBy
    (supplied.trans only.totalSupply.symm) lengths updating
  have both := components.trans (updateLiquidityTokenPositions_settledBy
    ((supplied.trans only.totalSupply.symm).trans components.settles.kept.totalSupply.symm)
    settling)
  rw [Set.union_singleton] at both
  exact both.traded only

theorem performRemove_tradedBy
    (returned : module.performRemove execute actionInfo before = .ok (after, change)) :
    World.TradedBy module.address
      (insert actionInfo.liquidityToken {token | token ∈ actionInfo.components}) before.world
      after.world := by
  simp only [performRemove, bind_eq_ok, pure_eq_ok, Prod.exists, Prod.mk.injEq] at returned
  obtain ⟨_, _, removed, executing, _, _, _, _, updating, _, _, settling, rfl, _⟩ := returned
  have only := (executes _ _ executing).onlyBalances
  have liquidity := updateLiquidityTokenPositions_settledBy
    (supplied.trans only.totalSupply.symm) updating
  have both := liquidity.trans (updateComponentPositions_settledBy
    ((supplied.trans only.totalSupply.symm).trans liquidity.settles.kept.totalSupply.symm)
    lengths settling)
  rw [Set.singleton_union] at both
  exact both.traded only

end Actions

/-- The action names the pool token and the components of the call. -/
theorem getActionInfo_tokens
    (returned : module.getActionInfo adapters ammName ammPool components componentUnits
      poolTokens world = .ok actionInfo) :
    actionInfo.totalSupply = world.setToken.totalSupply ∧
      actionInfo.components.length = actionInfo.preActionComponentBalances.length ∧
      actionInfo.liquidityToken = ammPool ∧ actionInfo.components = components := by
  simp only [getActionInfo, bind_eq_ok, pure_eq_ok] at returned
  obtain ⟨_, _, _, _, _, _, rfl⟩ := returned
  exact ⟨rfl, (List.length_map _).symm, rfl, rfl⟩

theorem executeAddLiquidity_emits
    (returned : module.executeAddLiquidity protocols actionInfo before = .ok after) :
    Execution.Emits [] before after :=
  invokePool_emits (fun _ _ => executeComponentApprovals_emits) returned

theorem executeAddLiquiditySingleAsset_emits
    (returned : module.executeAddLiquiditySingleAsset protocols actionInfo before = .ok after) :
    Execution.Emits [] before after := by
  simp only [executeAddLiquiditySingleAsset, bind_eq_ok] at returned
  obtain ⟨_, _, _, _, called⟩ := returned
  exact invokePool_emits (fun _ _ => executeComponentApprovals_emits) called

theorem executeRemoveLiquidity_emits
    (returned : module.executeRemoveLiquidity protocols actionInfo before = .ok after) :
    Execution.Emits [] before after :=
  invokePool_emits (fun _ _ => executeLiquidityApproval_emits) returned

theorem executeRemoveLiquiditySingleAsset_emits
    (returned : module.executeRemoveLiquiditySingleAsset protocols actionInfo before =
      .ok after) : Execution.Emits [] before after := by
  simp only [executeRemoveLiquiditySingleAsset, bind_eq_ok] at returned
  obtain ⟨_, _, _, _, called⟩ := returned
  exact invokePool_emits (fun _ _ => executeLiquidityApproval_emits) called

theorem addLiquidity_tradedBy
    (returned : module.addLiquidity protocols adapters msgSender ammName ammPool poolTokens
      components componentUnits before = .ok (after, change)) :
    World.TradedBy module.address (insert ammPool {token | token ∈ components}) before.world
      after.world := by
  simp only [addLiquidity, bind_eq_ok] at returned
  obtain ⟨_, _, actionInfo, created, performed⟩ := returned
  obtain ⟨supplied, lengths, rfl, rfl⟩ := getActionInfo_tokens created
  exact performAdd_tradedBy (fun _ _ => executeAddLiquidity_emits) supplied lengths performed

theorem addLiquiditySingleAsset_tradedBy
    (returned : module.addLiquiditySingleAsset protocols adapters msgSender ammName ammPool
      poolTokens component componentUnit before = .ok (after, change)) :
    World.TradedBy module.address (insert ammPool {token | token ∈ [component]}) before.world
      after.world := by
  simp only [addLiquiditySingleAsset, getActionInfoSingleAsset, bind_eq_ok] at returned
  obtain ⟨_, _, actionInfo, created, performed⟩ := returned
  obtain ⟨supplied, lengths, rfl, components⟩ := getActionInfo_tokens created
  rw [← components]
  exact performAdd_tradedBy (fun _ _ => executeAddLiquiditySingleAsset_emits) supplied lengths
    performed

theorem removeLiquidity_tradedBy
    (returned : module.removeLiquidity protocols adapters msgSender ammName ammPool poolTokens
      components componentUnits before = .ok (after, change)) :
    World.TradedBy module.address (insert ammPool {token | token ∈ components}) before.world
      after.world := by
  simp only [removeLiquidity, bind_eq_ok] at returned
  obtain ⟨_, _, actionInfo, created, performed⟩ := returned
  obtain ⟨supplied, lengths, rfl, rfl⟩ := getActionInfo_tokens created
  exact performRemove_tradedBy (fun _ _ => executeRemoveLiquidity_emits) supplied lengths
    performed

theorem removeLiquiditySingleAsset_tradedBy
    (returned : module.removeLiquiditySingleAsset protocols adapters msgSender ammName ammPool
      poolTokens component componentUnit before = .ok (after, change)) :
    World.TradedBy module.address (insert ammPool {token | token ∈ [component]}) before.world
      after.world := by
  simp only [removeLiquiditySingleAsset, getActionInfoSingleAsset, bind_eq_ok] at returned
  obtain ⟨_, _, actionInfo, created, performed⟩ := returned
  obtain ⟨supplied, lengths, rfl, components⟩ := getActionInfo_tokens created
  rw [← components]
  exact performRemove_tradedBy (fun _ _ => executeRemoveLiquiditySingleAsset_emits) supplied
    lengths performed

end AmmModule

/-! ### Fixed cash -/

namespace NotionalTradeModule

variable {Ledger : Type} {module : NotionalTradeModule} {wrappers : FCashWrappers Ledger}
  {msgSender fCashPosition receiveToken : Address} {fCashAmount minReceiveAmount received : Nat}
  {toUnderlying : Bool} {before after : Execution Ledger}

/-- Redeeming nothing changes nothing. -/
theorem redeemFCashPosition_tradedBy
    (returned : module.redeemFCashPosition wrappers fCashPosition receiveToken fCashAmount
      minReceiveAmount toUnderlying before = .ok (after, received)) :
    after = before ∨
      World.TradedBy module.address {fCashPosition, receiveToken} before.world after.world := by
  unfold redeemFCashPosition at returned
  split at returned
  · rw [pure_eq_ok, Prod.mk.injEq] at returned
    exact Or.inl returned.1.symm
  · simp only [redeem, updateSetTokenPositions, bind_eq_ok, pure_eq_ok, Prod.exists,
      Prod.mk.injEq] at returned
    obtain ⟨_, redeeming, _, _, _, updating, _, _, rfl, _⟩ := returned
    exact Or.inr ((World.updatePositions_settledBy updating).traded
      (Execution.invokeUnchecked_emits redeeming).onlyBalances)

end NotionalTradeModule

/-! ### Airdrops -/

namespace AirdropModule

variable {module : AirdropModule} {token : Address} {world next : World}

/-- The fees leave the Set, and the rest of the balance is spread over the supply. -/
theorem handleAirdropPosition_tradedBy
    (returned : module.handleAirdropPosition token world = .ok next) :
    next = world ∨ World.TradedBy module.address {token} world next := by
  simp only [handleAirdropPosition, bind_eq_ok] at returned
  obtain ⟨_, _, _, _, handled⟩ := returned
  split at handled
  · simp only [getPostAirdropUnit, Position.getDefaultPositionUnit, bind_eq_ok, Prod.exists,
      SafeMath.sub_eq_ok, preciseDiv_eq_ok] at handled
    obtain ⟨paid, _, _, _, charging, newUnit, ⟨_, ⟨_, rfl⟩, _, _, quotient⟩, editing⟩ := handled
    obtain ⟨only, _, _, held⟩ := handleFees_eq_ok charging
    exact Or.inr ((World.editDefaultPosition_settledBy editing
      (World.spread_le quotient held.ge)).traded only)
  · exact Or.inl ((pure_eq_ok _ _).mp handled).symm

end AirdropModule

end IndexProtocol

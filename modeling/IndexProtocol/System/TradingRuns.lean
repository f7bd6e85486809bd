/-
This file runs the trading modules. Every call of one of them exchanges the
tokens it names: the supply, the multiplier and the positions in all other
tokens stay, and the named tokens are covered by what the Set holds afterwards,
whatever the exchanges, pools and wrappers it calls do. Calls that take nothing
else away, in any order and together with issuance and redemption, keep the Set
solvent.
-/

import IndexProtocol.System.IssuanceCalls

namespace IndexProtocol

open Revert PreciseUnitMath

/-! ### A sample trade -/

namespace TradeModule

/-- The exchange at account 8 takes half a unit of token 3 from the Set and pays it half a unit
of token 7. -/
def sampleExchange : Protocols Unit where
  execute := fun _ world ledger => do
    let sent ← world.callToken 3 fun token =>
      token.move world.setToken.address 8 (5 * 10 ^ 17)
    let received ← sent.callToken 7 fun token =>
      token.move 8 sent.setToken.address (5 * 10 ^ 17)
    pure (0, received, ledger)
  onlyBalances := by
    intro invocation world ledger word next nextLedger returned
    simp only [bind_eq_ok, pure_eq_ok, Prod.mk.injEq] at returned
    obtain ⟨sent, sending, received, receiving, _, rfl, _⟩ := returned
    exact (World.callToken_move_onlyBalances sending).trans
      (World.callToken_move_onlyBalances receiving)
  borrowBalanceStored := fun _ _ _ => 0
  borrowBalanceCurrent := fun _ _ ledger => .ok (0, ledger)

def sampleExchanges : ExchangeAdapters Unit where
  getIntegrationAdapter := fun _ _ => 20
  exchangeAdapter := fun _ =>
    { getSpender := 8
      getTradeCalldata := fun _ _ _ _ _ _ _ _ => .ok (8, 0, []) }

/-- A Set of supply one, at address 2 and managed by account 5, which holds one unit of token 3
and has added the trade module at address 4. -/
def sampleTradeStart : Execution Unit where
  world :=
    { timestamp := 0
      controller := { sampleController with isInitialized := true, isSet := fun account =>
        account = 2 }
      setToken :=
        { SetToken.construct 2 [3] [10 ^ 18] [4] 5 with
          totalSupply := 10 ^ 18
          balanceOf := fun account => if account = 6 then 10 ^ 18 else 0
          moduleStates := fun account => if account = 4 then .initialized else .none }
      tokens := fun _ =>
        { totalSupply := 2 * 10 ^ 18
          balanceOf := fun account => if account = 2 ∨ account = 8 then 10 ^ 18 else 0
          allowance := fun _ _ => 0 } }
  ledger := ()
  events := []

theorem sampleTradeStart_bookkeeping :
    PositionBookkeeping sampleTradeStart.world.setToken :=
  (PositionBookkeeping.create sampleController_create).congr ⟨rfl, rfl, rfl⟩

/-- The manager sells half a unit of token 3 for at least four tenths of token 7. -/
def sampleTrade : Outcome (Execution Unit × ComponentExchanged) :=
  trade ⟨4⟩ 5 sampleExchange sampleExchanges "Exchange" 3 (5 * 10 ^ 17) 7 (4 * 10 ^ 17) []
    sampleTradeStart

end TradeModule

/-! ### The trading calls -/

/-- A call of a trading module that returns, with the address of the module and the tokens it
names. The storage of the module and the contracts around it are those the call finds. -/
inductive TradingCall : Address → Set Address → World → World → Prop
  | bid {world next : World} (module : AuctionRebalanceModuleV1) (msgSender : Address)
      (adapters : Adapters) (component : Address) (amount limit : Nat)
      (returned : module.bid msgSender adapters component amount limit world = .ok next) :
      TradingCall module.address {component, module.rebalanceInfo.quoteAsset} world next
  | trade {Ledger : Type} {before after : Execution Ledger} (module : TradeModule)
      (msgSender : Address) (protocols : Protocols Ledger) (adapters : ExchangeAdapters Ledger)
      (exchangeName : String) (sendToken : Address) (sendQuantity : Nat)
      (receiveToken : Address) (minReceiveQuantity : Nat) (data : Bytes)
      (exchanged : TradeModule.ComponentExchanged)
      (returned : module.trade msgSender protocols adapters exchangeName sendToken sendQuantity
        receiveToken minReceiveQuantity data before = .ok (after, exchanged)) :
      TradingCall module.address {sendToken, receiveToken} before.world after.world
  | wrap {Ledger : Type} {before after : Execution Ledger} (module : WrapModuleV2)
      (msgSender : Address) (protocols : Protocols Ledger) (contracts : WrapContracts Ledger)
      (underlyingToken wrappedToken : Address) (units : Nat) (integrationName : String)
      (data : Bytes) (amounts : Nat × Nat)
      (returned : module.wrap msgSender protocols contracts underlyingToken wrappedToken units
        integrationName data before = .ok (after, amounts)) :
      TradingCall module.address {underlyingToken, wrappedToken} before.world after.world
  | wrapWithEther {Ledger : Type} {before after : Execution Ledger} (module : WrapModuleV2)
      (msgSender : Address) (protocols : Protocols Ledger) (contracts : WrapContracts Ledger)
      (wrappedToken : Address) (units : Nat) (integrationName : String) (data : Bytes)
      (amounts : Nat × Nat)
      (returned : module.wrapWithEther msgSender protocols contracts wrappedToken units
        integrationName data before = .ok (after, amounts)) :
      TradingCall module.address {module.weth, wrappedToken} before.world after.world
  | unwrap {Ledger : Type} {before after : Execution Ledger} (module : WrapModuleV2)
      (msgSender : Address) (protocols : Protocols Ledger) (contracts : WrapContracts Ledger)
      (underlyingToken wrappedToken : Address) (units : Nat) (integrationName : String)
      (data : Bytes) (amounts : Nat × Nat)
      (returned : module.unwrap msgSender protocols contracts underlyingToken wrappedToken units
        integrationName data before = .ok (after, amounts)) :
      TradingCall module.address {underlyingToken, wrappedToken} before.world after.world
  | unwrapWithEther {Ledger : Type} {before after : Execution Ledger} (module : WrapModuleV2)
      (msgSender : Address) (protocols : Protocols Ledger) (contracts : WrapContracts Ledger)
      (wrappedToken : Address) (units : Nat) (integrationName : String) (data : Bytes)
      (amounts : Nat × Nat)
      (returned : module.unwrapWithEther msgSender protocols contracts wrappedToken units
        integrationName data before = .ok (after, amounts)) :
      TradingCall module.address {module.weth, wrappedToken} before.world after.world
  | indexTrade {Ledger : Type} {before after : Execution Ledger}
      (module next : GeneralIndexTrading) (msgSender origin : Address)
      (protocols : Protocols Ledger) (adapters : IndexAdapters) (component : Address)
      (limit : Nat)
      (returned : module.trade msgSender origin protocols adapters component limit before =
        .ok (next, after)) :
      TradingCall module.address {component, module.weth} before.world after.world
  | indexTradeRemainingWETH {Ledger : Type} {before after : Execution Ledger}
      (module next : GeneralIndexTrading) (msgSender origin : Address)
      (protocols : Protocols Ledger) (adapters : IndexAdapters) (component : Address)
      (limit : Nat)
      (returned : module.tradeRemainingWETH msgSender origin protocols adapters component limit
        before = .ok (next, after)) :
      TradingCall module.address {component, module.weth} before.world after.world
  | singleIndexTrade {Ledger : Type} {before after : Execution Ledger}
      (module next : SingleIndexModule) (msgSender origin : Address)
      (protocols : Protocols Ledger) (encode : ExchangeCall → Bytes) (component : Address)
      (returned : module.trade msgSender origin protocols encode component before =
        .ok (next, after)) :
      TradingCall module.address {component, module.weth} before.world after.world
  | singleIndexTradeRemainingWETH {Ledger : Type} {before after : Execution Ledger}
      (module next : SingleIndexModule) (msgSender origin : Address)
      (protocols : Protocols Ledger) (encode : ExchangeCall → Bytes) (component : Address)
      (returned : module.tradeRemainingWETH msgSender origin protocols encode component before =
        .ok (next, after)) :
      TradingCall module.address {component, module.weth} before.world after.world
  | addLiquidity {Ledger : Type} {before after : Execution Ledger} (module : AmmModule)
      (protocols : Protocols Ledger) (adapters : AmmAdapters Ledger) (msgSender : Address)
      (ammName : String) (ammPool : Address) (poolTokens : Nat) (components : List Address)
      (componentUnits : List Nat) (change : LiquidityChange)
      (returned : module.addLiquidity protocols adapters msgSender ammName ammPool poolTokens
        components componentUnits before = .ok (after, change)) :
      TradingCall module.address (insert ammPool {token | token ∈ components}) before.world
        after.world
  | addLiquiditySingleAsset {Ledger : Type} {before after : Execution Ledger}
      (module : AmmModule) (protocols : Protocols Ledger) (adapters : AmmAdapters Ledger)
      (msgSender : Address) (ammName : String) (ammPool : Address) (poolTokens : Nat)
      (component : Address) (componentUnit : Nat) (change : LiquidityChange)
      (returned : module.addLiquiditySingleAsset protocols adapters msgSender ammName ammPool
        poolTokens component componentUnit before = .ok (after, change)) :
      TradingCall module.address (insert ammPool {token | token ∈ [component]}) before.world
        after.world
  | removeLiquidity {Ledger : Type} {before after : Execution Ledger} (module : AmmModule)
      (protocols : Protocols Ledger) (adapters : AmmAdapters Ledger) (msgSender : Address)
      (ammName : String) (ammPool : Address) (poolTokens : Nat) (components : List Address)
      (componentUnits : List Nat) (change : LiquidityChange)
      (returned : module.removeLiquidity protocols adapters msgSender ammName ammPool poolTokens
        components componentUnits before = .ok (after, change)) :
      TradingCall module.address (insert ammPool {token | token ∈ components}) before.world
        after.world
  | removeLiquiditySingleAsset {Ledger : Type} {before after : Execution Ledger}
      (module : AmmModule) (protocols : Protocols Ledger) (adapters : AmmAdapters Ledger)
      (msgSender : Address) (ammName : String) (ammPool : Address) (poolTokens : Nat)
      (component : Address) (componentUnit : Nat) (change : LiquidityChange)
      (returned : module.removeLiquiditySingleAsset protocols adapters msgSender ammName ammPool
        poolTokens component componentUnit before = .ok (after, change)) :
      TradingCall module.address (insert ammPool {token | token ∈ [component]}) before.world
        after.world
  | redeemFCash {Ledger : Type} {before after : Execution Ledger} (module : NotionalTradeModule)
      (wrappers : FCashWrappers Ledger) (msgSender wrappedfCash receiveToken : Address)
      (currencyId maturity redeemAmount minReceiveAmount received : Nat)
      (wrapped : NotionalTradeModule.getWrappedfCash wrappers currencyId maturity =
        .ok wrappedfCash)
      (returned : module.redeemFixedFCashForToken wrappers msgSender currencyId maturity
        redeemAmount receiveToken minReceiveAmount before = .ok (after, received)) :
      TradingCall module.address {wrappedfCash, receiveToken} before.world after.world
  | absorb {world next : World} (module : AirdropModule) (msgSender token : Address)
      (returned : module.absorb msgSender token world = .ok next) :
      TradingCall module.address {token} world next

namespace TradingCall

variable {module : Address} {touched : Set Address} {world next : World}

/-- A trading call exchanges the tokens it names, or there was nothing to trade. -/
theorem traded (call : TradingCall module touched world next) :
    next = world ∨ World.TradedBy module touched world next := by
  cases call with
  | bid module msgSender adapters component amount limit returned =>
    exact Or.inr (AuctionRebalanceModuleV1.bid_tradedBy returned)
  | trade module msgSender protocols adapters exchangeName sendToken sendQuantity receiveToken
      minReceiveQuantity data exchanged returned =>
    exact Or.inr (TradeModule.trade_tradedBy returned)
  | wrap module msgSender protocols contracts underlyingToken wrappedToken units
      integrationName data amounts returned =>
    simp only [WrapModuleV2.wrap, bind_eq_ok] at returned
    obtain ⟨_, _, wrapping⟩ := returned
    exact Or.inr (WrapModuleV2.validateWrapAndUpdate_tradedBy wrapping)
  | wrapWithEther module msgSender protocols contracts wrappedToken units integrationName data
      amounts returned =>
    simp only [WrapModuleV2.wrapWithEther, bind_eq_ok] at returned
    obtain ⟨_, _, wrapping⟩ := returned
    exact Or.inr (WrapModuleV2.validateWrapAndUpdate_tradedBy wrapping)
  | unwrap module msgSender protocols contracts underlyingToken wrappedToken units
      integrationName data amounts returned =>
    simp only [WrapModuleV2.unwrap, bind_eq_ok] at returned
    obtain ⟨_, _, unwrapping⟩ := returned
    exact Or.inr (WrapModuleV2.validateUnwrapAndUpdate_tradedBy unwrapping)
  | unwrapWithEther module msgSender protocols contracts wrappedToken units integrationName
      data amounts returned =>
    simp only [WrapModuleV2.unwrapWithEther, bind_eq_ok] at returned
    obtain ⟨_, _, unwrapping⟩ := returned
    exact Or.inr (WrapModuleV2.validateUnwrapAndUpdate_tradedBy unwrapping)
  | indexTrade module next msgSender origin protocols adapters component limit returned =>
    exact Or.inr (GeneralIndexTrading.trade_tradedBy returned)
  | indexTradeRemainingWETH module next msgSender origin protocols adapters component limit
      returned =>
    exact Or.inr (GeneralIndexTrading.tradeRemainingWETH_tradedBy returned)
  | singleIndexTrade module next msgSender origin protocols encode component returned =>
    exact Or.inr (SingleIndexModule.trade_tradedBy returned)
  | singleIndexTradeRemainingWETH module next msgSender origin protocols encode component
      returned =>
    exact Or.inr (SingleIndexModule.tradeRemainingWETH_tradedBy returned)
  | addLiquidity module protocols adapters msgSender ammName ammPool poolTokens components
      componentUnits change returned =>
    exact Or.inr (AmmModule.addLiquidity_tradedBy returned)
  | addLiquiditySingleAsset module protocols adapters msgSender ammName ammPool poolTokens
      component componentUnit change returned =>
    exact Or.inr (AmmModule.addLiquiditySingleAsset_tradedBy returned)
  | removeLiquidity module protocols adapters msgSender ammName ammPool poolTokens components
      componentUnits change returned =>
    exact Or.inr (AmmModule.removeLiquidity_tradedBy returned)
  | removeLiquiditySingleAsset module protocols adapters msgSender ammName ammPool poolTokens
      component componentUnit change returned =>
    exact Or.inr (AmmModule.removeLiquiditySingleAsset_tradedBy returned)
  | redeemFCash module wrappers msgSender wrappedfCash receiveToken currencyId maturity
      redeemAmount minReceiveAmount received wrapped returned =>
    simp only [NotionalTradeModule.redeemFixedFCashForToken, wrapped, ok_bind, bind_eq_ok,
      Prod.exists] at returned
    obtain ⟨_, _, _, _, _, _, _, _, _, _, _, _, _, redeeming⟩ := returned
    rcases NotionalTradeModule.redeemFCashPosition_tradedBy redeeming with same | traded
    · exact Or.inl (congrArg Execution.world same)
    · exact Or.inr traded
  | absorb module msgSender token returned =>
    simp only [AirdropModule.absorb, AirdropModule.absorbInternal, bind_eq_ok] at returned
    obtain ⟨_, _, _, _, _, _, handling⟩ := returned
    exact AirdropModule.handleAirdropPosition_tradedBy handling

theorem edits (call : TradingCall module touched world next) :
    World.EditsBy module world next := by
  rcases call.traded with rfl | traded
  · exact World.Moves.refl _ _
  · exact traded.edits

/-- No trading call changes the supply, the multiplier or the position in a token it does not
name, and the tokens it names are covered afterwards. -/
theorem settles (positive : 0 < world.setToken.positionMultiplier)
    (call : TradingCall module touched world next) :
    next.setToken.totalSupply = world.setToken.totalSupply ∧
    next.setToken.positionMultiplier = world.setToken.positionMultiplier ∧
    (∀ token, token ∉ touched →
      (token ∈ next.setToken.components ↔ token ∈ world.setToken.components) ∧
        next.setToken.defaultRealUnit token = world.setToken.defaultRealUnit token) ∧
    (next = world ∨ ∀ token ∈ touched,
      (next.setToken.totalSupply : Int) * next.setToken.defaultRealUnit token ≤
        next.held token * preciseUnit) := by
  rcases call.traded with rfl | traded
  · exact ⟨rfl, rfl, fun _ _ => ⟨Iff.rfl, rfl⟩, Or.inl rfl⟩
  · have exchanges := traded.exchanges
    exact ⟨exchanges.totalSupply, exchanges.positionMultiplier,
      fun _ apart => ⟨exchanges.listed apart, exchanges.defaultRealUnit apart⟩,
      Or.inr fun _ member => exchanges.covered positive member⟩

/-- The sample trade leaves half a unit of either token, and both are covered. -/
theorem settles_sample :
    ∃ after exchanged, TradeModule.sampleTrade = .ok (after, exchanged) ∧
      after.world.setToken.defaultRealUnit 7 = 5 * 10 ^ 17 ∧
      ∀ token ∈ ({3, 7} : Set Address),
        (after.world.setToken.totalSupply : Int) * after.world.setToken.defaultRealUnit token ≤
          after.world.held token * preciseUnit := by
  have succeeds : returns TradeModule.sampleTrade (fun traded => decide
      (traded.1.world.setToken.defaultRealUnit 7 = 5 * 10 ^ 17)) = true := by
    decide +kernel
  obtain ⟨⟨after, exchanged⟩, returned, unit⟩ := exists_of_returns succeeds
  have unit := of_decide_eq_true unit
  refine ⟨after, exchanged, returned, unit, ?_⟩
  have call := TradingCall.trade ⟨4⟩ 5 TradeModule.sampleExchange TradeModule.sampleExchanges
    "Exchange" 3 (5 * 10 ^ 17) 7 (4 * 10 ^ 17) [] exchanged returned
  rcases (settles (by decide) call).2.2.2 with same | covered
  · rw [same] at unit
    exact absurd unit (by decide)
  · exact covered

end TradingCall

/-! ### Runs of the fund -/

/-- A function of the Set that edits no position, supply or multiplier. -/
def SetTokenCall.IsControl : SetTokenCall → Prop
  | .lock => True
  | .unlock => True
  | .addModule _ => True
  | .removeModule _ _ => True
  | .removePendingModule _ => True
  | .initializeModule => True
  | .setManager _ => True
  | _ => False

/-- One step of a Set that is traded, issued and redeemed: a trading call whose contracts take no
component but those it names, either end of the issuance module, tokens the Set receives, control
of the Set or of the protocol, and the passing of time. -/
inductive TradingStep : World → World → Prop
  | traded {world next : World} {module : Address} {touched : Set Address}
      (call : TradingCall module touched world next)
      (spares : World.Spares touched world next) : TradingStep world next
  | issued {world next : World} (module : BasicIssuanceModule) (msgSender recipient : Address)
      (quantity : Nat)
      (returned : module.completeIssue msgSender quantity recipient world = .ok next) :
      TradingStep world next
  | redeemed {world next : World} (module : BasicIssuanceModule)
      (msgSender recipient : Address) (quantity : Nat)
      (other : msgSender ≠ world.setToken.address)
      (returned : module.redeem msgSender quantity recipient world = .ok next) :
      TradingStep world next
  | received {world next : World} (only : World.OnlyBalances world next)
      (more : ∀ token, world.held token ≤ next.held token) : TradingStep world next
  | controlled {world next : World} (call : Call) (made : SetTokenCall)
      (control : made.IsControl)
      (returned : world.callSetToken (fun setToken => SetTokenCall.apply setToken (call, made)) =
        .ok next) : TradingStep world next
  | governed {world : World} (controller : Controller) :
      TradingStep world { world with controller := controller }
  | elapsed {world : World} (seconds : Nat) :
      TradingStep world { world with timestamp := world.timestamp + seconds }

section Control

variable {setToken next : SetToken} {call : Call} {made : SetTokenCall}

/-- A function that edits nothing leaves the positions and the token as they are. -/
theorem SetTokenCall.IsControl.keeps (control : made.IsControl)
    (returned : SetTokenCall.apply setToken (call, made) = .ok next) :
    SetToken.SamePositions setToken next ∧ next.toERC20 = setToken.toERC20 ∧
      next.address = setToken.address := by
  cases made with
  | lock =>
    obtain ⟨_, _, _, rfl⟩ := SetToken.lock_eq_ok returned
    exact ⟨⟨rfl, rfl, rfl⟩, rfl, rfl⟩
  | unlock =>
    obtain ⟨_, _, _, rfl⟩ := SetToken.unlock_eq_ok.mp returned
    exact ⟨⟨rfl, rfl, rfl⟩, rfl, rfl⟩
  | addModule =>
    obtain ⟨_, rfl⟩ := SetToken.addModule_eq_ok returned
    exact ⟨⟨rfl, rfl, rfl⟩, rfl, rfl⟩
  | removeModule =>
    obtain ⟨_, _, _, _, rfl⟩ := SetToken.removeModule_eq_ok returned
    exact ⟨⟨rfl, rfl, rfl⟩, rfl, rfl⟩
  | removePendingModule =>
    obtain ⟨_, _, rfl⟩ := SetToken.removePendingModule_eq_ok returned
    exact ⟨⟨rfl, rfl, rfl⟩, rfl, rfl⟩
  | initializeModule =>
    obtain ⟨_, _, rfl⟩ := SetToken.initializeModule_eq_ok returned
    exact ⟨⟨rfl, rfl, rfl⟩, rfl, rfl⟩
  | setManager =>
    obtain ⟨_, rfl⟩ := SetToken.setManager_eq_ok returned
    exact ⟨⟨rfl, rfl, rfl⟩, rfl, rfl⟩
  | editDefaultPosition | editExternalPosition | editPositionMultiplier | mint | burn =>
    exact control.elim

end Control

namespace TradingStep

variable {world next : World}

/-- The fund depends on the positions, the token and the balances alone. -/
theorem fund_congr (same : SetToken.SamePositions world.setToken next.setToken)
    (token : next.setToken.toERC20 = world.setToken.toERC20)
    (address : next.setToken.address = world.setToken.address)
    (tokens : next.tokens = world.tokens) : next.fund = world.fund := by
  have held : next.held = world.held := by
    funext asset
    show (next.token asset).balanceOf next.setToken.address = _
    unfold World.token
    rw [address, token, tokens]
    rfl
  unfold World.fund
  rw [token, same.components, funext same.defaultRealUnit, held]

theorem control_keeps {call : Call} {made : SetTokenCall} (control : made.IsControl)
    (kept : PositionBookkeeping world.setToken)
    (returned : world.callSetToken (fun setToken => SetTokenCall.apply setToken (call, made)) =
      .ok next) : PositionBookkeeping next.setToken ∧ next.fund = world.fund := by
  obtain ⟨called, stored⟩ := World.callSetToken_eq_ok returned
  obtain ⟨same, token, address⟩ := control.keeps called
  exact ⟨kept.congr same, fund_congr same token address (by rw [stored])⟩

/-- Every step keeps the bookkeeping of the positions, and consists of steps of the fund. -/
theorem keeps (kept : PositionBookkeeping world.setToken) (step : TradingStep world next) :
    PositionBookkeeping next.setToken ∧
      Relation.ReflTransGen (Fund.Step (preciseUnit : Int)) world.fund next.fund := by
  have positive := kept.multiplierPositive
  have distinct := kept.components.nodup
  cases step with
  | traded call spares =>
    rcases call.traded with rfl | traded
    · exact ⟨kept, .refl⟩
    · exact ⟨kept.moves (traded.edits.mono fun _ edit => edit.1.2),
        .single (traded.exchanges.fundStep positive spares)⟩
  | issued module msgSender recipient quantity returned =>
    exact ⟨kept.moves ((BasicIssuanceModule.completeIssue_moves returned).mono fun _ move =>
      move.2), (completeIssue_accounted returned).steps⟩
  | redeemed module msgSender recipient quantity other returned =>
    exact ⟨kept.moves ((BasicIssuanceModule.redeem_moves returned).mono fun _ move => move.2),
      (redeem_accounted other distinct returned).steps⟩
  | received only more =>
    exact ⟨kept.congr only.samePositions, (Accounted.of_balances only more).steps⟩
  | controlled call made control returned =>
    obtain ⟨bookkeeping, fund⟩ := control_keeps control kept returned
    exact ⟨bookkeeping, fund ▸ .refl⟩
  | governed controller => exact ⟨kept, fund_congr ⟨rfl, rfl, rfl⟩ rfl rfl rfl ▸ .refl⟩
  | elapsed seconds => exact ⟨kept, fund_congr ⟨rfl, rfl, rfl⟩ rfl rfl rfl ▸ .refl⟩

/-- In every run, a Set whose positions are kept and that holds enough of every component keeps
both. -/
theorem solvent_after_steps {start reached : World}
    (steps : Relation.ReflTransGen TradingStep start reached)
    (kept : PositionBookkeeping start.setToken)
    (solvent : ∀ component ∈ start.setToken.components,
      (start.setToken.totalSupply : Int) * start.setToken.defaultRealUnit component ≤
        start.held component * preciseUnit) :
    PositionBookkeeping reached.setToken ∧ ∀ component ∈ reached.setToken.components,
      (reached.setToken.totalSupply : Int) * reached.setToken.defaultRealUnit component ≤
        reached.held component * preciseUnit := by
  induction steps with
  | refl => exact ⟨kept, solvent⟩
  | tail _ step inductionHypothesis =>
    obtain ⟨bookkeeping, covered⟩ := inductionHypothesis
    obtain ⟨next, fund⟩ := step.keeps bookkeeping
    exact ⟨next, Fund.solvent_of_steps preciseUnit_int_pos.le fund covered⟩

/-- The sample trade, and a day later the sale of the other half. -/
def sampleSales : Outcome (Execution Unit × TradeModule.ComponentExchanged × Execution Unit ×
    TradeModule.ComponentExchanged) := do
  let (half, first) ← TradeModule.sampleTrade
  let later := { half with world :=
    { half.world with timestamp := half.world.timestamp + 86400 } }
  let (sold, second) ← TradeModule.trade ⟨4⟩ 5 TradeModule.sampleExchange
    TradeModule.sampleExchanges "Exchange" 3 (5 * 10 ^ 17) 7 (4 * 10 ^ 17) [] later
  pure (half, first, sold, second)

theorem sampleSales_spares {world next : World}
    (listed : ∀ component ∈ world.setToken.components, component = 3 ∨ component = 7) :
    World.Spares {3, 7} world next :=
  fun component member apart => absurd (listed component member) apart

/-- After both sales only token 7 is left, and the Set holds enough of it. -/
theorem solvent_after_steps_sample :
    ∃ half first sold second, sampleSales = .ok (half, first, sold, second) ∧
      sold.world.setToken.components = [7] ∧
      ∀ component ∈ sold.world.setToken.components,
        (sold.world.setToken.totalSupply : Int) * sold.world.setToken.defaultRealUnit component ≤
          sold.world.held component * preciseUnit := by
  have succeeds : returns sampleSales (fun result =>
      decide (result.1.world.setToken.components = [3, 7]) &&
        decide (result.2.2.1.world.setToken.components = [7])) = true := by
    decide +kernel
  obtain ⟨⟨_, _, _, _⟩, returned, components⟩ := exists_of_returns succeeds
  rw [Bool.and_eq_true, decide_eq_true_iff, decide_eq_true_iff] at components
  have sales := returned
  simp only [sampleSales, bind_eq_ok, pure_eq_ok, Prod.mk.injEq, Prod.exists] at sales
  obtain ⟨half, first, selling, sold, second, sellingRest, rfl, rfl, rfl, rfl⟩ := sales
  have sells : TradingStep TradeModule.sampleTradeStart.world half.world :=
    .traded (.trade ⟨4⟩ 5 TradeModule.sampleExchange TradeModule.sampleExchanges "Exchange" 3
      (5 * 10 ^ 17) 7 (4 * 10 ^ 17) [] first selling) (sampleSales_spares fun _ member =>
        Or.inl (List.mem_singleton.mp member))
  have sellsRest : TradingStep _ sold.world :=
    .traded (.trade ⟨4⟩ 5 TradeModule.sampleExchange TradeModule.sampleExchanges "Exchange" 3
      (5 * 10 ^ 17) 7 (4 * 10 ^ 17) [] second sellingRest)
      (sampleSales_spares fun _ member =>
        List.mem_pair.mp (components.1 ▸ member))
  refine ⟨half, first, sold, second, returned, components.2, ?_⟩
  refine (solvent_after_steps (((Relation.ReflTransGen.single sells).tail (.elapsed 86400)).tail
    sellsRest) TradeModule.sampleTradeStart_bookkeeping fun component member => ?_).2
  obtain rfl := List.mem_singleton.mp member
  decide

end TradingStep

end IndexProtocol

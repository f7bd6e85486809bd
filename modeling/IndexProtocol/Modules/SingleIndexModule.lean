/-
This file models the index module that manages one Set: the manager records a
target unit for every component, and the traders buy and sell components against
wrapped ether until the units of the Set are the targets. A target is recorded
at the position multiplier the manager states and normalized to the current one
where it is read. The world of a call is that of the Set the module manages.
-/

import IndexProtocol.Protocol.Execution
import IndexProtocol.Protocol.PositionUpdates

namespace IndexProtocol

open Revert PreciseUnitMath

/-! ### Storage -/

inductive ExchangeId
  | none
  | uniswap
  | sushiswap
  | balancer
  deriving DecidableEq

/-- The exchange of an identifier; the identifiers from `Last` on are not recognized. -/
def ExchangeId.ofIdentifier : Nat → Option ExchangeId
  | 0 => some none
  | 1 => some uniswap
  | 2 => some sushiswap
  | 3 => some balancer
  | _ => Option.none

structure AssetTradeInfo where
  targetUnit : Nat
  maxSize : Nat
  coolOffPeriod : Nat
  lastTradeTimestamp : Nat
  exchange : ExchangeId

/-- The module's storage. Wrapped ether is never one of the components that are rebalanced. -/
structure SingleIndexModule where
  address : Address
  assetInfo : Address → AssetTradeInfo
  rebalanceComponents : List Address
  positionMultiplier : Nat
  tradeAllowList : Address → Bool
  anyoneTrade : Bool
  index : Address
  weth : Address
  uniswapRouter : Address
  sushiswapRouter : Address
  balancerProxy : Address
  wethExcluded : weth ∉ rebalanceComponents

/-- The calls of the routers. Their arguments are those of the source, in its order. -/
inductive ExchangeCall
  | swapTokensForExactTokens (amount limit : Nat) (path : List Address) (recipient : Address)
      (deadline : Nat)
  | swapExactTokensForTokens (amount limit : Nat) (path : List Address) (recipient : Address)
      (deadline : Nat)
  | smartSwapExactOut (sellComponent buyComponent : Address) (amount limit poolLimit : Nat)
  | smartSwapExactIn (sellComponent buyComponent : Address) (amount limit poolLimit : Nat)

namespace SingleIndexModule

variable {Ledger : Type}

/-- Targets are raised by a quarter of a percent. -/
def targetRaiseDivisor : Nat := 10025 * 10 ^ 14

def balancerPoolLimit : Nat := 3

def deployed (address weth uniswapRouter sushiswapRouter balancerProxy : Address) :
    SingleIndexModule where
  address := address
  assetInfo := fun _ =>
    { targetUnit := 0, maxSize := 0, coolOffPeriod := 0, lastTradeTimestamp := 0,
      exchange := .none }
  rebalanceComponents := []
  positionMultiplier := 0
  tradeAllowList := fun _ => false
  anyoneTrade := false
  index := 0
  weth := weth
  uniswapRouter := uniswapRouter
  sushiswapRouter := sushiswapRouter
  balancerProxy := balancerProxy
  wethExcluded := List.not_mem_nil

/-- Replace what is recorded for one component. -/
def editAsset (assetInfo : Address → AssetTradeInfo) (component : Address)
    (edit : AssetTradeInfo → AssetTradeInfo) : Address → AssetTradeInfo :=
  Function.update assetInfo component (edit (assetInfo component))

/-! ### Starting a rebalance -/

def startRebalance (module : SingleIndexModule) (msgSender : Address)
    (newComponents : List Address)
    (newComponentsTargetUnits oldComponentsTargetUnits : List Nat) (positionMultiplier : Nat)
    (world : World) : Outcome SingleIndexModule := do
  ModuleBase.validateOnlyManagerAndValidSet module.address msgSender world
  require (newComponents.length = newComponentsTargetUnits.length) "Array length mismatch"
  let currentComponents := world.setToken.components
  require (currentComponents.length = oldComponentsTargetUnits.length)
    "New allocation must have target for all old components"
  let aggregateComponents := AddressArrayUtils.extend currentComponents newComponents
  let aggregateTargetUnits := oldComponentsTargetUnits ++ newComponentsTargetUnits
  let duplicate ← AddressArrayUtils.hasDuplicate aggregateComponents
  require (duplicate = false) "Cannot duplicate components"
  if excluded : module.weth ∉ aggregateComponents then
    pure { module with
      assetInfo := (aggregateComponents.zip aggregateTargetUnits).foldl
        (fun assetInfo (component, targetUnit) =>
          editAsset assetInfo component fun info => { info with targetUnit := targetUnit })
        module.assetInfo
      rebalanceComponents := aggregateComponents
      positionMultiplier := positionMultiplier
      wethExcluded := excluded }
  else .error "WETH cannot be an index component"

/-! ### What the manager records -/

def validateArrays {Value : Type} (components : List Address) (data : List Value) :
    Outcome Unit := do
  require (components.length = data.length) "Array length mismatch"
  require (0 < components.length) "Array length must be > 0"
  let duplicate ← AddressArrayUtils.hasDuplicate components
  require (duplicate = false) "Cannot duplicate components"

/-- Record a value for each component; the values are checked one by one. -/
def setAssets (module : SingleIndexModule) (msgSender : Address)
    (record : Nat → AssetTradeInfo → Outcome AssetTradeInfo) (components : List Address)
    (values : List Nat) (world : World) : Outcome SingleIndexModule := do
  ModuleBase.validateOnlyManagerAndValidSet module.address msgSender world
  validateArrays components values
  let assetInfo ← (components.zip values).foldlM (fun assetInfo (component, value) => do
    let info ← record value (assetInfo component)
    pure (Function.update assetInfo component info)) module.assetInfo
  pure { module with assetInfo := assetInfo }

def setTradeMaximums (module : SingleIndexModule) (msgSender : Address) :
    List Address → List Nat → World → Outcome SingleIndexModule :=
  module.setAssets msgSender fun tradeMaximum info =>
    pure { info with maxSize := tradeMaximum }

def setExchanges (module : SingleIndexModule) (msgSender : Address) :
    List Address → List Nat → World → Outcome SingleIndexModule :=
  module.setAssets msgSender fun identifier info =>
    match ExchangeId.ofIdentifier identifier with
    | none => .error "Unrecognized exchange identifier"
    | some exchange => pure { info with exchange := exchange }

def setCoolOffPeriods (module : SingleIndexModule) (msgSender : Address) :
    List Address → List Nat → World → Outcome SingleIndexModule :=
  module.setAssets msgSender fun coolOffPeriod info =>
    pure { info with coolOffPeriod := coolOffPeriod }

def updateTraderStatus (module : SingleIndexModule) (msgSender : Address)
    (traders : List Address) (statuses : List Bool) (world : World) :
    Outcome SingleIndexModule := do
  ModuleBase.validateOnlyManagerAndValidSet module.address msgSender world
  require (traders.length = statuses.length) "Array length mismatch"
  require (0 < traders.length) "Array length must be > 0"
  let duplicate ← AddressArrayUtils.hasDuplicate traders
  require (duplicate = false) "Cannot duplicate traders"
  pure { module with
    tradeAllowList := (traders.zip statuses).foldl
      (fun tradeAllowList (trader, status) => Function.update tradeAllowList trader status)
      module.tradeAllowList }

def updateAnyoneTrade (module : SingleIndexModule) (msgSender : Address) (status : Bool)
    (world : World) : Outcome SingleIndexModule := do
  ModuleBase.validateOnlyManagerAndValidSet module.address msgSender world
  pure { module with anyoneTrade := status }

/-- Record the unit of one position as its target, and that it has not been traded. -/
def recordPosition (assetInfo : Address → AssetTradeInfo) (position : PositionEntry) :
    Outcome (Address → AssetTradeInfo) := do
  let unit ← SafeCast.toUint256 position.unit
  pure (editAsset assetInfo position.component fun info =>
    { info with targetUnit := unit, lastTradeTimestamp := 0 })

/-- The module's `initialize`, called by the manager of the Set. -/
def initializeIndex (module : SingleIndexModule) (msgSender : Address) (world : World) :
    Outcome (SingleIndexModule × World) := do
  ModuleBase.validateOnlySetManager msgSender world
  ModuleBase.validateOnlyValidAndPendingSet module.address world
  require (module.index = 0) "Module already in use"
  let positions ← world.setToken.getPositions
  let assetInfo ← positions.foldlM recordPosition module.assetInfo
  let initialized ← world.callSetToken
    (SetToken.initializeModule ⟨world.controller, module.address⟩)
  pure ({ module with assetInfo := assetInfo, index := world.setToken.address }, initialized)

/-! ### Units and targets -/

def currentPositionMultiplier (world : World) : Outcome Nat :=
  SafeCast.toUint256 world.setToken.positionMultiplier

def currentUnit (world : World) (component : Address) : Outcome Nat := do
  let unit ← world.setToken.getDefaultPositionRealUnit component
  SafeCast.toUint256 unit

def normalizeTargetUnit (module : SingleIndexModule) (component : Address)
    (currentPositionMultiplier : Nat) : Outcome Nat := do
  let product ←
    SafeMath.mul (module.assetInfo component).targetUnit currentPositionMultiplier
  SafeMath.div product module.positionMultiplier

def getTargetUnits (module : SingleIndexModule) (components : List Address) (world : World) :
    Outcome (List Nat) := do
  let multiplier ← currentPositionMultiplier world
  components.mapM fun component => module.normalizeTargetUnit component multiplier

/-- Whether a component differs from its target in a way that is looked for. -/
def comparesWithTarget (differs : Nat → Nat → Bool) (module : SingleIndexModule)
    (multiplier : Nat) (world : World) (component : Address) : Outcome Bool := do
  let normalizedTargetUnit ← module.normalizeTargetUnit component multiplier
  let unit ← currentUnit world component
  pure (differs normalizedTargetUnit unit)

def canSell : SingleIndexModule → Nat → World → Address → Outcome Bool :=
  comparesWithTarget fun normalizedTargetUnit unit => decide (normalizedTargetUnit < unit)

def targetUnmet : SingleIndexModule → Nat → World → Address → Outcome Bool :=
  comparesWithTarget fun normalizedTargetUnit unit => decide (normalizedTargetUnit ≠ unit)

/-- The loop returns at the first component that is found. -/
def noneFound (found : Address → Outcome Bool) : List Address → Outcome Bool
  | [] => pure true
  | component :: rest => do
    let met ← found component
    if met = true then pure false else noneFound found rest

def noTokensToSell (module : SingleIndexModule) (world : World) : Outcome Bool := do
  let multiplier ← currentPositionMultiplier world
  noneFound (module.canSell multiplier world) module.rebalanceComponents

def allTargetsMet (module : SingleIndexModule) (world : World) : Outcome Bool := do
  let multiplier ← currentPositionMultiplier world
  noneFound (module.targetUnmet multiplier world) module.rebalanceComponents

/-! ### Raising the targets -/

def isAllowedTrader (module : SingleIndexModule) (caller : Address) : Bool :=
  module.anyoneTrade || module.tradeAllowList caller

def onlyAllowedTrader (module : SingleIndexModule) (caller : Address) : Outcome Unit :=
  require (module.isAllowedTrader caller = true) "Address not permitted to trade"

def onlyEOA (msgSender origin : Address) : Outcome Unit :=
  require (msgSender = origin) "Caller must be EOA Address"

/-- The unit of wrapped ether is read only if all targets are met. -/
def canRaiseAssetTargets (module : SingleIndexModule) (world : World) : Outcome Bool := do
  let met ← module.allTargetsMet world
  if met = true then do
    let unit ← world.setToken.getDefaultPositionRealUnit module.weth
    pure (decide (0 < unit))
  else pure false

/-- The recorded multiplier is lowered, which raises every normalized target. -/
def raiseAssetTargets (module : SingleIndexModule) (msgSender : Address) (world : World) :
    Outcome SingleIndexModule := do
  module.onlyAllowedTrader msgSender
  let raisable ← module.canRaiseAssetTargets world
  require (raisable = true) "Targets must be met and ETH remaining in order to raise target"
  let positionMultiplier ← preciseDiv module.positionMultiplier targetRaiseDivisor
  pure { module with positionMultiplier := positionMultiplier }

/-! ### The data of a trade -/

def validateTradeParameters (module : SingleIndexModule) (component : Address) (world : World) :
    Outcome Unit := do
  require (AddressArrayUtils.contains module.rebalanceComponents component = true)
    "Passed component not included in rebalance"
  let componentInfo := module.assetInfo component
  require (componentInfo.exchange ≠ .none) "Exchange must be specified"
  let ready ← SafeMath.add componentInfo.lastTradeTimestamp componentInfo.coolOffPeriod
  require (ready ≤ world.timestamp) "Cool off period has not elapsed."

/-- Whether the component is bought, and how much of it is traded. -/
def calculateTradeSizeAndDirection (module : SingleIndexModule) (component : Address)
    (world : World) : Outcome (Bool × Nat) := do
  let totalSupply := world.setToken.totalSupply
  let componentMaxSize := (module.assetInfo component).maxSize
  let multiplier ← currentPositionMultiplier world
  let unit ← currentUnit world component
  let targetUnit ← module.normalizeTargetUnit component multiplier
  require (unit ≠ targetUnit) "Target already met"
  let currentNotional ← Position.getDefaultTotalNotional totalSupply unit
  let targetNotional ← preciseMulCeil totalSupply targetUnit
  if currentNotional < targetNotional then do
    let missing ← SafeMath.sub targetNotional currentNotional
    pure (true, min componentMaxSize missing)
  else do
    let surplus ← SafeMath.sub currentNotional targetNotional
    pure (false, min componentMaxSize surplus)

def getBalancerTradeData (module : SingleIndexModule) (sellComponent buyComponent : Address)
    (fixIn : Bool) (amount maxOut : Nat) : Address × ExchangeCall :=
  (module.balancerProxy,
    if fixIn = true then
      .smartSwapExactIn sellComponent buyComponent amount 1 balancerPoolLimit
    else .smartSwapExactOut sellComponent buyComponent amount maxOut balancerPoolLimit)

def getUniswapLikeTradeData (module : SingleIndexModule) (sellComponent buyComponent : Address)
    (fixIn : Bool) (amount : Nat) (exchange : ExchangeId) (world : World) :
    Outcome (Address × ExchangeCall) := do
  let exchangeAddress :=
    if exchange = .uniswap then module.uniswapRouter else module.sushiswapRouter
  let path := [sellComponent, buyComponent]
  let deadline ← SafeMath.add world.timestamp 180
  pure (exchangeAddress,
    if fixIn = true then
      .swapExactTokensForTokens amount 1 path world.setToken.address deadline
    else .swapTokensForExactTokens amount (2 ^ 256 - 1) path world.setToken.address deadline)

/-! ### Trading -/

/-- The calls of the routers are encoded by the ABI. -/
def executeTrade (module : SingleIndexModule) (protocols : Protocols Ledger)
    (encode : ExchangeCall → Bytes) (sellComponent buyComponent : Address) (fixIn : Bool)
    (amount : Nat) (exchange : ExchangeId) (execution : Execution Ledger) :
    Outcome (Execution Ledger) := do
  let wethBalance := execution.world.held module.weth
  let (exchangeAddress, tradeCallData) ←
    (if exchange = .balancer then
      pure (module.getBalancerTradeData sellComponent buyComponent fixIn amount wethBalance)
    else module.getUniswapLikeTradeData sellComponent buyComponent fixIn amount exchange
      execution.world)
  let approveAmount := if sellComponent = module.weth then wethBalance else amount
  let approved ← execution.invokeApprove module.address sellComponent exchangeAddress
    approveAmount
  approved.invokeUnchecked protocols module.address
    ⟨exchangeAddress, 0, .raw (encode tradeCallData)⟩

/-- Returns the amounts sold and bought. -/
def updatePositionState (module : SingleIndexModule) :
    Address → Address → Nat → Nat → World → Outcome (World × Nat × Nat) :=
  World.updatePositions module.address

/-- Exchange one token for the other and update both positions. -/
def swapAndUpdate (module : SingleIndexModule) (protocols : Protocols Ledger)
    (encode : ExchangeCall → Bytes) (component sellComponent buyComponent : Address)
    (fixIn : Bool) (amount : Nat) (execution : Execution Ledger) :
    Outcome (Execution Ledger × Nat × Nat) := do
  let preTradeBuyComponentAmount := execution.world.held buyComponent
  let preTradeSellComponentAmount := execution.world.held sellComponent
  let traded ← module.executeTrade protocols encode sellComponent buyComponent fixIn amount
    (module.assetInfo component).exchange execution
  let (world, sellAmount, buyAmount) ← module.updatePositionState sellComponent buyComponent
    preTradeSellComponentAmount preTradeBuyComponentAmount traded.world
  pure ({ traded with world := world }, sellAmount, buyAmount)

/-- An unfixed amount of wrapped ether is sold for a fixed amount of the component. -/
def buyUnderweight (module : SingleIndexModule) (protocols : Protocols Ledger)
    (encode : ExchangeCall → Bytes) (component : Address) (amount : Nat) :
    Execution Ledger → Outcome (Execution Ledger × Nat × Nat) :=
  module.swapAndUpdate protocols encode component module.weth component false amount

/-- A fixed amount of the component is sold for an unfixed amount of wrapped ether. -/
def sellOverweight (module : SingleIndexModule) (protocols : Protocols Ledger)
    (encode : ExchangeCall → Bytes) (component : Address) (amount : Nat) :
    Execution Ledger → Outcome (Execution Ledger × Nat × Nat) :=
  module.swapAndUpdate protocols encode component component module.weth true amount

/-- Record the time of a trade of the component. -/
def recordTrade (module : SingleIndexModule) (component : Address) (world : World) :
    SingleIndexModule :=
  { module with
    assetInfo := editAsset module.assetInfo component fun info =>
      { info with lastTradeTimestamp := world.timestamp } }

def trade (module : SingleIndexModule) (msgSender origin : Address)
    (protocols : Protocols Ledger) (encode : ExchangeCall → Bytes) (component : Address)
    (execution : Execution Ledger) : Outcome (SingleIndexModule × Execution Ledger) := do
  module.onlyAllowedTrader msgSender
  onlyEOA msgSender origin
  module.validateTradeParameters component execution.world
  let (isBuy, tradeAmount) ← module.calculateTradeSizeAndDirection component execution.world
  let (traded, _, _) ←
    (if isBuy = true then
      module.buyUnderweight protocols encode component tradeAmount execution
    else module.sellOverweight protocols encode component tradeAmount execution)
  pure (module.recordTrade component traded.world, traded)

def tradeRemainingWETH (module : SingleIndexModule) (msgSender origin : Address)
    (protocols : Protocols Ledger) (encode : ExchangeCall → Bytes) (component : Address)
    (execution : Execution Ledger) : Outcome (SingleIndexModule × Execution Ledger) := do
  module.onlyAllowedTrader msgSender
  onlyEOA msgSender origin
  let sold ← module.noTokensToSell execution.world
  require (sold = true) "Must sell all sellable tokens before can be called"
  module.validateTradeParameters component execution.world
  let (_, tradeLimit) ← module.calculateTradeSizeAndDirection component execution.world
  let (traded, _, componentTradeSize) ← module.swapAndUpdate protocols encode component
    module.weth component true (execution.world.held module.weth) execution
  require (componentTradeSize < tradeLimit) "Trade size exceeds trade size limit"
  pure (module.recordTrade component traded.world, traded)

end SingleIndexModule

end IndexProtocol

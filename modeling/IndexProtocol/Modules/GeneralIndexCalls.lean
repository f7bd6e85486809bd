/-
This file models the rebalances of the general index module: the targets that
the manager sets and raises, the trades of one component against wrapped ether,
and the trade of the wrapped ether that remains once there is nothing left to
sell. Targets are recorded at the position multiplier the manager states, and
are normalized to the current one where they are read.
-/

import IndexProtocol.Modules.GeneralIndexModule
import IndexProtocol.Protocol.Execution

namespace IndexProtocol

open Revert PreciseUnitMath

/-- The adapter of an exchange. The call data is for the tokens sent and received, the receiving
account, whether the quantity sent is fixed, the quantity sent, the limit of the other one and
the data recorded for the component. -/
structure IndexExchangeAdapter where
  getSpender : Address
  getTradeCalldata : Address → Address → Address → Bool → Nat → Nat → Bytes →
    Address × Nat × Bytes

structure IndexAdapters extends IntegrationRegistry where
  exchangeAdapter : Address → IndexExchangeAdapter

structure TradeInfo where
  exchangeAdapter : Address
  sendToken : Address
  receiveToken : Address
  isSendTokenFixed : Bool
  setTotalSupply : Nat
  totalFixedQuantity : Nat
  sendQuantity : Nat
  floatingQuantityLimit : Nat
  preTradeSendTokenBalance : Nat
  preTradeReceiveTokenBalance : Nat
  exchangeData : Bytes

/-- The module with the wrapped ether token that it trades against. -/
structure GeneralIndexTrading extends GeneralIndexModule where
  weth : Address

namespace GeneralIndexTrading

variable {Ledger : Type}

def protocolFeeIndex : Nat := 0

/-! ### Starting a rebalance -/

def getAggregateComponentsAndUnits (currentComponents newComponents : List Address)
    (newComponentsTargetUnits oldComponentsTargetUnits : List Nat) :
    Outcome (List Address × List Nat) := do
  require (newComponents.length = newComponentsTargetUnits.length) "Array length mismatch"
  require (currentComponents.length = oldComponentsTargetUnits.length)
    "Old Components targets missing"
  let aggregateComponents := AddressArrayUtils.extend currentComponents newComponents
  let duplicate ← AddressArrayUtils.hasDuplicate aggregateComponents
  require (duplicate = false) "Cannot duplicate components"
  pure (aggregateComponents, oldComponentsTargetUnits ++ newComponentsTargetUnits)

/-- Record the target unit of one component. -/
def setTargetUnit (setToken : SetToken) (executionInfo : Address → TradeExecutionParams)
    (entry : Address × Nat) : Outcome (Address → TradeExecutionParams) := do
  require (Position.hasExternalPosition setToken entry.1 = false)
    "External positions not allowed"
  pure (Function.update executionInfo entry.1
    { executionInfo entry.1 with targetUnit := entry.2 })

def startRebalance (module : GeneralIndexTrading) (msgSender : Address)
    (newComponents : List Address)
    (newComponentsTargetUnits oldComponentsTargetUnits : List Nat) (positionMultiplier : Nat)
    (world : World) : Outcome GeneralIndexTrading := do
  ModuleBase.validateOnlyManagerAndValidSet module.address msgSender world
  let (aggregateComponents, aggregateTargetUnits) ← getAggregateComponentsAndUnits
    world.setToken.components newComponents newComponentsTargetUnits oldComponentsTargetUnits
  let executionInfo ← (aggregateComponents.zip aggregateTargetUnits).foldlM
    (setTargetUnit world.setToken) module.executionInfo
  pure { module with
    executionInfo := executionInfo
    rebalanceInfo := { module.rebalanceInfo with
      rebalanceComponents := aggregateComponents
      positionMultiplier := positionMultiplier } }

def setRaiseTargetPercentage (module : GeneralIndexTrading) (msgSender : Address)
    (raiseTargetPercentage : Nat) (world : World) : Outcome GeneralIndexTrading := do
  ModuleBase.validateOnlyManagerAndValidSet module.address msgSender world
  require (0 < raiseTargetPercentage) "Target percentage must be > 0"
  pure { module with
    rebalanceInfo := { module.rebalanceInfo with
      raiseTargetPercentage := raiseTargetPercentage } }

/-! ### What the manager records -/

/-- Record a value for each component; the values are checked one by one. -/
def setExecutionInfo {Value : Type} (module : GeneralIndexTrading) (msgSender : Address)
    (record : Address → Value → TradeExecutionParams → Outcome TradeExecutionParams)
    (components : List Address) (values : List Value) (world : World) :
    Outcome GeneralIndexTrading := do
  ModuleBase.validateOnlyManagerAndValidSet module.address msgSender world
  AddressArrayUtils.validatePairsWithArray components values
  let executionInfo ← (components.zip values).foldlM (fun executionInfo entry => do
    let info ← record entry.1 entry.2 (executionInfo entry.1)
    pure (Function.update executionInfo entry.1 info)) module.executionInfo
  pure { module with executionInfo := executionInfo }

def setTradeMaximums (module : GeneralIndexTrading) (msgSender : Address) :
    List Address → List Nat → World → Outcome GeneralIndexTrading :=
  module.setExecutionInfo msgSender fun _ tradeMaximum info =>
    pure { info with maxSize := tradeMaximum }

/-- Wrapped ether is left out without a word. -/
def setExchanges (module : GeneralIndexTrading) (msgSender : Address)
    (registry : IntegrationRegistry) :
    List Address → List String → World → Outcome GeneralIndexTrading :=
  module.setExecutionInfo msgSender fun component exchangeName info =>
    if component ≠ module.weth then do
      require (registry.getIntegrationAdapter module.address exchangeName ≠ 0)
        "Unrecognized exchange name"
      pure { info with exchangeName := exchangeName }
    else pure info

def setCoolOffPeriods (module : GeneralIndexTrading) (msgSender : Address) :
    List Address → List Nat → World → Outcome GeneralIndexTrading :=
  module.setExecutionInfo msgSender fun _ coolOffPeriod info =>
    pure { info with coolOffPeriod := coolOffPeriod }

def setExchangeData (module : GeneralIndexTrading) (msgSender : Address) :
    List Address → List Bytes → World → Outcome GeneralIndexTrading :=
  module.setExecutionInfo msgSender fun _ exchangeData info =>
    pure { info with exchangeData := exchangeData }

/-! ### Units and targets -/

def getDefaultPositionRealUnit (world : World) (component : Address) : Outcome Nat := do
  let unit ← world.setToken.getDefaultPositionRealUnit component
  SafeCast.toUint256 unit

def getNormalizedTargetUnit (module : GeneralIndexTrading) (world : World)
    (component : Address) : Outcome Nat := do
  let multiplier ← SafeCast.toUint256 world.setToken.positionMultiplier
  let product ← SafeMath.mul (module.executionInfo component).targetUnit multiplier
  SafeMath.div product module.rebalanceInfo.positionMultiplier

/-- The current unit, the normalized target unit, and the notional amount of each. -/
def getUnitsAndNotionalAmounts (module : GeneralIndexTrading) (component : Address)
    (totalSupply : Nat) (world : World) : Outcome (Nat × Nat × Nat × Nat) := do
  let currentUnit ← getDefaultPositionRealUnit world component
  let targetUnit ← module.getNormalizedTargetUnit world component
  let currentNotional ← Position.getDefaultTotalNotional totalSupply currentUnit
  let targetNotional ← preciseMulCeil totalSupply targetUnit
  pure (currentUnit, targetUnit, currentNotional, targetNotional)

/-- The right operand is read only if the component is not wrapped ether. -/
def canSell (module : GeneralIndexTrading) (world : World) (component : Address) :
    Outcome Bool :=
  if component = module.weth then pure false
  else do
    let target ← module.getNormalizedTargetUnit world component
    let unit ← getDefaultPositionRealUnit world component
    pure (decide (target < unit))

/-- The loop returns at the first component that can be sold. -/
def noTokensToSellFrom (module : GeneralIndexTrading) (world : World) :
    List Address → Outcome Bool
  | [] => pure true
  | component :: rest => do
    let sellable ← module.canSell world component
    if sellable = true then pure false else module.noTokensToSellFrom world rest

def noTokensToSell (module : GeneralIndexTrading) (world : World) : Outcome Bool :=
  module.noTokensToSellFrom world module.rebalanceInfo.rebalanceComponents

def targetUnmet (module : GeneralIndexTrading) (world : World) (component : Address) :
    Outcome Bool :=
  if component = module.weth then pure false
  else do
    let normalizedTargetUnit ← module.getNormalizedTargetUnit world component
    let currentUnit ← getDefaultPositionRealUnit world component
    if 0 < normalizedTargetUnit then do
      let met ← approximatelyEquals normalizedTargetUnit currentUnit 1
      pure (!met)
    else pure (decide (normalizedTargetUnit ≠ currentUnit))

/-- The loop returns at the first unmet target. -/
def allTargetsMetFrom (module : GeneralIndexTrading) (world : World) :
    List Address → Outcome Bool
  | [] => pure true
  | component :: rest => do
    let unmet ← module.targetUnmet world component
    if unmet = true then pure false else module.allTargetsMetFrom world rest

def allTargetsMet (module : GeneralIndexTrading) (world : World) : Outcome Bool :=
  module.allTargetsMetFrom world module.rebalanceInfo.rebalanceComponents

/-! ### Raising the targets -/

/-- Whether wrapped ether is above its target, read only once all other targets are met. -/
def canRaiseAssetTargets (module : GeneralIndexTrading) (world : World) : Outcome Bool := do
  let met ← module.allTargetsMet world
  if met = true then do
    let unit ← getDefaultPositionRealUnit world module.weth
    let target ← module.getNormalizedTargetUnit world module.weth
    pure (decide (target < unit))
  else pure false

/-- The recorded multiplier is lowered, which raises every normalized target. -/
def raiseAssetTargets (module : GeneralIndexTrading) (msgSender : Address) (world : World) :
    Outcome GeneralIndexTrading := do
  module.validateOnlyAllowedTrader msgSender
  let raisable ← module.canRaiseAssetTargets world
  require (raisable = true) "Targets not met or ETH =~ 0"
  let raised ← SafeMath.add preciseUnit module.rebalanceInfo.raiseTargetPercentage
  let positionMultiplier ← preciseDiv module.rebalanceInfo.positionMultiplier raised
  pure { module with
    rebalanceInfo := { module.rebalanceInfo with positionMultiplier := positionMultiplier } }

/-! ### The data of a trade -/

def validateTradeParameters (module : GeneralIndexTrading) (component : Address)
    (world : World) : Outcome Unit := do
  require (component ≠ module.weth) "Can not explicitly trade WETH"
  require (AddressArrayUtils.contains module.rebalanceInfo.rebalanceComponents component = true)
    "Component not part of rebalance"
  let componentInfo := module.executionInfo component
  let ready ← SafeMath.add componentInfo.lastTradeTimestamp componentInfo.coolOffPeriod
  require (ready ≤ world.timestamp) "Component cool off in progress"
  require (Position.hasExternalPosition world.setToken component = false)
    "External positions not allowed"

def calculateTradeSizeAndDirection (module : GeneralIndexTrading) (component : Address)
    (totalSupply : Nat) (world : World) : Outcome (Bool × Nat) := do
  let protocolFee := world.controller.getModuleFee module.address protocolFeeIndex
  let componentMaxSize := (module.executionInfo component).maxSize
  let (currentUnit, targetUnit, currentNotional, targetNotional) ←
    module.getUnitsAndNotionalAmounts component totalSupply world
  require (currentUnit ≠ targetUnit) "Target already met"
  if targetNotional < currentNotional then do
    let surplus ← SafeMath.sub currentNotional targetNotional
    pure (true, min componentMaxSize surplus)
  else do
    let missing ← SafeMath.sub targetNotional currentNotional
    let kept ← SafeMath.sub preciseUnit protocolFee
    let bought ← preciseDiv missing kept
    pure (false, min componentMaxSize bought)

/-- Without the calculation the wrapped ether is sent, in a quantity still to be set. -/
def getDefaultTradeInfo (module : GeneralIndexTrading) (adapters : IndexAdapters)
    (component : Address) (calculateTradeDirection : Bool) (world : World) :
    Outcome TradeInfo := do
  let setTotalSupply := world.setToken.totalSupply
  let exchangeAdapter ← ModuleBase.getAndValidateAdapter module.address
    adapters.toIntegrationRegistry (module.executionInfo component).exchangeName
  let (isSendTokenFixed, totalFixedQuantity) ←
    (if calculateTradeDirection = true then
      module.calculateTradeSizeAndDirection component setTotalSupply world
    else pure (false, 0))
  let (sendToken, receiveToken) :=
    if isSendTokenFixed = true then (component, module.weth) else (module.weth, component)
  pure
    { exchangeAdapter, sendToken, receiveToken, isSendTokenFixed, setTotalSupply,
      totalFixedQuantity, sendQuantity := 0, floatingQuantityLimit := 0,
      preTradeSendTokenBalance := world.held sendToken,
      preTradeReceiveTokenBalance := world.held receiveToken,
      exchangeData := (module.executionInfo component).exchangeData }

def createTradeInfo (module : GeneralIndexTrading) (adapters : IndexAdapters)
    (component : Address) (ethQuantityLimit : Nat) (world : World) : Outcome TradeInfo := do
  let tradeInfo ← module.getDefaultTradeInfo adapters component true world
  if tradeInfo.isSendTokenFixed = true then
    pure { tradeInfo with
      sendQuantity := tradeInfo.totalFixedQuantity
      floatingQuantityLimit := ethQuantityLimit }
  else
    pure { tradeInfo with
      sendQuantity := min ethQuantityLimit tradeInfo.preTradeSendTokenBalance
      floatingQuantityLimit := tradeInfo.totalFixedQuantity }

/-- The quantity of wrapped ether above the target, which is what is sent. -/
def remainingQuantity (module : GeneralIndexTrading) (setTotalSupply : Nat) (world : World) :
    Outcome Nat := do
  let (_, _, currentNotional, targetNotional) ←
    module.getUnitsAndNotionalAmounts module.weth setTotalSupply world
  SafeMath.sub currentNotional targetNotional

def createTradeRemainingInfo (module : GeneralIndexTrading) (adapters : IndexAdapters)
    (component : Address) (minComponentReceived : Nat) (world : World) :
    Outcome TradeInfo := do
  let tradeInfo ← module.getDefaultTradeInfo adapters component false world
  let sendQuantity ← module.remainingQuantity tradeInfo.setTotalSupply world
  pure { tradeInfo with
    sendQuantity := sendQuantity
    floatingQuantityLimit := minComponentReceived
    isSendTokenFixed := true }

/-! ### Trading -/

def executeTrade (module : GeneralIndexTrading) (protocols : Protocols Ledger)
    (adapters : IndexAdapters) (tradeInfo : TradeInfo) (execution : Execution Ledger) :
    Outcome (Execution Ledger) := do
  let adapter := adapters.exchangeAdapter tradeInfo.exchangeAdapter
  let approved ← execution.invokeApprove module.address tradeInfo.sendToken adapter.getSpender
    tradeInfo.sendQuantity
  let (targetExchange, callValue, methodData) :=
    adapter.getTradeCalldata tradeInfo.sendToken tradeInfo.receiveToken
      approved.world.setToken.address tradeInfo.isSendTokenFixed tradeInfo.sendQuantity
      tradeInfo.floatingQuantityLimit tradeInfo.exchangeData
  approved.invokeUnchecked protocols module.address ⟨targetExchange, callValue, .raw methodData⟩

/-- Returns the fee. -/
def accrueProtocolFee (module : GeneralIndexTrading) (tradeInfo : TradeInfo) (world : World) :
    Outcome (World × Nat) := do
  let exchangedQuantity ← SafeMath.sub (world.held tradeInfo.receiveToken)
    tradeInfo.preTradeReceiveTokenBalance
  let protocolFee ←
    ModuleBase.getModuleFee module.address protocolFeeIndex exchangedQuantity world
  let paid ← ModuleBase.payProtocolFeeFromSetToken module.address tradeInfo.receiveToken
    protocolFee world
  pure (paid, protocolFee)

/-- Returns the net amounts sent and received. -/
def updatePositionStateAndTimestamp (module : GeneralIndexTrading) (tradeInfo : TradeInfo)
    (component : Address) (world : World) :
    Outcome (GeneralIndexTrading × World × Nat × Nat) := do
  let (sent, postTradeSendTokenBalance, _, _) ← world.calculateAndEditDefaultPosition
    module.address tradeInfo.sendToken tradeInfo.setTotalSupply
    tradeInfo.preTradeSendTokenBalance
  let (received, postTradeReceiveTokenBalance, _, _) ← sent.calculateAndEditDefaultPosition
    module.address tradeInfo.receiveToken tradeInfo.setTotalSupply
    tradeInfo.preTradeReceiveTokenBalance
  let netSendAmount ←
    SafeMath.sub tradeInfo.preTradeSendTokenBalance postTradeSendTokenBalance
  let netReceiveAmount ←
    SafeMath.sub postTradeReceiveTokenBalance tradeInfo.preTradeReceiveTokenBalance
  pure ({ module with
    executionInfo := Function.update module.executionInfo component
      { module.executionInfo component with lastTradeTimestamp := received.timestamp } },
    received, netSendAmount, netReceiveAmount)

def validateOnlyEOAIfUnrestricted (module : GeneralIndexTrading) (msgSender origin : Address) :
    Outcome Unit :=
  require (module.permissionInfo.anyoneTrade = true → msgSender = origin)
    "Caller must be EOA Address"

/-- The trade itself, the fee and the positions, with the net amounts and the fee. -/
def settleTrade (module : GeneralIndexTrading) (protocols : Protocols Ledger)
    (adapters : IndexAdapters) (tradeInfo : TradeInfo) (component : Address)
    (execution : Execution Ledger) :
    Outcome (GeneralIndexTrading × Execution Ledger × Nat × Nat × Nat) := do
  let traded ← module.executeTrade protocols adapters tradeInfo execution
  let (paid, protocolFee) ← module.accrueProtocolFee tradeInfo traded.world
  let (updated, world, netSendAmount, netReceiveAmount) ←
    module.updatePositionStateAndTimestamp tradeInfo component paid
  pure (updated, { traded with world := world }, netSendAmount, netReceiveAmount, protocolFee)

def trade (module : GeneralIndexTrading) (msgSender origin : Address)
    (protocols : Protocols Ledger) (adapters : IndexAdapters) (component : Address)
    (ethQuantityLimit : Nat) (execution : Execution Ledger) :
    Outcome (GeneralIndexTrading × Execution Ledger) := do
  module.validateOnlyAllowedTrader msgSender
  module.validateOnlyEOAIfUnrestricted msgSender origin
  module.validateTradeParameters component execution.world
  let tradeInfo ←
    module.createTradeInfo adapters component ethQuantityLimit execution.world
  let (updated, settled, _, _, _) ←
    module.settleTrade protocols adapters tradeInfo component execution
  pure (updated, settled)

/-- The check that wrapped ether is above its target, which reads the recorded target as it
is. -/
def validateWETHAboveTarget (module : GeneralIndexTrading) (world : World) : Outcome Unit := do
  let unit ← getDefaultPositionRealUnit world module.weth
  require ((module.executionInfo module.weth).targetUnit < unit) "WETH is below target unit"

def validateComponentPositionUnit (module : GeneralIndexTrading) (component : Address)
    (world : World) : Outcome Unit := do
  let currentUnit ← getDefaultPositionRealUnit world component
  let targetUnit ← module.getNormalizedTargetUnit world component
  require (currentUnit ≤ targetUnit) "Can not exceed target unit"

def tradeRemainingWETH (module : GeneralIndexTrading) (msgSender origin : Address)
    (protocols : Protocols Ledger) (adapters : IndexAdapters) (component : Address)
    (minComponentReceived : Nat) (execution : Execution Ledger) :
    Outcome (GeneralIndexTrading × Execution Ledger) := do
  module.validateOnlyAllowedTrader msgSender
  module.validateOnlyEOAIfUnrestricted msgSender origin
  let sold ← module.noTokensToSell execution.world
  require (sold = true) "Sell other set components first"
  module.validateWETHAboveTarget execution.world
  module.validateTradeParameters component execution.world
  let tradeInfo ←
    module.createTradeRemainingInfo adapters component minComponentReceived execution.world
  let (updated, settled, _, netReceiveAmount, protocolFee) ←
    module.settleTrade protocols adapters tradeInfo component execution
  let received ← SafeMath.add netReceiveAmount protocolFee
  require (received < (updated.executionInfo component).maxSize)
    "Trade amount > max trade size"
  updated.validateComponentPositionUnit component settled.world
  pure (updated, settled)

end GeneralIndexTrading

end IndexProtocol

/-
This file models the module with which the manager trades one token of a Set for
another at an exchange. The adapter of the exchange says which contract to
approve and what to call; what the exchange does with it is left open. The
module checks the quantity received, pays the protocol's fee out of it, and
edits both positions from the balances that are left.
-/

import IndexProtocol.Protocol.Execution

namespace IndexProtocol

open Revert PreciseUnitMath

/-- The adapter of an exchange: the account to approve, and the call data for the tokens sent and
received, the receiving account, the quantity sent, the least quantity received and the data of
the manager. -/
structure ExchangeAdapter (Ledger : Type) where
  getSpender : Address
  getTradeCalldata (fromToken toToken toAddress : Address) (fromQuantity minToQuantity : Nat)
    (data : Bytes) : World → Ledger → Outcome (Address × Nat × Bytes)

/-- The integration registry and the adapters as one call finds them. -/
structure ExchangeAdapters (Ledger : Type) extends IntegrationRegistry where
  exchangeAdapter : Address → ExchangeAdapter Ledger

/-- The module keeps no storage of its own. -/
structure TradeModule where
  address : Address

namespace TradeModule

variable {Ledger : Type}

structure TradeInfo where
  exchangeAdapter : Address
  sendToken : Address
  receiveToken : Address
  setTotalSupply : Nat
  totalSendQuantity : Nat
  totalMinReceiveQuantity : Nat
  preTradeSendTokenBalance : Nat
  preTradeReceiveTokenBalance : Nat

/-- What a trade reports. -/
structure ComponentExchanged where
  sendToken : Address
  receiveToken : Address
  exchangeAdapter : Address
  totalSendAmount : Nat
  totalReceiveAmount : Nat
  protocolFee : Nat

def protocolFeeIndex : Nat := 0

/-- The module's `initialize`, called by the manager. -/
def initializeSet (module : TradeModule) (msgSender : Address) (world : World) :
    Outcome World := do
  ModuleBase.validateOnlyValidAndPendingSet module.address world
  ModuleBase.validateOnlySetManager msgSender world
  world.callSetToken (SetToken.initializeModule ⟨world.controller, module.address⟩)

/-! ### The data of a trade -/

def createTradeInfo (module : TradeModule) (adapters : ExchangeAdapters Ledger)
    (exchangeName : String) (sendToken receiveToken : Address)
    (sendQuantity minReceiveQuantity : Nat) (world : World) : Outcome TradeInfo := do
  let exchangeAdapter ← ModuleBase.getAndValidateAdapter module.address
    adapters.toIntegrationRegistry exchangeName
  let setTotalSupply := world.setToken.totalSupply
  let totalSendQuantity ← Position.getDefaultTotalNotional setTotalSupply sendQuantity
  let totalMinReceiveQuantity ←
    Position.getDefaultTotalNotional setTotalSupply minReceiveQuantity
  pure
    { exchangeAdapter, sendToken, receiveToken, setTotalSupply, totalSendQuantity,
      totalMinReceiveQuantity, preTradeSendTokenBalance := world.held sendToken,
      preTradeReceiveTokenBalance := world.held receiveToken }

def validatePreTradeData (tradeInfo : TradeInfo) (sendQuantity : Nat) (world : World) :
    Outcome Unit := do
  require (0 < tradeInfo.totalSendQuantity) "Token to sell must be nonzero"
  let sufficient ←
    Position.hasSufficientDefaultUnits world.setToken tradeInfo.sendToken sendQuantity
  require (sufficient = true) "Unit cant be greater than existing"

/-! ### Trading -/

def executeTrade (module : TradeModule) (protocols : Protocols Ledger)
    (adapters : ExchangeAdapters Ledger) (tradeInfo : TradeInfo) (data : Bytes)
    (execution : Execution Ledger) : Outcome (Execution Ledger) := do
  let adapter := adapters.exchangeAdapter tradeInfo.exchangeAdapter
  let approved ← execution.invokeApprove module.address tradeInfo.sendToken adapter.getSpender
    tradeInfo.totalSendQuantity
  let (targetExchange, callValue, methodData) ← adapter.getTradeCalldata tradeInfo.sendToken
    tradeInfo.receiveToken approved.world.setToken.address tradeInfo.totalSendQuantity
    tradeInfo.totalMinReceiveQuantity data approved.world approved.ledger
  approved.invokeUnchecked protocols module.address ⟨targetExchange, callValue, .raw methodData⟩

/-- Returns the quantity that was exchanged. -/
def validatePostTrade (tradeInfo : TradeInfo) (world : World) : Outcome Nat := do
  let exchangedQuantity ← SafeMath.sub (world.held tradeInfo.receiveToken)
    tradeInfo.preTradeReceiveTokenBalance
  require (tradeInfo.totalMinReceiveQuantity ≤ exchangedQuantity)
    "Slippage greater than allowed"
  pure exchangedQuantity

/-- Returns the fee. -/
def accrueProtocolFee (module : TradeModule) (tradeInfo : TradeInfo) (exchangedQuantity : Nat)
    (world : World) : Outcome (World × Nat) := do
  let protocolFeeTotal ←
    ModuleBase.getModuleFee module.address protocolFeeIndex exchangedQuantity world
  let paid ← ModuleBase.payProtocolFeeFromSetToken module.address tradeInfo.receiveToken
    protocolFeeTotal world
  pure (paid, protocolFeeTotal)

/-- Returns the net amounts sent and received. -/
def updateSetTokenPositions (module : TradeModule) (tradeInfo : TradeInfo) (world : World) :
    Outcome (World × Nat × Nat) := do
  let (sent, currentSendTokenBalance, _) ← world.calculateAndEditDefaultPosition module.address
    tradeInfo.sendToken tradeInfo.setTotalSupply tradeInfo.preTradeSendTokenBalance
  let (received, currentReceiveTokenBalance, _) ← sent.calculateAndEditDefaultPosition
    module.address tradeInfo.receiveToken tradeInfo.setTotalSupply
    tradeInfo.preTradeReceiveTokenBalance
  let netSendAmount ←
    SafeMath.sub tradeInfo.preTradeSendTokenBalance currentSendTokenBalance
  let netReceiveAmount ←
    SafeMath.sub currentReceiveTokenBalance tradeInfo.preTradeReceiveTokenBalance
  pure (received, netSendAmount, netReceiveAmount)

def trade (module : TradeModule) (msgSender : Address) (protocols : Protocols Ledger)
    (adapters : ExchangeAdapters Ledger) (exchangeName : String) (sendToken : Address)
    (sendQuantity : Nat) (receiveToken : Address) (minReceiveQuantity : Nat) (data : Bytes)
    (execution : Execution Ledger) : Outcome (Execution Ledger × ComponentExchanged) := do
  ModuleBase.validateOnlyManagerAndValidSet module.address msgSender execution.world
  let tradeInfo ← module.createTradeInfo adapters exchangeName sendToken receiveToken
    sendQuantity minReceiveQuantity execution.world
  validatePreTradeData tradeInfo sendQuantity execution.world
  let traded ← module.executeTrade protocols adapters tradeInfo data execution
  let exchangedQuantity ← validatePostTrade tradeInfo traded.world
  let (paid, protocolFee) ← module.accrueProtocolFee tradeInfo exchangedQuantity traded.world
  let (world, netSendAmount, netReceiveAmount) ←
    module.updateSetTokenPositions tradeInfo paid
  pure ({ traded with world := world },
    { sendToken, receiveToken, exchangeAdapter := tradeInfo.exchangeAdapter,
      totalSendAmount := netSendAmount, totalReceiveAmount := netReceiveAmount, protocolFee })

end TradeModule

end IndexProtocol

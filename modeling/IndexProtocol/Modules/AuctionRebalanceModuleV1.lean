/-
This file models the module that rebalances a Set by Dutch auctions. The manager
sets a target unit and a price adapter for every component, and bidders buy or
sell components against the quote asset until the targets are met or the
duration has elapsed. Targets are normalized by the ratio of the Set's position
multiplier to the multiplier logged by the rebalance, which is also how targets
are raised.
-/

import IndexProtocol.Protocol.ModuleBase

namespace IndexProtocol

open Revert PreciseUnitMath

/-! ### Storage -/

structure AuctionExecutionParams where
  targetUnit : Nat
  priceAdapterName : String
  priceAdapterConfigData : Bytes

structure BidPermissionInfo where
  isAnyoneAllowedToBid : Bool
  biddersHistory : List Address
  bidAllowList : Address → Bool

structure RebalanceInfo where
  quoteAsset : Address
  rebalanceStartTime : Nat
  rebalanceDuration : Nat
  positionMultiplier : Nat
  raiseTargetPercentage : Nat
  rebalanceComponents : List Address

/-- The module's storage for one Set. -/
structure AuctionRebalanceModuleV1 where
  address : Address
  executionInfo : Address → AuctionExecutionParams
  permissionInfo : BidPermissionInfo
  rebalanceInfo : RebalanceInfo

structure BidInfo where
  sendToken : Address
  receiveToken : Address
  priceAdapter : Address
  priceAdapterConfigData : Bytes
  isSellAuction : Bool
  auctionQuantity : Nat
  componentPrice : Nat
  quantitySentBySet : Nat
  quantityReceivedBySet : Nat
  preBidTokenSentBalance : Nat
  preBidTokenReceivedBalance : Nat
  setTotalSupply : Nat

/-- The value of a deleted storage record. -/
def RebalanceInfo.deleted : RebalanceInfo where
  quoteAsset := 0
  rebalanceStartTime := 0
  rebalanceDuration := 0
  positionMultiplier := 0
  raiseTargetPercentage := 0
  rebalanceComponents := []

namespace AuctionRebalanceModuleV1

/-- The storage of a freshly deployed module. -/
def deployed (address : Address) : AuctionRebalanceModuleV1 where
  address := address
  executionInfo := fun _ =>
    { targetUnit := 0, priceAdapterName := "", priceAdapterConfigData := [] }
  permissionInfo :=
    { isAnyoneAllowedToBid := false, biddersHistory := [], bidAllowList := fun _ => false }
  rebalanceInfo := .deleted

def protocolFeeIndex : Nat := 0

/-! ### Starting a rebalance -/

def getAuctionPriceAdapter (module : AuctionRebalanceModuleV1) (adapters : Adapters)
    (component : Address) : Outcome Address :=
  ModuleBase.getAndValidateAdapter module.address adapters.toIntegrationRegistry
    (module.executionInfo component).priceAdapterName

def validateAuctionExecutionPriceParams (module : AuctionRebalanceModuleV1)
    (adapters : Adapters) (auctionParams : AuctionExecutionParams) : Outcome Unit := do
  let adapter ← ModuleBase.getAndValidateAdapter module.address adapters.toIntegrationRegistry
    auctionParams.priceAdapterName
  require ((adapters.priceAdapter adapter).isPriceAdapterConfigDataValid
    auctionParams.priceAdapterConfigData = true) "Price adapter config data invalid"

def concatAndValidateAuctionParams (module : AuctionRebalanceModuleV1) (adapters : Adapters)
    (oldAuctionParams newAuctionParams : List AuctionExecutionParams) :
    Outcome (List AuctionExecutionParams) := do
  oldAuctionParams.forM (module.validateAuctionExecutionPriceParams adapters)
  newAuctionParams.forM fun auctionParams => do
    require (0 < auctionParams.targetUnit) "New component target unit must be greater than 0"
    module.validateAuctionExecutionPriceParams adapters auctionParams
  pure (oldAuctionParams ++ newAuctionParams)

def aggregateComponentsAndAuctionParams (module : AuctionRebalanceModuleV1)
    (adapters : Adapters) (currentComponents newComponents : List Address)
    (newComponentsAuctionParams oldComponentsAuctionParams : List AuctionExecutionParams) :
    Outcome (List Address × List AuctionExecutionParams) := do
  require (newComponents.length = newComponentsAuctionParams.length)
    "New components and params length mismatch"
  require (currentComponents.length = oldComponentsAuctionParams.length)
    "Old components and params length mismatch"
  let aggregateComponents := AddressArrayUtils.extend currentComponents newComponents
  let duplicate ← AddressArrayUtils.hasDuplicate aggregateComponents
  require (duplicate = false) "Cannot have duplicate components"
  let aggregateAuctionParams ← module.concatAndValidateAuctionParams adapters
    oldComponentsAuctionParams newComponentsAuctionParams
  pure (aggregateComponents, aggregateAuctionParams)

/-- Record the parameters of one component. -/
def setExecutionInfo (setToken : SetToken)
    (executionInfo : Address → AuctionExecutionParams)
    (entry : Address × AuctionExecutionParams) :
    Outcome (Address → AuctionExecutionParams) := do
  require (Position.hasExternalPosition setToken entry.1 = false)
    "External positions not allowed"
  pure (Function.update executionInfo entry.1 entry.2)

structure StartRebalanceParams where
  quoteAsset : Address
  newComponents : List Address
  newComponentsAuctionParams : List AuctionExecutionParams
  oldComponentsAuctionParams : List AuctionExecutionParams
  shouldLockSetToken : Bool
  rebalanceDuration : Nat
  initialPositionMultiplier : Nat

/-- A Set that the module has already locked stays locked. -/
def lockSetToken (module : AuctionRebalanceModuleV1) (shouldLockSetToken : Bool)
    (world : World) : Outcome World :=
  if shouldLockSetToken = true ∧ world.setToken.locker ≠ module.address then
    world.callSetToken (SetToken.lock ⟨world.controller, module.address⟩)
  else pure world

def startRebalance (module : AuctionRebalanceModuleV1) (msgSender : Address)
    (adapters : Adapters) (params : StartRebalanceParams) (world : World) :
    Outcome (AuctionRebalanceModuleV1 × World) := do
  ModuleBase.validateOnlyManagerAndValidSet module.address msgSender world
  let locked ← module.lockSetToken params.shouldLockSetToken world
  let (allComponents, allAuctionParams) ← module.aggregateComponentsAndAuctionParams adapters
    locked.setToken.components params.newComponents params.newComponentsAuctionParams
    params.oldComponentsAuctionParams
  let executionInfo ← (allComponents.zip allAuctionParams).foldlM
    (setExecutionInfo locked.setToken) module.executionInfo
  pure ({ module with
    executionInfo := executionInfo
    rebalanceInfo := { module.rebalanceInfo with
      quoteAsset := params.quoteAsset
      rebalanceStartTime := locked.timestamp
      rebalanceDuration := params.rebalanceDuration
      positionMultiplier := params.initialPositionMultiplier
      rebalanceComponents := allComponents } }, locked)

/-! ### Units, targets and the state of the auction -/

def getDefaultPositionRealUnit (world : World) (component : Address) : Outcome Nat := do
  let unit ← world.setToken.getDefaultPositionRealUnit component
  SafeCast.toUint256 unit

def getNormalizedTargetUnit (module : AuctionRebalanceModuleV1) (world : World)
    (component : Address) : Outcome Nat := do
  let multiplier ← SafeCast.toUint256 world.setToken.positionMultiplier
  let product ← SafeMath.mul (module.executionInfo component).targetUnit multiplier
  SafeMath.div product module.rebalanceInfo.positionMultiplier

def isRebalanceDurationElapsed (module : AuctionRebalanceModuleV1) (world : World) :
    Outcome Bool := do
  let finish ← SafeMath.add module.rebalanceInfo.rebalanceStartTime
    module.rebalanceInfo.rebalanceDuration
  pure (decide (finish ≤ world.timestamp))

def targetUnmet (module : AuctionRebalanceModuleV1) (world : World) (component : Address) :
    Outcome Bool :=
  if component = module.rebalanceInfo.quoteAsset then pure false
  else do
    let normalizedTargetUnit ← module.getNormalizedTargetUnit world component
    let currentUnit ← getDefaultPositionRealUnit world component
    if 0 < normalizedTargetUnit then do
      let met ← approximatelyEquals normalizedTargetUnit currentUnit 1
      pure (!met)
    else pure (decide (normalizedTargetUnit ≠ currentUnit))

/-- The loop returns at the first unmet target. -/
def allTargetsMetFrom (module : AuctionRebalanceModuleV1) (world : World) :
    List Address → Outcome Bool
  | [] => pure true
  | component :: rest => do
    let unmet ← module.targetUnmet world component
    if unmet = true then pure false else module.allTargetsMetFrom world rest

def allTargetsMet (module : AuctionRebalanceModuleV1) (world : World) : Outcome Bool :=
  module.allTargetsMetFrom world module.rebalanceInfo.rebalanceComponents

/-- Both comparisons are computed before their disjunction. -/
def isQuoteAssetExcessOrAtTarget (module : AuctionRebalanceModuleV1) (world : World) :
    Outcome Bool := do
  let unit ← getDefaultPositionRealUnit world module.rebalanceInfo.quoteAsset
  let target ← module.getNormalizedTargetUnit world module.rebalanceInfo.quoteAsset
  let isExcess := decide (target < unit)
  let isAtTarget ← approximatelyEquals unit target 1
  pure (isExcess || isAtTarget)

def canUnlockEarly (module : AuctionRebalanceModuleV1) (world : World) : Outcome Bool := do
  let met ← module.allTargetsMet world
  if met = true then do
    let quote ← module.isQuoteAssetExcessOrAtTarget world
    pure (quote && decide (module.rebalanceInfo.raiseTargetPercentage = 0))
  else pure false

def canRaiseAssetTargets (module : AuctionRebalanceModuleV1) (world : World) :
    Outcome Bool := do
  let unit ← getDefaultPositionRealUnit world module.rebalanceInfo.quoteAsset
  let target ← module.getNormalizedTargetUnit world module.rebalanceInfo.quoteAsset
  let isQuoteAssetExcess := decide (target < unit)
  let met ← module.allTargetsMet world
  pure (met && isQuoteAssetExcess)

def isAllowedBidder (module : AuctionRebalanceModuleV1) (bidder : Address) : Bool :=
  module.permissionInfo.isAnyoneAllowedToBid || module.permissionInfo.bidAllowList bidder

def validateOnlyAllowedBidder (module : AuctionRebalanceModuleV1) (msgSender : Address) :
    Outcome Unit :=
  require (module.isAllowedBidder msgSender = true) "Address not permitted to bid"

/-! ### Bids -/

def validateBidTargets (module : AuctionRebalanceModuleV1) (component : Address)
    (world : World) : Outcome Unit := do
  require (component ≠ module.rebalanceInfo.quoteAsset) "Cannot bid explicitly on Quote Asset"
  require (AddressArrayUtils.contains module.rebalanceInfo.rebalanceComponents component = true)
    "Component not part of rebalance"
  require (Position.hasExternalPosition world.setToken component = false)
    "External positions not allowed"
  let elapsed ← module.isRebalanceDurationElapsed world
  require (elapsed = false) "Rebalance must be in progress"

/-- The current unit, the target unit, and the notional amount of each. -/
def getUnitsAndNotionalAmounts (module : AuctionRebalanceModuleV1) (component : Address)
    (totalSupply : Nat) (world : World) : Outcome (Nat × Nat × Nat × Nat) := do
  let currentUnit ← getDefaultPositionRealUnit world component
  let targetUnit ← module.getNormalizedTargetUnit world component
  let currentNotional ← Position.getDefaultTotalNotional totalSupply currentUnit
  let targetNotional ← preciseMulCeil totalSupply targetUnit
  pure (currentUnit, targetUnit, currentNotional, targetNotional)

def calculateAuctionSizeAndDirection (module : AuctionRebalanceModuleV1) (component : Address)
    (totalSupply : Nat) (world : World) : Outcome (Bool × Nat) := do
  let protocolFee := world.controller.getModuleFee module.address protocolFeeIndex
  let (currentUnit, targetUnit, currentNotional, targetNotional) ←
    module.getUnitsAndNotionalAmounts component totalSupply world
  require (currentUnit ≠ targetUnit) "Target already met"
  if targetNotional < currentNotional then do
    let maxComponentQty ← SafeMath.sub currentNotional targetNotional
    pure (true, maxComponentQty)
  else do
    let missing ← SafeMath.sub targetNotional currentNotional
    let kept ← SafeMath.sub preciseUnit protocolFee
    let maxComponentQty ← preciseDiv missing kept
    pure (false, maxComponentQty)

def getAuctionSizeAndDirection (module : AuctionRebalanceModuleV1) (component : Address)
    (world : World) : Outcome (Bool × Nat) := do
  ModuleBase.validateOnlyValidAndInitializedSet module.address world
  require (AddressArrayUtils.contains module.rebalanceInfo.rebalanceComponents component = true)
    "Component not part of rebalance"
  module.calculateAuctionSizeAndDirection component world.setToken.totalSupply world

def getSendAndReceiveTokens (module : AuctionRebalanceModuleV1) (isSellAuction : Bool)
    (component : Address) : Address × Address :=
  if isSellAuction then (component, module.rebalanceInfo.quoteAsset)
  else (module.rebalanceInfo.quoteAsset, component)

def calculateQuoteAssetQuantity (isSellAuction : Bool)
    (componentQuantity componentPrice : Nat) : Outcome Nat :=
  if isSellAuction then preciseMulCeil componentQuantity componentPrice
  else preciseMul componentQuantity componentPrice

def validateQuoteAssetQuantity (isSellAuction : Bool)
    (quoteAssetQuantity quoteQuantityLimit preBidTokenSentBalance : Nat) : Outcome Unit :=
  if isSellAuction then
    require (quoteAssetQuantity ≤ quoteQuantityLimit) "Quote asset quantity exceeds limit"
  else do
    require (quoteQuantityLimit ≤ quoteAssetQuantity) "Quote asset quantity below limit"
    require (quoteAssetQuantity ≤ preBidTokenSentBalance) "Insufficient quote asset balance"

/-- The quantities the Set sends and receives. -/
def calculateQuantitiesForBid (isSellAuction : Bool)
    (componentQuantity quoteAssetQuantity : Nat) : Nat × Nat :=
  if isSellAuction then (componentQuantity, quoteAssetQuantity)
  else (quoteAssetQuantity, componentQuantity)

def createBidInfo (module : AuctionRebalanceModuleV1) (adapters : Adapters)
    (component : Address) (componentQuantity quoteQuantityLimit : Nat) (world : World) :
    Outcome BidInfo := do
  let setTotalSupply := world.setToken.totalSupply
  let priceAdapter ← module.getAuctionPriceAdapter adapters component
  let priceAdapterConfigData := (module.executionInfo component).priceAdapterConfigData
  let (isSellAuction, auctionQuantity) ←
    module.calculateAuctionSizeAndDirection component setTotalSupply world
  require (componentQuantity ≤ auctionQuantity) "Bid size exceeds auction quantity"
  let (sendToken, receiveToken) := module.getSendAndReceiveTokens isSellAuction component
  let timeElapsed ← SafeMath.sub world.timestamp module.rebalanceInfo.rebalanceStartTime
  let componentPrice ← (adapters.priceAdapter priceAdapter).getPrice world.setToken.address
    component componentQuantity timeElapsed module.rebalanceInfo.rebalanceDuration
    priceAdapterConfigData
  let quoteAssetQuantity ←
    calculateQuoteAssetQuantity isSellAuction componentQuantity componentPrice
  let preBidTokenSentBalance := world.held sendToken
  let preBidTokenReceivedBalance := world.held receiveToken
  validateQuoteAssetQuantity isSellAuction quoteAssetQuantity quoteQuantityLimit
    preBidTokenSentBalance
  let (quantitySentBySet, quantityReceivedBySet) :=
    calculateQuantitiesForBid isSellAuction componentQuantity quoteAssetQuantity
  pure { sendToken, receiveToken, priceAdapter, priceAdapterConfigData, isSellAuction,
         auctionQuantity, componentPrice, quantitySentBySet, quantityReceivedBySet,
         preBidTokenSentBalance, preBidTokenReceivedBalance, setTotalSupply }

def executeBid (module : AuctionRebalanceModuleV1) (msgSender : Address) (bidInfo : BidInfo)
    (world : World) : Outcome World := do
  let received ← world.explicitTransferFrom module.address bidInfo.receiveToken msgSender
    world.setToken.address bidInfo.quantityReceivedBySet
  received.strictInvokeTransfer module.address bidInfo.sendToken msgSender
    bidInfo.quantitySentBySet

def accrueProtocolFee (module : AuctionRebalanceModuleV1) (bidInfo : BidInfo) (world : World) :
    Outcome (World × Nat) := do
  let exchangedQuantity ← SafeMath.sub (world.held bidInfo.receiveToken)
    bidInfo.preBidTokenReceivedBalance
  let protocolFee ←
    ModuleBase.getModuleFee module.address protocolFeeIndex exchangedQuantity world
  let paid ← ModuleBase.payProtocolFeeFromSetToken module.address bidInfo.receiveToken
    protocolFee world
  pure (paid, protocolFee)

/-- Returns the net amounts the Set sent and received. -/
def updatePositionState (module : AuctionRebalanceModuleV1) (bidInfo : BidInfo)
    (world : World) : Outcome (World × Nat × Nat) := do
  let (sent, postBidSendTokenBalance, _) ← world.calculateAndEditDefaultPosition
    module.address bidInfo.sendToken bidInfo.setTotalSupply bidInfo.preBidTokenSentBalance
  let (received, postBidReceiveTokenBalance, _) ← sent.calculateAndEditDefaultPosition
    module.address bidInfo.receiveToken bidInfo.setTotalSupply
    bidInfo.preBidTokenReceivedBalance
  let netSendAmount ← SafeMath.sub bidInfo.preBidTokenSentBalance postBidSendTokenBalance
  let netReceiveAmount ←
    SafeMath.sub postBidReceiveTokenBalance bidInfo.preBidTokenReceivedBalance
  pure (received, netSendAmount, netReceiveAmount)

def bid (module : AuctionRebalanceModuleV1) (msgSender : Address) (adapters : Adapters)
    (component : Address) (componentAmount quoteAssetLimit : Nat) (world : World) :
    Outcome World := do
  module.validateOnlyAllowedBidder msgSender
  module.validateBidTargets component world
  let bidInfo ← module.createBidInfo adapters component componentAmount quoteAssetLimit world
  let executed ← module.executeBid msgSender bidInfo world
  let (paid, _) ← module.accrueProtocolFee bidInfo executed
  let (updated, _) ← module.updatePositionState bidInfo paid
  pure updated

/-! ### Targets, unlocking and permissions -/

def raiseAssetTargets (module : AuctionRebalanceModuleV1) (msgSender : Address)
    (world : World) : Outcome AuctionRebalanceModuleV1 := do
  module.validateOnlyAllowedBidder msgSender
  let elapsed ← module.isRebalanceDurationElapsed world
  require (elapsed = false) "Rebalance must be in progress"
  let canRaise ← module.canRaiseAssetTargets world
  require (canRaise = true) "Targets not met or quote asset =~ 0"
  let raised ← SafeMath.add preciseUnit module.rebalanceInfo.raiseTargetPercentage
  let newPositionMultiplier ← preciseDiv module.rebalanceInfo.positionMultiplier raised
  pure { module with
    rebalanceInfo := { module.rebalanceInfo with positionMultiplier := newPositionMultiplier } }

def unlock (module : AuctionRebalanceModuleV1) (world : World) :
    Outcome (AuctionRebalanceModuleV1 × World) := do
  let isRebalanceDurationElapsed ← module.isRebalanceDurationElapsed world
  let canUnlockEarly ← module.canUnlockEarly world
  require (isRebalanceDurationElapsed = true ∨ canUnlockEarly = true)
    "Cannot unlock early unless all targets are met and raiseTargetPercentage is zero"
  let ended :=
    if canUnlockEarly then
      { module with rebalanceInfo := { module.rebalanceInfo with rebalanceDuration := 0 } }
    else module
  let unlocked ← world.callSetToken (SetToken.unlock ⟨world.controller, module.address⟩)
  pure (ended, unlocked)

def setRaiseTargetPercentage (module : AuctionRebalanceModuleV1) (msgSender : Address)
    (raiseTargetPercentage : Nat) (world : World) : Outcome AuctionRebalanceModuleV1 := do
  ModuleBase.validateOnlyManagerAndValidSet module.address msgSender world
  require (0 < raiseTargetPercentage) "Target percentage must be greater than 0"
  pure { module with
    rebalanceInfo := { module.rebalanceInfo with
      raiseTargetPercentage := raiseTargetPercentage } }

def updateBiddersHistory (biddersHistory : List Address) (bidder : Address) (status : Bool) :
    Outcome (List Address) :=
  if status = true ∧ AddressArrayUtils.contains biddersHistory bidder = false then
    pure (biddersHistory ++ [bidder])
  else if status = false ∧ AddressArrayUtils.contains biddersHistory bidder = true then
    AddressArrayUtils.removeStorage biddersHistory bidder
  else pure biddersHistory

/-- Record the status of one bidder. -/
def updateBidder (permissionInfo : BidPermissionInfo) (entry : Address × Bool) :
    Outcome BidPermissionInfo := do
  let biddersHistory ← updateBiddersHistory permissionInfo.biddersHistory entry.1 entry.2
  pure { permissionInfo with
    biddersHistory := biddersHistory
    bidAllowList := Function.update permissionInfo.bidAllowList entry.1 entry.2 }

def setBidderStatus (module : AuctionRebalanceModuleV1) (msgSender : Address)
    (bidders : List Address) (statuses : List Bool) (world : World) :
    Outcome AuctionRebalanceModuleV1 := do
  ModuleBase.validateOnlyManagerAndValidSet module.address msgSender world
  AddressArrayUtils.validatePairsWithArray bidders statuses
  let permissionInfo ← (bidders.zip statuses).foldlM updateBidder module.permissionInfo
  pure { module with permissionInfo := permissionInfo }

def setAnyoneBid (module : AuctionRebalanceModuleV1) (msgSender : Address) (status : Bool)
    (world : World) : Outcome AuctionRebalanceModuleV1 := do
  ModuleBase.validateOnlyManagerAndValidSet module.address msgSender world
  pure { module with
    permissionInfo := { module.permissionInfo with isAnyoneAllowedToBid := status } }

/-! ### Adding and removing the module -/

/-- Record the unit of one position as its target. -/
def setInitialTarget (executionInfo : Address → AuctionExecutionParams)
    (position : PositionEntry) : Outcome (Address → AuctionExecutionParams) := do
  require (position.positionState = 0) "External positions not allowed"
  let unit ← SafeCast.toUint256 position.unit
  pure (Function.update executionInfo position.component
    { executionInfo position.component with targetUnit := unit })

/-- The module's `initialize`, called by the manager. -/
def initializeSet (module : AuctionRebalanceModuleV1) (msgSender : Address) (world : World) :
    Outcome (AuctionRebalanceModuleV1 × World) := do
  ModuleBase.validateOnlySetManager msgSender world
  ModuleBase.validateOnlyValidAndPendingSet module.address world
  let positions ← world.setToken.getPositions
  let executionInfo ← positions.foldlM setInitialTarget module.executionInfo
  let positionMultiplier ← SafeCast.toUint256 world.setToken.positionMultiplier
  let initialized ← world.callSetToken
    (SetToken.initializeModule ⟨world.controller, module.address⟩)
  pure ({ module with
    executionInfo := executionInfo
    rebalanceInfo := { module.rebalanceInfo with
      positionMultiplier := positionMultiplier } }, initialized)

/-- The bidders in the history lose their permission one by one; the execution info stays. -/
def removeModule (module : AuctionRebalanceModuleV1) : AuctionRebalanceModuleV1 :=
  { module with
    rebalanceInfo := .deleted
    permissionInfo :=
      { isAnyoneAllowedToBid := false
        biddersHistory := []
        bidAllowList := module.permissionInfo.biddersHistory.foldl
          (fun bidAllowList bidder => Function.update bidAllowList bidder false)
          module.permissionInfo.bidAllowList } }

end AuctionRebalanceModuleV1

end IndexProtocol

/-
This file models how the Compound and the Aave leverage modules raise and lower
the leverage of a Set. To lever, the Set borrows an asset, trades it for the
collateral and deposits that; to delever, it withdraws collateral, trades it for
the borrowed asset and repays with that. Then the modules read the balances at
the lending protocol again and record them as the positions of the Set.
-/

import IndexProtocol.Lib.AbiCoder
import IndexProtocol.Modules.AaveLeverageModule
import IndexProtocol.Modules.CompoundLeverageCalls
import IndexProtocol.Modules.TradeModule

namespace IndexProtocol

open Revert PreciseUnitMath

/-- What a change of leverage reports. -/
structure LeverageChange where
  exchangeAdapter : Address
  totalSendAmount : Nat
  totalReceiveAmount : Nat
  protocolFee : Nat

/-! ### What both modules share -/

namespace LeverageTrades

variable {Ledger : Type}

/-- The data of a trade, in notional quantities. -/
structure TradeInfo where
  exchangeAdapter : Address
  setTotalSupply : Nat
  notionalSendQuantity : Nat
  minNotionalReceiveQuantity : Nat
  preTradeReceiveTokenBalance : Nat

def protocolTradeFeeIndex : Nat := 0

/-- Returns the quantity received. -/
def executeTrade (module : Address) (protocols : Protocols Ledger)
    (adapters : ExchangeAdapters Ledger) (tradeInfo : TradeInfo)
    (sendToken receiveToken : Address) (data : Bytes) (execution : Execution Ledger) :
    Outcome (Execution Ledger × Nat) := do
  let adapter := adapters.exchangeAdapter tradeInfo.exchangeAdapter
  let approved ← execution.invokeApprove module sendToken adapter.getSpender
    tradeInfo.notionalSendQuantity
  let (targetExchange, callValue, methodData) ← adapter.getTradeCalldata sendToken receiveToken
    approved.world.setToken.address tradeInfo.notionalSendQuantity
    tradeInfo.minNotionalReceiveQuantity data approved.world approved.ledger
  let traded ←
    approved.invokeUnchecked protocols module ⟨targetExchange, callValue, .raw methodData⟩
  let receiveTokenQuantity ← SafeMath.sub (traded.world.held receiveToken)
    tradeInfo.preTradeReceiveTokenBalance
  require (tradeInfo.minNotionalReceiveQuantity ≤ receiveTokenQuantity) "Slippage too high"
  pure (traded, receiveTokenQuantity)

/-- Returns the fee. -/
def accrueProtocolFee (module receiveToken : Address) (exchangedQuantity : Nat) (world : World) :
    Outcome (World × Nat) := do
  let protocolFeeTotal ←
    ModuleBase.getModuleFee module protocolTradeFeeIndex exchangedQuantity world
  let paid ←
    ModuleBase.payProtocolFeeFromSetToken module receiveToken protocolFeeTotal world
  pure (paid, protocolFeeTotal)

def getCollateralPosition (token : Address) (setTotalSupply : Nat) (world : World) :
    Outcome Nat :=
  preciseDiv (world.held token) setTotalSupply

def updateCollateralPosition (module token : Address) (newPositionUnit : Nat) (world : World) :
    Outcome World :=
  world.callSetToken
    (Position.editDefaultPosition ⟨world.controller, module⟩ token newPositionUnit)

def updateBorrowPosition (module underlyingToken : Address) (newPositionUnit : Int)
    (world : World) : Outcome World :=
  world.callSetToken
    (Position.editExternalPosition ⟨world.controller, module⟩ underlyingToken module
      newPositionUnit [])

/-- The collateral token is recorded first, then the debt, which is read when its turn comes. -/
def updateLeverPositions (module collateralToken borrowAsset : Address)
    (borrowNotionalBalance : World → Nat) (setTotalSupply : Nat) (world : World) :
    Outcome World := do
  let collateralUnit ← getCollateralPosition collateralToken setTotalSupply world
  let updated ← updateCollateralPosition module collateralToken collateralUnit world
  let borrowUnit ←
    LeverageHooks.borrowPosition (borrowNotionalBalance updated) setTotalSupply
  updateBorrowPosition module borrowAsset borrowUnit updated

end LeverageTrades

/-! ### Compound -/

namespace Execution

variable {Ledger : Type}

def invokeMintCEther (protocols : Protocols Ledger) (module cEther : Address)
    (mintNotional : Nat) : Execution Ledger → Outcome (Execution Ledger) :=
  invokeUnchecked protocols module ⟨cEther, mintNotional, .raw (Words.ofNat 4 0x1249c58b)⟩

def invokeMintCToken (protocols : Protocols Ledger) (module cToken : Address)
    (mintNotional : Nat) : Execution Ledger → Outcome (Execution Ledger) :=
  invokeExpectingZero protocols module ⟨cToken, 0,
    .raw (Words.ofNat 4 0xa0712d68 ++ AbiCoder.encodeUint256 mintNotional)⟩ "Mint failed"

def invokeRedeemUnderlying (protocols : Protocols Ledger) (module cToken : Address)
    (redeemNotional : Nat) : Execution Ledger → Outcome (Execution Ledger) :=
  invokeExpectingZero protocols module ⟨cToken, 0,
    .raw (Words.ofNat 4 0x852a12e3 ++ AbiCoder.encodeUint256 redeemNotional)⟩
    "Redeem underlying failed"

end Execution

namespace CompoundLeverageModule

variable {Ledger : Type}

/-- The wrapped ether token is unwrapped, as Compound takes ether. -/
def mintCToken (module : CompoundLeverageModule) (protocols : Protocols Ledger)
    (cToken underlyingToken : Address) (mintNotional : Nat) (execution : Execution Ledger) :
    Outcome (Execution Ledger) :=
  if cToken = module.cEther then do
    let unwrapped ←
      execution.invokeUnwrapWETH protocols module.address module.weth mintNotional
    unwrapped.invokeMintCEther protocols module.address cToken mintNotional
  else do
    let approved ←
      execution.invokeApprove module.address underlyingToken cToken mintNotional
    approved.invokeMintCToken protocols module.address cToken mintNotional

def redeemUnderlying (module : CompoundLeverageModule) (protocols : Protocols Ledger)
    (cToken : Address) (redeemNotional : Nat) (execution : Execution Ledger) :
    Outcome (Execution Ledger) := do
  let redeemed ←
    execution.invokeRedeemUnderlying protocols module.address cToken redeemNotional
  if cToken = module.cEther then
    redeemed.invokeWrapWETH protocols module.address module.weth redeemNotional
  else pure redeemed

end CompoundLeverageModule

namespace CompoundLeverageStorage

variable {Ledger : Type}

structure ActionInfo extends LeverageTrades.TradeInfo where
  collateralCTokenAsset : Address
  borrowCTokenAsset : Address

def validateCommon (storage : CompoundLeverageStorage) (actionInfo : ActionInfo) :
    Outcome Unit := do
  require (storage.collateralCTokenEnabled actionInfo.collateralCTokenAsset = true)
    "Collateral not enabled"
  require (storage.borrowCTokenEnabled actionInfo.borrowCTokenAsset = true)
    "Borrow not enabled"
  require (actionInfo.collateralCTokenAsset ≠ actionInfo.borrowCTokenAsset) "Must be different"
  require (0 < actionInfo.notionalSendQuantity) "Quantity is 0"

def createAndValidateActionInfoNotional (storage : CompoundLeverageStorage)
    (registry : IntegrationRegistry) (sendToken receiveToken : Address)
    (notionalSendQuantity minNotionalReceiveQuantity : Nat) (tradeAdapterName : String)
    (isLever : Bool) (world : World) : Outcome ActionInfo := do
  let exchangeAdapter ←
    ModuleBase.getAndValidateAdapter storage.address registry tradeAdapterName
  let actionInfo : ActionInfo :=
    { exchangeAdapter
      collateralCTokenAsset :=
        storage.underlyingToCToken (if isLever then receiveToken else sendToken)
      borrowCTokenAsset :=
        storage.underlyingToCToken (if isLever then sendToken else receiveToken)
      setTotalSupply := world.setToken.totalSupply
      notionalSendQuantity
      minNotionalReceiveQuantity
      preTradeReceiveTokenBalance := world.held receiveToken }
  storage.validateCommon actionInfo
  pure actionInfo

def createAndValidateActionInfo (storage : CompoundLeverageStorage)
    (registry : IntegrationRegistry) (sendToken receiveToken : Address)
    (sendQuantityUnits minReceiveQuantityUnits : Nat) (tradeAdapterName : String)
    (isLever : Bool) (world : World) : Outcome ActionInfo := do
  let totalSupply := world.setToken.totalSupply
  let notionalSendQuantity ← preciseMul sendQuantityUnits totalSupply
  let minNotionalReceiveQuantity ← preciseMul minReceiveQuantityUnits totalSupply
  storage.createAndValidateActionInfoNotional registry sendToken receiveToken
    notionalSendQuantity minNotionalReceiveQuantity tradeAdapterName isLever world

/-- The interest is not accrued again. -/
def updateLeverPositions (storage : CompoundLeverageStorage) (protocols : Protocols Ledger)
    (actionInfo : ActionInfo) (borrowAsset : Address) (execution : Execution Ledger) :
    Outcome (Execution Ledger) :=
  execution.onWorld (LeverageTrades.updateLeverPositions storage.address
    actionInfo.collateralCTokenAsset borrowAsset
    (fun world => protocols.borrowBalanceStored actionInfo.borrowCTokenAsset
      world.setToken.address execution.ledger)
    actionInfo.setTotalSupply)

def lever (storage : CompoundLeverageStorage) (msgSender : Address)
    (protocols : Protocols Ledger) (adapters : ExchangeAdapters Ledger)
    (borrowAsset collateralAsset : Address) (borrowQuantity minReceiveQuantity : Nat)
    (tradeAdapterName : String) (tradeData : Bytes) (execution : Execution Ledger) :
    Outcome (Execution Ledger × LeverageChange) := do
  ModuleBase.validateOnlyManagerAndValidSet storage.address msgSender execution.world
  let leverInfo ← storage.createAndValidateActionInfo adapters.toIntegrationRegistry
    borrowAsset collateralAsset borrowQuantity minReceiveQuantity tradeAdapterName true
    execution.world
  let borrowed ← storage.borrow protocols leverInfo.borrowCTokenAsset
    leverInfo.notionalSendQuantity execution
  let (traded, postTradeReceiveQuantity) ← LeverageTrades.executeTrade storage.address
    protocols adapters leverInfo.toTradeInfo borrowAsset collateralAsset tradeData borrowed
  let (paid, protocolFee) ← LeverageTrades.accrueProtocolFee storage.address collateralAsset
    postTradeReceiveQuantity traded.world
  let postTradeCollateralQuantity ← SafeMath.sub postTradeReceiveQuantity protocolFee
  let minted ← storage.mintCToken protocols leverInfo.collateralCTokenAsset collateralAsset
    postTradeCollateralQuantity { traded with world := paid }
  let updated ← storage.updateLeverPositions protocols leverInfo borrowAsset minted
  pure (updated,
    { exchangeAdapter := leverInfo.exchangeAdapter
      totalSendAmount := leverInfo.notionalSendQuantity
      totalReceiveAmount := postTradeCollateralQuantity
      protocolFee })

def delever (storage : CompoundLeverageStorage) (msgSender : Address)
    (protocols : Protocols Ledger) (adapters : ExchangeAdapters Ledger)
    (collateralAsset repayAsset : Address) (redeemQuantity minRepayQuantity : Nat)
    (tradeAdapterName : String) (tradeData : Bytes) (execution : Execution Ledger) :
    Outcome (Execution Ledger × LeverageChange) := do
  ModuleBase.validateOnlyManagerAndValidSet storage.address msgSender execution.world
  let deleverInfo ← storage.createAndValidateActionInfo adapters.toIntegrationRegistry
    collateralAsset repayAsset redeemQuantity minRepayQuantity tradeAdapterName false
    execution.world
  let redeemed ← storage.redeemUnderlying protocols deleverInfo.collateralCTokenAsset
    deleverInfo.notionalSendQuantity execution
  let (traded, postTradeReceiveQuantity) ← LeverageTrades.executeTrade storage.address
    protocols adapters deleverInfo.toTradeInfo collateralAsset repayAsset tradeData redeemed
  let (paid, protocolFee) ← LeverageTrades.accrueProtocolFee storage.address repayAsset
    postTradeReceiveQuantity traded.world
  let repayQuantity ← SafeMath.sub postTradeReceiveQuantity protocolFee
  let repaid ← storage.repayBorrow protocols deleverInfo.borrowCTokenAsset repayAsset
    repayQuantity { traded with world := paid }
  let updated ← storage.updateLeverPositions protocols deleverInfo repayAsset repaid
  pure (updated,
    { exchangeAdapter := deleverInfo.exchangeAdapter
      totalSendAmount := deleverInfo.notionalSendQuantity
      totalReceiveAmount := repayQuantity
      protocolFee })

/-- The whole debt is repaid. What the trade brought beyond it becomes a position, and no fee is
charged. -/
def deleverToZeroBorrowBalance (storage : CompoundLeverageStorage) (msgSender : Address)
    (protocols : Protocols Ledger) (adapters : ExchangeAdapters Ledger)
    (collateralAsset repayAsset : Address) (redeemQuantity : Nat) (tradeAdapterName : String)
    (tradeData : Bytes) (execution : Execution Ledger) :
    Outcome (Execution Ledger × LeverageChange) := do
  ModuleBase.validateOnlyManagerAndValidSet storage.address msgSender execution.world
  let notionalRedeemQuantity ←
    preciseMul redeemQuantity execution.world.setToken.totalSupply
  require (storage.borrowCTokenEnabled (storage.underlyingToCToken repayAsset) = true)
    "Borrow not enabled"
  let (notionalRepayQuantity, accrued) ← CompoundLeverageModule.borrowBalance protocols true
    (storage.underlyingToCToken repayAsset) execution
  let deleverInfo ← storage.createAndValidateActionInfoNotional adapters.toIntegrationRegistry
    collateralAsset repayAsset notionalRedeemQuantity notionalRepayQuantity tradeAdapterName
    false accrued.world
  let redeemed ← storage.redeemUnderlying protocols deleverInfo.collateralCTokenAsset
    deleverInfo.notionalSendQuantity accrued
  let (traded, _) ← LeverageTrades.executeTrade storage.address protocols adapters
    deleverInfo.toTradeInfo collateralAsset repayAsset tradeData redeemed
  let repaid ← storage.repayBorrow protocols deleverInfo.borrowCTokenAsset repayAsset
    notionalRepayQuantity traded
  let (settled, _) ← repaid.world.calculateAndEditDefaultPosition storage.address repayAsset
    deleverInfo.setTotalSupply deleverInfo.preTradeReceiveTokenBalance
  let updated ← storage.updateLeverPositions protocols deleverInfo repayAsset
    { repaid with world := settled }
  pure (updated,
    { exchangeAdapter := deleverInfo.exchangeAdapter
      totalSendAmount := deleverInfo.notionalSendQuantity
      totalReceiveAmount := notionalRepayQuantity
      protocolFee := 0 })

end CompoundLeverageStorage

/-! ### Aave -/

namespace Execution

variable {Ledger : Type}

/-- `AaveV2.invokeDeposit`, on behalf of the Set. -/
def invokeDepositAsset (protocols : Protocols Ledger) (module lendingPool asset : Address)
    (quantity : Nat) (execution : Execution Ledger) : Outcome (Execution Ledger) :=
  execution.invokeUnchecked protocols module ⟨lendingPool, 0, .raw (Words.ofNat 4 0xe8eda9df ++
    (AbiCoder.encodeUint256 asset.toNat ++ (AbiCoder.encodeUint256 quantity ++
      (AbiCoder.encodeUint256 execution.world.setToken.address.toNat ++
        AbiCoder.encodeUint256 0))))⟩

/-- `AaveV2.invokeWithdraw`, to the Set. The quantity that the pool returns is not read. -/
def invokeWithdrawAsset (protocols : Protocols Ledger) (module lendingPool asset : Address)
    (quantity : Nat) (execution : Execution Ledger) : Outcome (Execution Ledger) :=
  execution.invokeUnchecked protocols module ⟨lendingPool, 0, .raw (Words.ofNat 4 0x69328dec ++
    (AbiCoder.encodeUint256 asset.toNat ++ (AbiCoder.encodeUint256 quantity ++
      AbiCoder.encodeUint256 execution.world.setToken.address.toNat)))⟩

end Execution

/-- The module's storage for one Set, with the assets that are enabled. -/
structure AaveLeverageStorage extends AaveLeverageModule where
  collateralAssetEnabled : Address → Bool
  borrowAssetEnabled : Address → Bool

namespace AaveLeverageStorage

variable {Ledger : Type}

structure ActionInfo extends LeverageTrades.TradeInfo where
  lendingPool : Address
  collateralAsset : Address
  borrowAsset : Address

def deposit (storage : AaveLeverageStorage) (protocols : Protocols Ledger)
    (lendingPool asset : Address) (notionalQuantity : Nat) (execution : Execution Ledger) :
    Outcome (Execution Ledger) := do
  let approved ← execution.invokeApprove storage.address asset lendingPool notionalQuantity
  approved.invokeDepositAsset protocols storage.address lendingPool asset notionalQuantity

def withdraw (storage : AaveLeverageStorage) (protocols : Protocols Ledger)
    (lendingPool asset : Address) (notionalQuantity : Nat) :
    Execution Ledger → Outcome (Execution Ledger) :=
  Execution.invokeWithdrawAsset protocols storage.address lendingPool asset notionalQuantity

def repayBorrow (storage : AaveLeverageStorage) (protocols : Protocols Ledger)
    (lendingPool asset : Address) (notionalQuantity : Nat) (execution : Execution Ledger) :
    Outcome (Execution Ledger) := do
  let approved ← execution.invokeApprove storage.address asset lendingPool notionalQuantity
  approved.invokeRepayAsset protocols storage.address lendingPool asset notionalQuantity
    AaveLeverageModule.borrowRateMode

def borrow (storage : AaveLeverageStorage) (protocols : Protocols Ledger)
    (lendingPool asset : Address) (notionalQuantity : Nat) :
    Execution Ledger → Outcome (Execution Ledger) :=
  Execution.invokeBorrowAsset protocols storage.address lendingPool asset notionalQuantity
    AaveLeverageModule.borrowRateMode

def validateCommon (storage : AaveLeverageStorage) (actionInfo : ActionInfo) :
    Outcome Unit := do
  require (storage.collateralAssetEnabled actionInfo.collateralAsset = true)
    "Collateral not enabled"
  require (storage.borrowAssetEnabled actionInfo.borrowAsset = true) "Borrow not enabled"
  require (actionInfo.collateralAsset ≠ actionInfo.borrowAsset)
    "Collateral and borrow asset must be different"
  require (0 < actionInfo.notionalSendQuantity) "Quantity is 0"

def createAndValidateActionInfoNotional (storage : AaveLeverageStorage)
    (registry : IntegrationRegistry) (sendToken receiveToken : Address)
    (notionalSendQuantity minNotionalReceiveQuantity : Nat) (tradeAdapterName : String)
    (isLever : Bool) (setTotalSupply : Nat) (world : World) : Outcome ActionInfo := do
  let exchangeAdapter ←
    ModuleBase.getAndValidateAdapter storage.address registry tradeAdapterName
  let actionInfo : ActionInfo :=
    { exchangeAdapter
      lendingPool := storage.lendingPool
      collateralAsset := if isLever then receiveToken else sendToken
      borrowAsset := if isLever then sendToken else receiveToken
      setTotalSupply
      notionalSendQuantity
      minNotionalReceiveQuantity
      preTradeReceiveTokenBalance := world.held receiveToken }
  storage.validateCommon actionInfo
  pure actionInfo

def createAndValidateActionInfo (storage : AaveLeverageStorage)
    (registry : IntegrationRegistry) (sendToken receiveToken : Address)
    (sendQuantityUnits minReceiveQuantityUnits : Nat) (tradeAdapterName : String)
    (isLever : Bool) (world : World) : Outcome ActionInfo := do
  let totalSupply := world.setToken.totalSupply
  let notionalSendQuantity ← preciseMul sendQuantityUnits totalSupply
  let minNotionalReceiveQuantity ← preciseMul minReceiveQuantityUnits totalSupply
  storage.createAndValidateActionInfoNotional registry sendToken receiveToken
    notionalSendQuantity minNotionalReceiveQuantity tradeAdapterName isLever totalSupply world

def updateLeverPositions (storage : AaveLeverageStorage) (actionInfo : ActionInfo)
    (borrowAsset : Address) (world : World) : Outcome World :=
  LeverageTrades.updateLeverPositions storage.address
    (storage.underlyingToReserveTokens actionInfo.collateralAsset).aToken borrowAsset
    (fun updated =>
      updated.held (storage.underlyingToReserveTokens borrowAsset).variableDebtToken)
    actionInfo.setTotalSupply world

/-- What the trade brought beyond the debt becomes a position first. -/
def updateDeleverPositions (storage : AaveLeverageStorage) (actionInfo : ActionInfo)
    (repayAsset : Address) (world : World) : Outcome World := do
  let repayAssetBalance := world.held repayAsset
  let settled ←
    if repayAssetBalance ≠ actionInfo.preTradeReceiveTokenBalance then do
      let (edited, _) ← world.calculateAndEditDefaultPosition storage.address repayAsset
        actionInfo.setTotalSupply actionInfo.preTradeReceiveTokenBalance
      pure edited
    else pure world
  storage.updateLeverPositions actionInfo repayAsset settled

def lever (storage : AaveLeverageStorage) (msgSender : Address)
    (protocols : Protocols Ledger) (adapters : ExchangeAdapters Ledger)
    (borrowAsset collateralAsset : Address) (borrowQuantityUnits minReceiveQuantityUnits : Nat)
    (tradeAdapterName : String) (tradeData : Bytes) (execution : Execution Ledger) :
    Outcome (Execution Ledger × LeverageChange) := do
  ModuleBase.validateOnlyManagerAndValidSet storage.address msgSender execution.world
  let leverInfo ← storage.createAndValidateActionInfo adapters.toIntegrationRegistry
    borrowAsset collateralAsset borrowQuantityUnits minReceiveQuantityUnits tradeAdapterName
    true execution.world
  let borrowed ← storage.borrow protocols leverInfo.lendingPool leverInfo.borrowAsset
    leverInfo.notionalSendQuantity execution
  let (traded, postTradeReceiveQuantity) ← LeverageTrades.executeTrade storage.address
    protocols adapters leverInfo.toTradeInfo borrowAsset collateralAsset tradeData borrowed
  let (paid, protocolFee) ← LeverageTrades.accrueProtocolFee storage.address collateralAsset
    postTradeReceiveQuantity traded.world
  let postTradeCollateralQuantity ← SafeMath.sub postTradeReceiveQuantity protocolFee
  let deposited ← storage.deposit protocols leverInfo.lendingPool collateralAsset
    postTradeCollateralQuantity { traded with world := paid }
  let updated ← deposited.onWorld (storage.updateLeverPositions leverInfo borrowAsset)
  pure (updated,
    { exchangeAdapter := leverInfo.exchangeAdapter
      totalSendAmount := leverInfo.notionalSendQuantity
      totalReceiveAmount := postTradeCollateralQuantity
      protocolFee })

def delever (storage : AaveLeverageStorage) (msgSender : Address)
    (protocols : Protocols Ledger) (adapters : ExchangeAdapters Ledger)
    (collateralAsset repayAsset : Address) (redeemQuantityUnits minRepayQuantityUnits : Nat)
    (tradeAdapterName : String) (tradeData : Bytes) (execution : Execution Ledger) :
    Outcome (Execution Ledger × LeverageChange) := do
  ModuleBase.validateOnlyManagerAndValidSet storage.address msgSender execution.world
  let deleverInfo ← storage.createAndValidateActionInfo adapters.toIntegrationRegistry
    collateralAsset repayAsset redeemQuantityUnits minRepayQuantityUnits tradeAdapterName
    false execution.world
  let withdrawn ← storage.withdraw protocols deleverInfo.lendingPool collateralAsset
    deleverInfo.notionalSendQuantity execution
  let (traded, postTradeReceiveQuantity) ← LeverageTrades.executeTrade storage.address
    protocols adapters deleverInfo.toTradeInfo collateralAsset repayAsset tradeData withdrawn
  let (paid, protocolFee) ← LeverageTrades.accrueProtocolFee storage.address repayAsset
    postTradeReceiveQuantity traded.world
  let repayQuantity ← SafeMath.sub postTradeReceiveQuantity protocolFee
  let repaid ← storage.repayBorrow protocols deleverInfo.lendingPool repayAsset repayQuantity
    { traded with world := paid }
  let updated ← repaid.onWorld (storage.updateDeleverPositions deleverInfo repayAsset)
  pure (updated,
    { exchangeAdapter := deleverInfo.exchangeAdapter
      totalSendAmount := deleverInfo.notionalSendQuantity
      totalReceiveAmount := repayQuantity
      protocolFee })

/-- The whole debt is repaid, and no fee is charged. -/
def deleverToZeroBorrowBalance (storage : AaveLeverageStorage) (msgSender : Address)
    (protocols : Protocols Ledger) (adapters : ExchangeAdapters Ledger)
    (collateralAsset repayAsset : Address) (redeemQuantityUnits : Nat)
    (tradeAdapterName : String) (tradeData : Bytes) (execution : Execution Ledger) :
    Outcome (Execution Ledger × LeverageChange) := do
  ModuleBase.validateOnlyManagerAndValidSet storage.address msgSender execution.world
  let setTotalSupply := execution.world.setToken.totalSupply
  let notionalRedeemQuantity ← preciseMul redeemQuantityUnits setTotalSupply
  require (storage.borrowAssetEnabled repayAsset = true) "Borrow not enabled"
  let notionalRepayQuantity :=
    execution.world.held (storage.underlyingToReserveTokens repayAsset).variableDebtToken
  require (0 < notionalRepayQuantity) "Borrow balance is zero"
  let deleverInfo ← storage.createAndValidateActionInfoNotional adapters.toIntegrationRegistry
    collateralAsset repayAsset notionalRedeemQuantity notionalRepayQuantity tradeAdapterName
    false setTotalSupply execution.world
  let withdrawn ← storage.withdraw protocols deleverInfo.lendingPool collateralAsset
    deleverInfo.notionalSendQuantity execution
  let (traded, _) ← LeverageTrades.executeTrade storage.address protocols adapters
    deleverInfo.toTradeInfo collateralAsset repayAsset tradeData withdrawn
  let repaid ← storage.repayBorrow protocols deleverInfo.lendingPool repayAsset
    notionalRepayQuantity traded
  let updated ← repaid.onWorld (storage.updateDeleverPositions deleverInfo repayAsset)
  pure (updated,
    { exchangeAdapter := deleverInfo.exchangeAdapter
      totalSendAmount := deleverInfo.notionalSendQuantity
      totalReceiveAmount := notionalRepayQuantity
      protocolFee := 0 })

end AaveLeverageStorage

end IndexProtocol

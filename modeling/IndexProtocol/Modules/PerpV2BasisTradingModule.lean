/-
This file models the module that trades the basis: a perpetual position against
the same asset, for the funding it earns. It extends the module for perpetual
positions. Funding becomes part of the account's balance when the protocol
settles it and cannot be told apart afterwards, so the module adds up what is
about to be settled before it calls the protocol. The manager withdraws from
this sum and pays a performance fee on it, and a redeemer bears a share of the
fee.
-/

import IndexProtocol.Modules.PerpV2LeverageModuleV2

namespace IndexProtocol

open Revert PreciseUnitMath UnitConversionUtils

/-! ### Storage -/

structure PerpV2BasisTradingModule.FeeState where
  feeRecipient : Address
  maxPerformanceFeePercentage : Nat
  performanceFeePercentage : Nat

/-- The module's storage for one Set. The settled funding is in precise units. -/
structure PerpV2BasisTradingModule extends PerpV2LeverageModuleV2 where
  feeSettings : PerpV2BasisTradingModule.FeeState
  settledFunding : Nat

namespace PerpV2BasisTradingModule

variable {Ledger : Type}

def protocolPerformanceFeeIndex : Nat := 1

/-- A function inherited from the module that is extended. -/
def inherited (call : Outcome (PerpV2LeverageModuleV2 × PerpExecution Ledger))
    (module : PerpV2BasisTradingModule) :
    Outcome (PerpV2BasisTradingModule × PerpExecution Ledger) := do
  let (next, execution) ← call
  pure ({ module with toPerpV2LeverageModuleV2 := next }, execution)

/-! ### Settled funding -/

def getUpdatedSettledFunding (perp : PerpV2 Ledger) (execution : PerpExecution Ledger)
    (module : PerpV2BasisTradingModule) : Outcome Nat := do
  let pendingFundingToBeSettled ←
    neg (perp.getAllPendingFundingPayment execution.world.setToken.address execution.ledger)
  if 0 ≤ pendingFundingToBeSettled then do
    let gain ← SafeCast.toUint256 pendingFundingToBeSettled
    SafeMath.add module.settledFunding gain
  else do
    let loss ← abs pendingFundingToBeSettled
    if loss < module.settledFunding then SafeMath.sub module.settledFunding loss
    else pure 0

def updateSettledFunding (perp : PerpV2 Ledger) (execution : PerpExecution Ledger)
    (module : PerpV2BasisTradingModule) : Outcome PerpV2BasisTradingModule := do
  let newSettledFunding ← module.getUpdatedSettledFunding perp execution
  pure { module with settledFunding := newSettledFunding }

def handleFees (notionalFundingAmount : Nat) (execution : PerpExecution Ledger)
    (module : PerpV2BasisTradingModule) : Outcome (PerpExecution Ledger) :=
  let performanceFee := module.feeSettings.performanceFeePercentage
  if 0 < performanceFee then do
    let protocolFeeSplit :=
      execution.world.controller.getModuleFee module.address protocolPerformanceFeeIndex
    let totalFee ← preciseMul performanceFee notionalFundingAmount
    let protocolFee ← preciseMul totalFee protocolFeeSplit
    let managerFee ← SafeMath.sub totalFee protocolFee
    let managerPaid ← execution.onWorld fun world =>
      world.strictInvokeTransfer module.address module.collateralToken
        module.feeSettings.feeRecipient managerFee
    managerPaid.onWorld
      (ModuleBase.payProtocolFeeFromSetToken module.address module.collateralToken protocolFee)
  else pure execution

/-- Funding is taken out of the account and entered in the trace in precise units. -/
def withdrawFunding (perp : PerpV2 Ledger) (notionalFunding : Nat)
    (execution : PerpExecution Ledger) (module : PerpV2BasisTradingModule) :
    Outcome (PerpExecution Ledger) := do
  let withdrawn ← module.withdrawCollateral perp notionalFunding execution
  pure { withdrawn with events := withdrawn.events ++
    [.withdrawn (notionalFunding * decimalFactor module.collateralDecimals)] }

def updateWithdrawFundingState (perp : PerpV2 Ledger)
    (notionalFunding collateralBalanceBeforeWithdraw : Nat) (execution : PerpExecution Ledger)
    (module : PerpV2BasisTradingModule) :
    Outcome (PerpV2BasisTradingModule × PerpExecution Ledger) := do
  let edited ← module.updatePositions perp collateralBalanceBeforeWithdraw execution
  let amount ← toPreciseUnitsFromDecimals notionalFunding module.collateralDecimals
  let remaining ← SafeMath.sub module.settledFunding amount
  pure ({ module with settledFunding := remaining }, edited)

def calculateNetFeesPositionUnit (setToken : SetToken) (newExternalPositionUnit : Int)
    (updatedSettledFunding : Nat) (module : PerpV2BasisTradingModule) : Outcome Int :=
  if updatedSettledFunding = 0 then pure newExternalPositionUnit
  else do
    let fundingPerSet ← preciseDiv updatedSettledFunding setToken.totalSupply
    let feePerSet ← preciseMulCeil fundingPerSet module.feeSettings.performanceFeePercentage
    let performanceFeeUnit ← fromPreciseUnitToDecimals feePerSet module.collateralDecimals
    let feeUnit ← SafeCast.toInt256 performanceFeeUnit
    let newExternalPositionUnitNetFees ← SignedSafeMath.sub newExternalPositionUnit feeUnit
    pure (if newExternalPositionUnitNetFees < 0 then 0 else newExternalPositionUnitNetFees)

/-! ### Manager functions -/

def tradeAndTrackFunding (perp : PerpV2 Ledger) (msgSender baseToken : Address)
    (baseQuantityUnits : Int) (quoteBoundQuantityUnits : Nat) (execution : PerpExecution Ledger)
    (module : PerpV2BasisTradingModule) :
    Outcome (PerpV2BasisTradingModule × PerpExecution Ledger) := do
  ModuleBase.validateOnlyManagerAndValidSet module.address msgSender execution.world
  let tracked ← module.updateSettledFunding perp execution
  tracked.inherited
    (tracked.trade perp msgSender baseToken baseQuantityUnits quoteBoundQuantityUnits execution)

def withdraw (perp : PerpV2 Ledger) (msgSender : Address) (collateralQuantityUnits : Nat)
    (execution : PerpExecution Ledger) (module : PerpV2BasisTradingModule) :
    Outcome (PerpV2BasisTradingModule × PerpExecution Ledger) := do
  ModuleBase.validateOnlyManagerAndValidSet module.address msgSender execution.world
  require (0 < collateralQuantityUnits) "Withdraw amount is 0"
  let tracked ← module.updateSettledFunding perp execution
  let withdrawn ← tracked.withdrawAndUpdatePositions perp collateralQuantityUnits execution
  pure (tracked, withdrawn)

def withdrawFundingAndAccrueFees (perp : PerpV2 Ledger) (msgSender : Address)
    (notionalFunding : Nat) (execution : PerpExecution Ledger)
    (module : PerpV2BasisTradingModule) :
    Outcome (PerpV2BasisTradingModule × PerpExecution Ledger) := do
  ModuleBase.validateOnlyManagerAndValidSet module.address msgSender execution.world
  if notionalFunding = 0 then pure (module, execution)
  else do
    let tracked ← module.updateSettledFunding perp execution
    let settledFundingInCollateralDecimals ←
      fromPreciseUnitToDecimals tracked.settledFunding module.collateralDecimals
    let bounded := if settledFundingInCollateralDecimals < notionalFunding then
      settledFundingInCollateralDecimals else notionalFunding
    let collateralBalanceBeforeWithdraw := execution.world.held module.collateralToken
    let withdrawn ← tracked.withdrawFunding perp bounded execution
    let paid ← tracked.handleFees bounded withdrawn
    tracked.updateWithdrawFundingState perp bounded collateralBalanceBeforeWithdraw paid

def updatePerformanceFee (msgSender : Address) (newFee : Nat) (execution : PerpExecution Ledger)
    (module : PerpV2BasisTradingModule) : Outcome PerpV2BasisTradingModule := do
  ModuleBase.validateOnlyManagerAndValidSet module.address msgSender execution.world
  require (newFee ≤ module.feeSettings.maxPerformanceFeePercentage) "Fee must be less than max"
  let remaining ← fromPreciseUnitToDecimals module.settledFunding module.collateralDecimals
  require (remaining = 0) "Non-zero settled funding remains"
  pure { module with
    feeSettings := { module.feeSettings with performanceFeePercentage := newFee } }

def updateFeeRecipient (msgSender newFeeRecipient : Address) (execution : PerpExecution Ledger)
    (module : PerpV2BasisTradingModule) : Outcome PerpV2BasisTradingModule := do
  ModuleBase.validateOnlyManagerAndValidSet module.address msgSender execution.world
  require (newFeeRecipient ≠ 0) "Fee Recipient must be non-zero address"
  pure { module with feeSettings := { module.feeSettings with feeRecipient := newFeeRecipient } }

/-- Called by the Set that removes the module, without charging a fee. -/
def removeModule (perp : PerpV2 Ledger) (execution : PerpExecution Ledger)
    (module : PerpV2BasisTradingModule) : Outcome PerpV2BasisTradingModule := do
  let removed ← module.toPerpV2LeverageModuleV2.removeModule perp execution
  pure { toPerpV2LeverageModuleV2 := removed
         feeSettings :=
          { feeRecipient := 0, maxPerformanceFeePercentage := 0, performanceFeePercentage := 0 }
         settledFunding := 0 }

/-! ### Hooks -/

/-- The funding is tracked even where the extended hook then does nothing. -/
def moduleIssueHook (perp : PerpV2 Ledger) (msgSender : Address) (setTokenQuantity : Nat)
    (execution : PerpExecution Ledger) (module : PerpV2BasisTradingModule) :
    Outcome (PerpV2BasisTradingModule × PerpExecution Ledger) := do
  ModuleBase.validateOnlyModule msgSender execution.world
  let tracked ← module.updateSettledFunding perp execution
  tracked.inherited
    (tracked.toPerpV2LeverageModuleV2.moduleIssueHook perp msgSender setTokenQuantity execution)

def moduleRedeemHook (perp : PerpV2 Ledger) (msgSender : Address) (setTokenQuantity : Nat)
    (execution : PerpExecution Ledger) (module : PerpV2BasisTradingModule) :
    Outcome (PerpV2BasisTradingModule × PerpExecution Ledger) := do
  ModuleBase.validateOnlyModule msgSender execution.world
  if module.hookProceeds execution.world.setToken then do
    let tracked ← module.updateSettledFunding perp execution
    let (newExternalPositionUnit, synced, traded) ←
      tracked.executePositionTrades perp setTokenQuantity false false execution
    let newExternalPositionUnitNetFees ← tracked.calculateNetFeesPositionUnit
      traded.world.setToken newExternalPositionUnit tracked.settledFunding
    let stored ← synced.storePositionUnit newExternalPositionUnitNetFees traded
    pure ({ tracked with toPerpV2LeverageModuleV2 := synced }, stored)
  else pure (module, execution)

def getRedemptionAdjustments (perp : PerpV2 Ledger) (setTokenQuantity : Nat)
    (execution : PerpExecution Ledger) (module : PerpV2BasisTradingModule) :
    Outcome ((List Int × List Int) × PerpV2BasisTradingModule × PerpExecution Ledger) := do
  let (newExternalPositionUnitNetFees, synced, simulated) ←
    (if 0 < module.positions.length then do
      let updatedSettledFunding ← module.getUpdatedSettledFunding perp execution
      let (newExternalPositionUnit, synced, simulated) ←
        module.executePositionTrades perp setTokenQuantity false true execution
      let netFees ← module.calculateNetFeesPositionUnit simulated.world.setToken
        newExternalPositionUnit updatedSettledFunding
      pure (netFees, synced, simulated)
    else pure (0, module.toPerpV2LeverageModuleV2, execution))
  let adjustments ←
    synced.formatAdjustments simulated.world.setToken newExternalPositionUnitNetFees
  pure (adjustments, { module with toPerpV2LeverageModuleV2 := synced }, simulated)

/-! ### The entry points -/

/-- The functions of the module that a manager, an issuance module or anyone else calls. -/
inductive EntryPoint
  | trade (baseToken : Address) (baseQuantityUnits : Int) (quoteBoundQuantityUnits : Nat)
  | tradeAndTrackFunding (baseToken : Address) (baseQuantityUnits : Int)
      (quoteBoundQuantityUnits : Nat)
  | deposit (collateralQuantityUnits : Nat)
  | withdraw (collateralQuantityUnits : Nat)
  | withdrawFundingAndAccrueFees (notionalFunding : Nat)
  | moduleIssueHook (setTokenQuantity : Nat)
  | moduleRedeemHook (setTokenQuantity : Nat)
  | componentIssueHook (setTokenQuantity : Nat) (component : Address) (isEquity : Bool)
  | componentRedeemHook (setTokenQuantity : Nat) (component : Address) (isEquity : Bool)
  | getIssuanceAdjustments (setTokenQuantity : Nat)
  | getRedemptionAdjustments (setTokenQuantity : Nat)
  | updatePerformanceFee (newFee : Nat)
  | updateFeeRecipient (newFeeRecipient : Address)

def EntryPoint.call (perp : PerpV2 Ledger) (msgSender : Address)
    (execution : PerpExecution Ledger) (module : PerpV2BasisTradingModule) :
    EntryPoint → Outcome (PerpV2BasisTradingModule × PerpExecution Ledger)
  | .trade baseToken units bound =>
    module.inherited (module.trade perp msgSender baseToken units bound execution)
  | .tradeAndTrackFunding baseToken units bound =>
    module.tradeAndTrackFunding perp msgSender baseToken units bound execution
  | .deposit units => module.inherited
    (module.keepingModule (module.deposit perp msgSender units execution))
  | .withdraw units => module.withdraw perp msgSender units execution
  | .withdrawFundingAndAccrueFees notionalFunding =>
    module.withdrawFundingAndAccrueFees perp msgSender notionalFunding execution
  | .moduleIssueHook quantity => module.moduleIssueHook perp msgSender quantity execution
  | .moduleRedeemHook quantity => module.moduleRedeemHook perp msgSender quantity execution
  | .componentIssueHook quantity component isEquity => module.inherited (module.keepingModule
    (module.componentIssueHook perp msgSender quantity component isEquity execution))
  | .componentRedeemHook quantity component isEquity => module.inherited (module.keepingModule
    (module.componentRedeemHook perp msgSender quantity component isEquity execution))
  | .getIssuanceAdjustments quantity => do
    let (_, synced, simulated) ← module.getIssuanceAdjustments perp quantity execution
    pure ({ module with toPerpV2LeverageModuleV2 := synced }, simulated)
  | .getRedemptionAdjustments quantity => do
    let (_, synced, simulated) ← module.getRedemptionAdjustments perp quantity execution
    pure (synced, simulated)
  | .updatePerformanceFee newFee => do
    let updated ← module.updatePerformanceFee msgSender newFee execution
    pure (updated, execution)
  | .updateFeeRecipient newFeeRecipient => do
    let updated ← module.updateFeeRecipient msgSender newFeeRecipient execution
    pure (updated, execution)

end PerpV2BasisTradingModule

end IndexProtocol

/-
This file models the module that holds perpetual positions for a Set. The Set's
account with the protocol is an external position in the collateral token. The
manager deposits, withdraws and trades; on issuance and redemption the module
trades every open position by the share of the supply that is issued or
redeemed, and stores what the account is worth per Set token at these trades. An
issuance module can ask for the same value in advance, from simulated trades.
-/

import IndexProtocol.Integration.PerpV2

namespace IndexProtocol

open Revert PreciseUnitMath UnitConversionUtils

/-! ### Storage -/

/-- The module's storage for one Set. -/
structure PerpV2LeverageModuleV2 where
  address : Address
  collateralToken : Address
  collateralDecimals : Nat
  perpVault : Address
  maxPerpPositionsPerSet : Nat
  positions : List Address

structure AccountInfo where
  collateralBalance : Int
  owedRealizedPnl : Int
  pendingFundingPayments : Int
  netQuoteBalance : Int

namespace PerpV2LeverageModuleV2

variable {Ledger : Type}

def protocolTradeFeeIndex : Nat := 0

/-! ### The position list -/

/-- A balance of at most one base unit per Set token counts as none. -/
def hasBaseBalance (perp : PerpV2 Ledger) (baseToken : Address)
    (execution : PerpExecution Ledger) : Outcome Bool := do
  let baseBalance :=
    perp.getBase execution.world.setToken.address baseToken execution.ledger
  let totalSupply ← SafeCast.toInt256 execution.world.setToken.totalSupply
  let baseBalanceUnit ← preciseDivInt baseBalance totalSupply
  pure (decide (1 < baseBalanceUnit) || decide (baseBalanceUnit < -1))

def updatePositionList (perp : PerpV2 Ledger) (baseToken : Address)
    (execution : PerpExecution Ledger) (module : PerpV2LeverageModuleV2) :
    Outcome PerpV2LeverageModuleV2 :=
  if AddressArrayUtils.contains module.positions baseToken then do
    let hasBalance ← hasBaseBalance perp baseToken execution
    if hasBalance = false then do
      let positions ← AddressArrayUtils.removeStorage module.positions baseToken
      pure { module with positions := positions }
    else pure module
  else do
    require (module.positions.length < module.maxPerpPositionsPerSet)
      "Exceeds max perpetual positions per set"
    pure { module with positions := module.positions ++ [baseToken] }

/-- One step of the loop over a copy of the list, which shrinks the list itself. -/
def syncPosition (perp : PerpV2 Ledger) (execution : PerpExecution Ledger)
    (positions : List Address) (currPosition : Address) : Outcome (List Address) := do
  let hasBalance ← hasBaseBalance perp currPosition execution
  if hasBalance = false then AddressArrayUtils.removeStorage positions currPosition
  else pure positions

def syncPositionList (perp : PerpV2 Ledger) (execution : PerpExecution Ledger)
    (module : PerpV2LeverageModuleV2) : Outcome PerpV2LeverageModuleV2 := do
  let positions ← module.positions.foldlM (syncPosition perp execution) module.positions
  pure { module with positions := positions }

/-! ### The account -/

def getPositionNotionalInfo (perp : PerpV2 Ledger) (execution : PerpExecution Ledger)
    (module : PerpV2LeverageModuleV2) : List PerpV2Positions.PositionNotionalInfo :=
  PerpV2Positions.getPositionNotionalInfo perp execution.world.setToken.address module.positions
    execution.ledger

def getAccountInfo (perp : PerpV2 Ledger) (execution : PerpExecution Ledger)
    (module : PerpV2LeverageModuleV2) : Outcome AccountInfo := do
  let setToken := execution.world.setToken.address
  let collateralBalance ← toPreciseUnitsFromDecimalsInt
    (perp.getBalance setToken execution.ledger) module.collateralDecimals
  let pendingFundingPayments ←
    neg (perp.getAllPendingFundingPayment setToken execution.ledger)
  let netQuoteBalance ← PerpV2Positions.getNetQuoteBalance perp setToken module.positions
    execution.ledger
  pure { collateralBalance
         owedRealizedPnl := perp.owedRealizedPnl setToken execution.ledger
         pendingFundingPayments, netQuoteBalance }

def calculatePartialAccountValuePositionUnit (perp : PerpV2 Ledger)
    (execution : PerpExecution Ledger) (module : PerpV2LeverageModuleV2) : Outcome Int := do
  let accountInfo ← module.getAccountInfo perp execution
  let withPnl ← SignedSafeMath.add accountInfo.collateralBalance accountInfo.owedRealizedPnl
  let withFunding ← SignedSafeMath.add withPnl accountInfo.pendingFundingPayments
  let accountValue ← SignedSafeMath.add withFunding accountInfo.netQuoteBalance
  let totalSupply ← SafeCast.toInt256 execution.world.setToken.totalSupply
  preciseDivInt accountValue totalSupply

def updateExternalPositionUnit (perp : PerpV2 Ledger) (execution : PerpExecution Ledger)
    (module : PerpV2LeverageModuleV2) : Outcome (PerpExecution Ledger) := do
  let balance := perp.getBalance execution.world.setToken.address execution.ledger
  let collateralValue ← toPreciseUnitsFromDecimalsInt balance module.collateralDecimals
  let totalSupply ← SafeCast.toInt256 execution.world.setToken.totalSupply
  let valuePerSet ← preciseDivInt collateralValue totalSupply
  let collateralValueUnit ← fromPreciseUnitToDecimalsInt valuePerSet module.collateralDecimals
  execution.onWorld fun world => world.callSetToken
    (Position.editExternalPosition ⟨world.controller, module.address⟩ module.collateralToken
      module.address collateralValueUnit [])

/-! ### Moving collateral -/

/-- The inner deposit, which writes no position. -/
def depositCollateral (perp : PerpV2 Ledger) (collateralNotionalQuantity : Nat)
    (execution : PerpExecution Ledger) (module : PerpV2LeverageModuleV2) :
    Outcome (PerpExecution Ledger) := do
  let approved ← execution.onWorld
    (World.invokeApprove module.address module.collateralToken module.perpVault
      collateralNotionalQuantity)
  approved.invokeDeposit perp module.address module.collateralToken collateralNotionalQuantity

/-- The inner withdrawal, which writes no position. -/
def withdrawCollateral (perp : PerpV2 Ledger) (collateralNotionalQuantity : Nat)
    (execution : PerpExecution Ledger) (module : PerpV2LeverageModuleV2) :
    Outcome (PerpExecution Ledger) :=
  if collateralNotionalQuantity = 0 then pure execution
  else
    execution.invokeWithdraw perp module.address module.collateralToken
      collateralNotionalQuantity

/-- The default position of the collateral from its balance, then the external one. -/
def updatePositions (perp : PerpV2 Ledger) (initialCollateralPositionBalance : Nat)
    (execution : PerpExecution Ledger) (module : PerpV2LeverageModuleV2) :
    Outcome (PerpExecution Ledger) := do
  let edited ← execution.onWorld fun world => do
    let (edited, _) ← world.calculateAndEditDefaultPosition module.address
      module.collateralToken world.setToken.totalSupply initialCollateralPositionBalance
    pure edited
  module.updateExternalPositionUnit perp edited

def depositAndUpdatePositions (perp : PerpV2 Ledger) (collateralQuantityUnits : Nat)
    (execution : PerpExecution Ledger) (module : PerpV2LeverageModuleV2) :
    Outcome (PerpExecution Ledger) := do
  let initialCollateralPositionBalance := execution.world.held module.collateralToken
  let collateralNotionalQuantity ←
    preciseMul collateralQuantityUnits execution.world.setToken.totalSupply
  let deposited ← module.depositCollateral perp collateralNotionalQuantity execution
  module.updatePositions perp initialCollateralPositionBalance deposited

def withdrawAndUpdatePositions (perp : PerpV2 Ledger) (collateralQuantityUnits : Nat)
    (execution : PerpExecution Ledger) (module : PerpV2LeverageModuleV2) :
    Outcome (PerpExecution Ledger) := do
  let initialCollateralPositionBalance := execution.world.held module.collateralToken
  let collateralNotionalQuantity ←
    preciseMulCeil collateralQuantityUnits execution.world.setToken.totalSupply
  let withdrawn ← module.withdrawCollateral perp collateralNotionalQuantity execution
  module.updatePositions perp initialCollateralPositionBalance withdrawn

def accrueProtocolFee (perp : PerpV2 Ledger) (exchangedQuantity : Nat)
    (execution : PerpExecution Ledger) (module : PerpV2LeverageModuleV2) :
    Outcome (PerpExecution Ledger) := do
  let protocolFee ← ModuleBase.getModuleFee module.address protocolTradeFeeIndex
    exchangedQuantity execution.world
  let protocolFeeInPreciseUnits ←
    fromPreciseUnitToDecimals protocolFee module.collateralDecimals
  let withdrawn ← module.withdrawCollateral perp protocolFeeInPreciseUnits execution
  withdrawn.onWorld (ModuleBase.payProtocolFeeFromSetToken module.address
    module.collateralToken protocolFeeInPreciseUnits)

/-! ### Trading -/

def createActionInfoNotional (baseToken : Address) (baseTokenQuantity : Int)
    (quoteReceiveQuantity : Nat) : Outcome PerpV2LibraryV2.ActionInfo := do
  let baseTokenAmount ← abs baseTokenQuantity
  pure { baseToken, isBuy := decide (0 < baseTokenQuantity), baseTokenAmount,
         oppositeAmountBound := quoteReceiveQuantity }

def createAndValidateActionInfo (perp : PerpV2 Ledger) (baseToken : Address)
    (baseQuantityUnits : Int) (quoteReceiveUnits : Nat) (execution : PerpExecution Ledger) :
    Outcome PerpV2LibraryV2.ActionInfo := do
  require (baseQuantityUnits ≠ 0) "Amount is 0"
  require (perp.hasPool baseToken execution.ledger = true) "Base token does not exist"
  let totalSupply := execution.world.setToken.totalSupply
  let baseBalance :=
    perp.getBase execution.world.setToken.address baseToken execution.ledger
  let supply ← SafeCast.toInt256 totalSupply
  let basePositionUnit ← preciseDivInt baseBalance supply
  let closing ← neg basePositionUnit
  let baseNotional ← (if baseQuantityUnits = closing then neg baseBalance
    else preciseMulInt baseQuantityUnits supply)
  let quoteReceiveQuantity ← preciseMul quoteReceiveUnits totalSupply
  createActionInfoNotional baseToken baseNotional quoteReceiveQuantity

/-- What one trade of the issuance or redemption adds to the account value. The running value
and the execution are carried through the loop. -/
def tradePosition (perp : PerpV2 Ledger) (module : PerpV2LeverageModuleV2)
    (setTokenQuantity totalSupply : Int) (isIssue isSimulation : Bool)
    (traded : Int × PerpExecution Ledger)
    (positionInfo : PerpV2Positions.PositionNotionalInfo) :
    Outcome (Int × PerpExecution Ledger) := do
  let baseUnit ← preciseDivInt positionInfo.baseBalance totalSupply
  let baseTradeNotionalQuantity ← preciseMulInt baseUnit setTokenQuantity
  let signedQuantity ← (if isIssue then pure baseTradeNotionalQuantity
    else neg baseTradeNotionalQuantity)
  let actionInfo ← createActionInfoNotional positionInfo.baseToken signedQuantity 0
  let (_, deltaQuote, execution) ←
    (if isSimulation then PerpV2LibraryV2.simulateTrade perp module.address actionInfo traded.2
    else PerpV2LibraryV2.executeTrade perp module.address actionInfo traded.2)
  let delta ← SafeCast.toInt256 deltaQuote
  let accountValueIssued ← (if 0 ≤ baseTradeNotionalQuantity then
    SignedSafeMath.add traded.1 delta else SignedSafeMath.sub traded.1 delta)
  pure (accountValueIssued, execution)

/-- The account value issued or redeemed, per Set token and in collateral decimals. An account
that is worth nothing counts as zero. -/
def issuedPositionUnit (accountValueIssued setTokenQuantity : Int) (isIssue : Bool)
    (module : PerpV2LeverageModuleV2) : Outcome Int :=
  if accountValueIssued ≤ 0 then pure 0
  else do
    let valuePerSet ← (if isIssue then preciseDivCeilInt accountValueIssued setTokenQuantity
      else preciseDivInt accountValueIssued setTokenQuantity)
    fromPreciseUnitToDecimalsInt valuePerSet module.collateralDecimals

def executePositionTrades (perp : PerpV2 Ledger) (setTokenQuantity : Nat)
    (isIssue isSimulation : Bool) (execution : PerpExecution Ledger)
    (module : PerpV2LeverageModuleV2) :
    Outcome (Int × PerpV2LeverageModuleV2 × PerpExecution Ledger) := do
  let synced ← module.syncPositionList perp execution
  let setTokenQuantityInt ← SafeCast.toInt256 setTokenQuantity
  let partialValue ← synced.calculatePartialAccountValuePositionUnit perp execution
  let accountValue ← preciseMulInt partialValue setTokenQuantityInt
  let positionInfo := synced.getPositionNotionalInfo perp execution
  let totalSupply ← SafeCast.toInt256 execution.world.setToken.totalSupply
  let (accountValueIssued, traded) ← positionInfo.foldlM
    (tradePosition perp synced setTokenQuantityInt totalSupply isIssue isSimulation)
    (accountValue, execution)
  let newExternalPositionUnit ←
    synced.issuedPositionUnit accountValueIssued setTokenQuantityInt isIssue
  pure (newExternalPositionUnit, synced, traded)

/-! ### Manager functions -/

def trade (perp : PerpV2 Ledger) (msgSender baseToken : Address) (baseQuantityUnits : Int)
    (quoteBoundQuantityUnits : Nat) (execution : PerpExecution Ledger)
    (module : PerpV2LeverageModuleV2) :
    Outcome (PerpV2LeverageModuleV2 × PerpExecution Ledger) := do
  ModuleBase.validateOnlyManagerAndValidSet module.address msgSender execution.world
  let actionInfo ← createAndValidateActionInfo perp baseToken baseQuantityUnits
    quoteBoundQuantityUnits execution
  let (_, deltaQuote, traded) ←
    PerpV2LibraryV2.executeTrade perp module.address actionInfo execution
  let paid ← module.accrueProtocolFee perp deltaQuote traded
  let updated ← module.updatePositionList perp baseToken paid
  pure (updated, paid)

def deposit (perp : PerpV2 Ledger) (msgSender : Address) (collateralQuantityUnits : Nat)
    (execution : PerpExecution Ledger) (module : PerpV2LeverageModuleV2) :
    Outcome (PerpExecution Ledger) := do
  ModuleBase.validateOnlyManagerAndValidSet module.address msgSender execution.world
  require (0 < collateralQuantityUnits) "Deposit amount is 0"
  let realUnit ← execution.world.setToken.getDefaultPositionRealUnit module.collateralToken
  let defaultUnit ← SafeCast.toUint256 realUnit
  require (collateralQuantityUnits ≤ defaultUnit) "Amount too high"
  module.depositAndUpdatePositions perp collateralQuantityUnits execution

def withdraw (perp : PerpV2 Ledger) (msgSender : Address) (collateralQuantityUnits : Nat)
    (execution : PerpExecution Ledger) (module : PerpV2LeverageModuleV2) :
    Outcome (PerpExecution Ledger) := do
  ModuleBase.validateOnlyManagerAndValidSet module.address msgSender execution.world
  require (0 < collateralQuantityUnits) "Withdraw amount is 0"
  module.withdrawAndUpdatePositions perp collateralQuantityUnits execution

/-- Called by the Set that removes the module. The registrations on issuance modules that it also
gives up are theirs. -/
def removeModule (perp : PerpV2 Ledger) (execution : PerpExecution Ledger)
    (module : PerpV2LeverageModuleV2) : Outcome PerpV2LeverageModuleV2 := do
  ModuleBase.validateOnlyValidAndInitializedSet module.address execution.world
  let accountValue :=
    perp.getAccountValue execution.world.setToken.address execution.ledger
  let totalSupply ← SafeCast.toInt256 execution.world.setToken.totalSupply
  let valuePerSet ← preciseDivInt accountValue totalSupply
  let accountValueUnit ← fromPreciseUnitToDecimalsInt valuePerSet module.collateralDecimals
  require (accountValueUnit ≤ 1) "Account balance exists"
  pure { module with positions := [] }

/-! ### Hooks -/

/-- A hook leaves a Set without supply, or without an external position in the collateral,
alone. -/
def hookProceeds (setToken : SetToken) (module : PerpV2LeverageModuleV2) : Bool :=
  decide (setToken.totalSupply ≠ 0) &&
    Position.hasExternalPosition setToken module.collateralToken

def storePositionUnit (newExternalPositionUnit : Int) (execution : PerpExecution Ledger)
    (module : PerpV2LeverageModuleV2) : Outcome (PerpExecution Ledger) :=
  execution.onWorld fun world => world.callSetToken
    (SetToken.editExternalPositionUnit ⟨world.controller, module.address⟩
      module.collateralToken module.address newExternalPositionUnit)

/-- What the hooks before an issuance and before a redemption do. -/
def moduleHook (perp : PerpV2 Ledger) (msgSender : Address) (setTokenQuantity : Nat)
    (isIssue : Bool) (execution : PerpExecution Ledger) (module : PerpV2LeverageModuleV2) :
    Outcome (PerpV2LeverageModuleV2 × PerpExecution Ledger) := do
  ModuleBase.validateOnlyModule msgSender execution.world
  if module.hookProceeds execution.world.setToken then do
    let (newExternalPositionUnit, synced, traded) ←
      module.executePositionTrades perp setTokenQuantity isIssue false execution
    let stored ← synced.storePositionUnit newExternalPositionUnit traded
    pure (synced, stored)
  else pure (module, execution)

def moduleIssueHook (perp : PerpV2 Ledger) (msgSender : Address) (setTokenQuantity : Nat)
    (execution : PerpExecution Ledger) (module : PerpV2LeverageModuleV2) :
    Outcome (PerpV2LeverageModuleV2 × PerpExecution Ledger) :=
  module.moduleHook perp msgSender setTokenQuantity true execution

def moduleRedeemHook (perp : PerpV2 Ledger) (msgSender : Address) (setTokenQuantity : Nat)
    (execution : PerpExecution Ledger) (module : PerpV2LeverageModuleV2) :
    Outcome (PerpV2LeverageModuleV2 × PerpExecution Ledger) :=
  module.moduleHook perp msgSender setTokenQuantity false execution

def componentIssueHook (perp : PerpV2 Ledger) (msgSender : Address) (setTokenQuantity : Nat)
    (component : Address) (isEquity : Bool) (execution : PerpExecution Ledger)
    (module : PerpV2LeverageModuleV2) : Outcome (PerpExecution Ledger) := do
  ModuleBase.validateOnlyModule msgSender execution.world
  if isEquity then do
    let externalPositionUnit ←
      execution.world.setToken.getExternalPositionRealUnit component module.address
    let unit ← SafeCast.toUint256 externalPositionUnit
    let usdcTransferInNotionalQuantity ← preciseMulCeil setTokenQuantity unit
    module.depositCollateral perp usdcTransferInNotionalQuantity execution
  else pure execution

def componentRedeemHook (perp : PerpV2 Ledger) (msgSender : Address) (setTokenQuantity : Nat)
    (component : Address) (isEquity : Bool) (execution : PerpExecution Ledger)
    (module : PerpV2LeverageModuleV2) : Outcome (PerpExecution Ledger) := do
  ModuleBase.validateOnlyModule msgSender execution.world
  if isEquity then do
    let externalPositionUnit ←
      execution.world.setToken.getExternalPositionRealUnit component module.address
    let unit ← SafeCast.toUint256 externalPositionUnit
    let usdcTransferOutNotionalQuantity ← preciseMul setTokenQuantity unit
    module.withdrawCollateral perp usdcTransferOutNotionalQuantity execution
  else pure execution

/-! ### Adjustments asked for in advance -/

def formatAdjustments (setToken : SetToken) (newExternalPositionUnit : Int)
    (module : PerpV2LeverageModuleV2) : Outcome (List Int × List Int) := do
  let currentExternalPositionUnit ←
    setToken.getExternalPositionRealUnit module.collateralToken module.address
  PerpV2Positions.formatAdjustments setToken module.collateralToken currentExternalPositionUnit
    newExternalPositionUnit

/-- The adjustments of an issuance or of a redemption. The list is synced on the way. -/
def getAdjustments (perp : PerpV2 Ledger) (setTokenQuantity : Nat) (isIssue : Bool)
    (execution : PerpExecution Ledger) (module : PerpV2LeverageModuleV2) :
    Outcome ((List Int × List Int) × PerpV2LeverageModuleV2 × PerpExecution Ledger) := do
  let (newExternalPositionUnit, synced, simulated) ←
    (if 0 < module.positions.length then
      module.executePositionTrades perp setTokenQuantity isIssue true execution
    else pure (0, module, execution))
  let adjustments ← synced.formatAdjustments simulated.world.setToken newExternalPositionUnit
  pure (adjustments, synced, simulated)

def getIssuanceAdjustments (perp : PerpV2 Ledger) (setTokenQuantity : Nat)
    (execution : PerpExecution Ledger) (module : PerpV2LeverageModuleV2) :
    Outcome ((List Int × List Int) × PerpV2LeverageModuleV2 × PerpExecution Ledger) :=
  module.getAdjustments perp setTokenQuantity true execution

def getRedemptionAdjustments (perp : PerpV2 Ledger) (setTokenQuantity : Nat)
    (execution : PerpExecution Ledger) (module : PerpV2LeverageModuleV2) :
    Outcome ((List Int × List Int) × PerpV2LeverageModuleV2 × PerpExecution Ledger) :=
  module.getAdjustments perp setTokenQuantity false execution

/-! ### The entry points -/

/-- The functions of the module, but for its set-up. -/
inductive EntryPoint
  | trade (baseToken : Address) (baseQuantityUnits : Int) (quoteBoundQuantityUnits : Nat)
  | deposit (collateralQuantityUnits : Nat)
  | withdraw (collateralQuantityUnits : Nat)
  | moduleIssueHook (setTokenQuantity : Nat)
  | moduleRedeemHook (setTokenQuantity : Nat)
  | componentIssueHook (setTokenQuantity : Nat) (component : Address) (isEquity : Bool)
  | componentRedeemHook (setTokenQuantity : Nat) (component : Address) (isEquity : Bool)
  | getIssuanceAdjustments (setTokenQuantity : Nat)
  | getRedemptionAdjustments (setTokenQuantity : Nat)
  | removeModule

/-- A function that does not write the module's storage. -/
def keepingModule (call : Outcome (PerpExecution Ledger)) (module : PerpV2LeverageModuleV2) :
    Outcome (PerpV2LeverageModuleV2 × PerpExecution Ledger) := do
  let next ← call
  pure (module, next)

def EntryPoint.call (perp : PerpV2 Ledger) (msgSender : Address)
    (execution : PerpExecution Ledger) (module : PerpV2LeverageModuleV2) :
    EntryPoint → Outcome (PerpV2LeverageModuleV2 × PerpExecution Ledger)
  | .trade baseToken units bound =>
    module.trade perp msgSender baseToken units bound execution
  | .deposit units => module.keepingModule (module.deposit perp msgSender units execution)
  | .withdraw units => module.keepingModule (module.withdraw perp msgSender units execution)
  | .moduleIssueHook quantity => module.moduleIssueHook perp msgSender quantity execution
  | .moduleRedeemHook quantity => module.moduleRedeemHook perp msgSender quantity execution
  | .componentIssueHook quantity component isEquity => module.keepingModule
    (module.componentIssueHook perp msgSender quantity component isEquity execution)
  | .componentRedeemHook quantity component isEquity => module.keepingModule
    (module.componentRedeemHook perp msgSender quantity component isEquity execution)
  | .getIssuanceAdjustments quantity => do
    let (_, synced, simulated) ← module.getIssuanceAdjustments perp quantity execution
    pure (synced, simulated)
  | .getRedemptionAdjustments quantity => do
    let (_, synced, simulated) ← module.getRedemptionAdjustments perp quantity execution
    pure (synced, simulated)
  | .removeModule => do
    let removed ← module.removeModule perp execution
    pure (removed, execution)

/-- A hook that proceeds executes the trades and stores the unit these come to; otherwise nothing
happens. -/
theorem moduleHook_eq_ok {perp : PerpV2 Ledger} {msgSender : Address} {setTokenQuantity : Nat}
    {isIssue : Bool} {before after : PerpExecution Ledger} {module next : PerpV2LeverageModuleV2}
    (returned : module.moduleHook perp msgSender setTokenQuantity isIssue before =
      .ok (next, after)) :
    ¬module.hookProceeds before.world.setToken = true ∧ next = module ∧ after = before ∨
      module.hookProceeds before.world.setToken = true ∧ ∃ unit traded,
        module.executePositionTrades perp setTokenQuantity isIssue false before =
          .ok (unit, next, traded) ∧
        next.storePositionUnit unit traded = .ok after := by
  simp only [moduleHook, bind_eq_ok] at returned
  obtain ⟨_, _, hooked⟩ := returned
  split at hooked
  · rename_i proceeds
    simp only [bind_eq_ok, Prod.exists, pure_eq_ok, Prod.mk.injEq] at hooked
    obtain ⟨unit, _, traded, executed, _, storing, rfl, rfl⟩ := hooked
    exact Or.inr ⟨proceeds, unit, traded, executed, storing⟩
  · rename_i stops
    obtain ⟨same, still⟩ := Prod.mk.injEq _ _ _ _ ▸ (pure_eq_ok _ _).mp hooked
    exact Or.inl ⟨stops, same.symm, still.symm⟩

end PerpV2LeverageModuleV2

end IndexProtocol

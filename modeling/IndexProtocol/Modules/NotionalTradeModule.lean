/-
This file models how the Notional trade module redeems wrapped fCash: the manager
redeems an amount per Set, and before every issuance and redemption of the Set
the matured positions are redeemed as a whole, one after the other, from the list
of positions as it was before the first of them. The wrappers, their factory and
what a redemption pays are outside the repository.
-/

import IndexProtocol.Protocol.Execution
import IndexProtocol.Protocol.PositionUpdates

namespace IndexProtocol

open Revert PreciseUnitMath

/-! ### The wrappers -/

/-- The redeeming calls of a wrapper: the amount, the receiver and the highest implied rate. -/
inductive FCashCall
  | redeemToAsset (amount : Nat) (receiver : Address) (maxImpliedRate : Nat)
  | redeemToUnderlying (amount : Nat) (receiver : Address) (maxImpliedRate : Nat)

/-- The wrappers, their factory and the encoding of their calls. A call in a `try` that fails is
`none`; the call for the identifier has a gas limit. The time tells whether a wrapper has
matured. -/
structure FCashWrappers (Ledger : Type) extends Protocols Ledger where
  isContract : Address → Bool
  getDecodedID : Nat → Address → Option (Nat × Nat)
  computeAddress : Nat → Nat → Option Address
  hasMatured : Address → Nat → Bool
  getToken : Address → Bool → Outcome (Address × Bool)
  encode : FCashCall → Bytes

/-- The module's storage for one Set, with the wrapped ether token and the gas limit. -/
structure NotionalTradeModule where
  address : Address
  redemptionHookDisabled : Bool
  redeemToUnderlying : Bool
  weth : Address
  decodedIdGasLimit : Nat

namespace NotionalTradeModule

variable {Ledger : Type}

/-! ### Settings -/

def updateRedemptionHookDisabled (module : NotionalTradeModule) (msgSender : Address)
    (isDisabled : Bool) (world : World) : Outcome NotionalTradeModule := do
  ModuleBase.validateOnlyManagerAndValidSet module.address msgSender world
  pure { module with redemptionHookDisabled := isDisabled }

def setRedeemToUnderlying (module : NotionalTradeModule) (msgSender : Address)
    (toUnderlying : Bool) (world : World) : Outcome NotionalTradeModule := do
  ModuleBase.validateOnlyManagerAndValidSet module.address msgSender world
  pure { module with redeemToUnderlying := toUnderlying }

/-! ### Wrapped fCash -/

/-- The factory computes the address of the component from its identifier. -/
def isWrappedFCash (module : NotionalTradeModule) (wrappers : FCashWrappers Ledger)
    (fCashPosition : Address) : Bool :=
  wrappers.isContract fCashPosition &&
    match wrappers.getDecodedID module.decodedIdGasLimit fCashPosition with
    | none => false
    | some (currencyId, maturity) =>
      match wrappers.computeAddress currencyId maturity with
      | none => false
      | some computedAddress => decide (fCashPosition = computedAddress)

def getFCashComponents (module : NotionalTradeModule) (wrappers : FCashWrappers Ledger)
    (world : World) : Outcome (List Address) := do
  let positions ← world.setToken.getPositions
  pure ((positions.filter fun position =>
    decide (0 < position.unit) && module.isWrappedFCash wrappers position.component).map
      PositionEntry.component)

/-- The token a wrapper pays in; ether is paid in wrapped ether. -/
def paidToken (module : NotionalTradeModule) (wrappers : FCashWrappers Ledger)
    (fCashPosition : Address) (toUnderlying : Bool) : Outcome Address := do
  let (receiveToken, isEth) ← wrappers.getToken fCashPosition toUnderlying
  pure (if isEth = true then module.weth else receiveToken)

def getUnderlyingAndAssetTokens (module : NotionalTradeModule)
    (wrappers : FCashWrappers Ledger) (fCashPosition : Address) :
    Outcome (Address × Address) := do
  let underlyingToken ← module.paidToken wrappers fCashPosition true
  let (assetToken, _) ← wrappers.getToken fCashPosition false
  pure (underlyingToken, assetToken)

def isUnderlying (module : NotionalTradeModule) (wrappers : FCashWrappers Ledger)
    (fCashPosition paymentToken : Address) : Outcome Bool := do
  let (underlyingToken, assetToken) ← module.getUnderlyingAndAssetTokens wrappers fCashPosition
  if paymentToken = underlyingToken then pure true
  else do
    require (paymentToken = assetToken) "Token is neither asset nor underlying token"
    pure false

/-- Reverts where the factory does or where no wrapper is deployed. -/
def getWrappedfCash (wrappers : FCashWrappers Ledger) (currencyId maturity : Nat) :
    Outcome Address :=
  match wrappers.computeAddress currencyId maturity with
  | none => .error ""
  | some wrappedfCashAddress => do
    require (wrappers.isContract wrappedfCashAddress = true)
      "WrappedfCash not deployed for given parameters"
    pure wrappedfCashAddress

/-! ### Redeeming -/

def calculateTotalAmounts (setToken : SetToken) (fCashAmount paymentTokenAmount : Nat) :
    Outcome (Nat × Nat) := do
  let totalfCashAmount ← Position.getDefaultTotalNotional setToken.totalSupply fCashAmount
  let totalpaymentTokenAmount ←
    Position.getDefaultTotalNotional setToken.totalSupply paymentTokenAmount
  pure (totalfCashAmount, totalpaymentTokenAmount)

/-- The call with which the Set redeems for itself, at any rate. -/
def redeemCall (toUnderlying : Bool) (fCashAmount : Nat) (setToken : Address) : FCashCall :=
  if toUnderlying = true then .redeemToUnderlying fCashAmount setToken (2 ^ 32 - 1)
  else .redeemToAsset fCashAmount setToken (2 ^ 32 - 1)

def redeem (module : NotionalTradeModule) (wrappers : FCashWrappers Ledger)
    (fCashPosition : Address) (fCashAmount : Nat) (toUnderlying : Bool)
    (execution : Execution Ledger) : Outcome (Execution Ledger) :=
  execution.invokeUnchecked wrappers.toProtocols module.address ⟨fCashPosition, 0,
    .raw (wrappers.encode
      (redeemCall toUnderlying fCashAmount execution.world.setToken.address))⟩

/-- Returns the amounts sent and received. -/
def updateSetTokenPositions (module : NotionalTradeModule) :
    Address → Address → Nat → Nat → World → Outcome (World × Nat × Nat) :=
  World.updatePositions module.address

/-- Returns the received amount. Nothing is done for an amount of zero. -/
def redeemFCashPosition (module : NotionalTradeModule) (wrappers : FCashWrappers Ledger)
    (fCashPosition receiveToken : Address) (fCashAmount minReceiveAmount : Nat)
    (toUnderlying : Bool) (execution : Execution Ledger) :
    Outcome (Execution Ledger × Nat) :=
  if fCashAmount = 0 then pure (execution, 0)
  else do
    let preTradeReceiveTokenBalance := execution.world.held receiveToken
    let preTradeSendTokenBalance := execution.world.held fCashPosition
    let redeemed ← module.redeem wrappers fCashPosition fCashAmount toUnderlying execution
    let (world, _, receivedAmount) ← module.updateSetTokenPositions fCashPosition receiveToken
      preTradeSendTokenBalance preTradeReceiveTokenBalance redeemed.world
    require (minReceiveAmount ≤ receivedAmount) "Not enough received amount"
    pure ({ redeemed with world := world }, receivedAmount)

def redeemFixedFCashForToken (module : NotionalTradeModule) (wrappers : FCashWrappers Ledger)
    (msgSender : Address) (currencyId maturity redeemAmount : Nat) (receiveToken : Address)
    (minReceiveAmount : Nat) (execution : Execution Ledger) :
    Outcome (Execution Ledger × Nat) := do
  let setToken := execution.world.setToken
  ModuleBase.validateOnlyManagerAndValidSet module.address msgSender execution.world
  let wrappedfCash ← getWrappedfCash wrappers currencyId maturity
  require (setToken.isComponent wrappedfCash = true) "FCash to redeem must be an index component"
  let sufficient ← Position.hasSufficientDefaultUnits setToken wrappedfCash redeemAmount
  require (sufficient = true) "Insufficient fCash position"
  let (totalRedeemAmount, totalMinReceiveAmount) ←
    calculateTotalAmounts setToken redeemAmount minReceiveAmount
  let toUnderlying ← module.isUnderlying wrappers wrappedfCash receiveToken
  module.redeemFCashPosition wrappers wrappedfCash receiveToken totalRedeemAmount
    totalMinReceiveAmount toUnderlying execution

/-! ### Matured positions -/

def isMaturedFCash (module : NotionalTradeModule) (wrappers : FCashWrappers Ledger)
    (timestamp : Nat) (component : Address) : Bool :=
  module.isWrappedFCash wrappers component && wrappers.hasMatured component timestamp

/-- The body of the loop. A position is redeemed by its unit, whether it is a default or an
external one. -/
def redeemIfMatured (module : NotionalTradeModule) (wrappers : FCashWrappers Ledger)
    (execution : Execution Ledger) (position : PositionEntry) : Outcome (Execution Ledger) :=
  if 0 < position.unit ∧
      module.isMaturedFCash wrappers execution.world.timestamp position.component = true then do
    let receiveToken ← module.paidToken wrappers position.component module.redeemToUnderlying
    let totalfCashAmount ← Position.getDefaultTotalNotional
      execution.world.setToken.totalSupply position.unit.toNat
    let (redeemed, _) ← module.redeemFCashPosition wrappers position.component receiveToken
      totalfCashAmount 0 module.redeemToUnderlying execution
    pure redeemed
  else pure execution

/-- `_redeemMaturedPositions`, which reads the positions once. -/
def redeemAllMatured (module : NotionalTradeModule) (wrappers : FCashWrappers Ledger)
    (execution : Execution Ledger) : Outcome (Execution Ledger) := do
  let positions ← execution.world.setToken.getPositions
  positions.foldlM (module.redeemIfMatured wrappers) execution

/-- Callable by anybody. -/
def redeemMaturedPositions (module : NotionalTradeModule) (wrappers : FCashWrappers Ledger)
    (execution : Execution Ledger) : Outcome (Execution Ledger) := do
  ModuleBase.validateOnlyValidAndInitializedSet module.address execution.world
  module.redeemAllMatured wrappers execution

/-- The body of both hooks. The quantity of Sets plays no part in it. -/
def redemptionHook (module : NotionalTradeModule) (wrappers : FCashWrappers Ledger)
    (msgSender : Address) (execution : Execution Ledger) : Outcome (Execution Ledger) := do
  ModuleBase.validateOnlyModule msgSender execution.world
  if module.redemptionHookDisabled = false then module.redeemAllMatured wrappers execution
  else pure execution

def moduleIssueHook (module : NotionalTradeModule) (wrappers : FCashWrappers Ledger)
    (msgSender : Address) (_setTokenAmount : Nat) :
    Execution Ledger → Outcome (Execution Ledger) :=
  module.redemptionHook wrappers msgSender

def moduleRedeemHook (module : NotionalTradeModule) (wrappers : FCashWrappers Ledger)
    (msgSender : Address) (_setTokenAmount : Nat) :
    Execution Ledger → Outcome (Execution Ledger) :=
  module.redemptionHook wrappers msgSender

end NotionalTradeModule

end IndexProtocol

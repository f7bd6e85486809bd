/-
This file models the module that issues and redeems a Set with external
positions. The units of a component are summed into an equity and a debt unit;
equity is collected from the issuer and returned to the redeemer, debt is paid
out to the issuer and collected from the redeemer. A component whose quantity is
positive in a pass has its external position modules called from that pass:
after the transfer where the component comes in, before it where it goes out.
Issue and redeem are modelled in two parts, as the hooks before them may edit
the positions the rest computes with.
-/

import IndexProtocol.Modules.IssuanceHooks

namespace IndexProtocol

open Revert PreciseUnitMath

/-! ### Components and their quantities -/

/-- The arrays of components, equity values and debt values, read together. -/
abbrev ComponentValues := List (Address × Nat × Nat)

/-- The module's storage for one Set. -/
structure DebtIssuanceModule where
  address : Address
  maxManagerFee : Nat
  managerIssueFee : Nat
  managerRedeemFee : Nat
  feeRecipient : Address
  managerIssuanceHook : Address
  moduleIssuanceHooks : List Address
  isModuleHook : Address → Bool

namespace DebtIssuanceModule

variable {Ledger : Type}

/-- `ISSUANCE_MODULE_PROTOCOL_FEE_SPLIT_INDEX`. -/
def protocolFeeSplitIndex : Nat := 0

/-- Add the unit of one module's position to the cumulative equity or to the cumulative debt. -/
def cumulate (setToken : SetToken) (component : Address) (cumulative : Int × Int)
    (module : Address) : Outcome (Int × Int) := do
  let externalPositionUnit ← setToken.getExternalPositionRealUnit component module
  if 0 < externalPositionUnit then do
    let cumulativeEquity ← SignedSafeMath.add cumulative.1 externalPositionUnit
    pure (cumulativeEquity, cumulative.2)
  else do
    let cumulativeDebt ← SignedSafeMath.add cumulative.2 externalPositionUnit
    pure (cumulative.1, cumulativeDebt)

/-- The cumulative equity, starting from a default unit, and the cumulative debt of a component,
as unsigned units. -/
def cumulativeUnits (setToken : SetToken) (component : Address) (defaultUnit : Int) :
    Outcome (Nat × Nat) := do
  let (cumulativeEquity, cumulativeDebt) ←
    (setToken.externalPositionModules component).foldlM (cumulate setToken component)
      (defaultUnit, 0)
  let equityUnit ← SafeCast.toUint256 cumulativeEquity
  let debt ← SignedSafeMath.mul cumulativeDebt (-1)
  let debtUnit ← SafeCast.toUint256 debt
  pure (equityUnit, debtUnit)

def totalIssuanceUnits (setToken : SetToken) (component : Address) :
    Outcome (Address × Nat × Nat) := do
  let defaultUnit ← setToken.getDefaultPositionRealUnit component
  let (equityUnit, debtUnit) ← cumulativeUnits setToken component defaultUnit
  pure (component, equityUnit, debtUnit)

def getTotalIssuanceUnits (setToken : SetToken) : Outcome ComponentValues :=
  setToken.components.mapM (totalIssuanceUnits setToken)

/-- Equity is rounded up on issuance and down on redemption, debt the other way. -/
def requiredQuantities (quantity : Nat) (isIssue : Bool) (units : Address × Nat × Nat) :
    Outcome (Address × Nat × Nat) := do
  let equity ← (if isIssue then preciseMulCeil units.2.1 quantity
    else preciseMul units.2.1 quantity)
  let debt ← (if isIssue then preciseMul units.2.2 quantity
    else preciseMulCeil units.2.2 quantity)
  pure (units.1, equity, debt)

def calculateRequiredComponentIssuanceUnits (setToken : SetToken) (quantity : Nat)
    (isIssue : Bool) : Outcome ComponentValues := do
  let units ← getTotalIssuanceUnits setToken
  units.mapM (requiredQuantities quantity isIssue)

/-! ### Fees -/

structure TotalFees where
  totalQuantity : Nat
  managerFee : Nat
  protocolFee : Nat

def calculateTotalFees (module : DebtIssuanceModule) (quantity : Nat) (isIssue : Bool)
    (world : World) : Outcome TotalFees := do
  let protocolFeeSplit := world.controller.getModuleFee module.address protocolFeeSplitIndex
  let totalFeeRate := if isIssue then module.managerIssueFee else module.managerRedeemFee
  let totalFee ← preciseMul totalFeeRate quantity
  let protocolFee ← preciseMul totalFee protocolFeeSplit
  let managerFee ← SafeMath.sub totalFee protocolFee
  let totalQuantity ← (if isIssue then SafeMath.add quantity totalFee
    else SafeMath.sub quantity totalFee)
  pure { totalQuantity, managerFee, protocolFee }

def mint (module : DebtIssuanceModule) (recipient : Address) (quantity : Nat)
    (execution : Execution Ledger) : Outcome (Execution Ledger) :=
  execution.carryOut (.minted recipient quantity) (Execution.onWorld fun world =>
    world.callSetToken (SetToken.mint ⟨world.controller, module.address⟩ recipient quantity))

/-- The check of the protocol fee is inside the check of the manager fee. -/
def resolveFees (module : DebtIssuanceModule) (managerFee protocolFee : Nat)
    (execution : Execution Ledger) : Outcome (Execution Ledger) :=
  if 0 < managerFee then do
    let minted ← module.mint module.feeRecipient managerFee execution
    if 0 < protocolFee then
      module.mint minted.world.controller.feeRecipient protocolFee minted
    else pure minted
  else pure execution

/-! ### Hooks -/

def callManagerPreIssueHooks (module : DebtIssuanceModule) (deployment : Deployment Ledger)
    (quantity : Nat) (caller recipient : Address) (execution : Execution Ledger) :
    Outcome (Execution Ledger) :=
  if module.managerIssuanceHook ≠ 0 then do
    let (world, ledger) ← deployment.invokePreIssueHook module.managerIssuanceHook quantity
      caller recipient execution.world execution.ledger
    pure { execution with world := world, ledger := ledger }
  else pure execution

def callModulePreIssueHooks (module : DebtIssuanceModule) (deployment : Deployment Ledger)
    (execution : Execution Ledger) : Outcome (Execution Ledger) :=
  module.moduleIssuanceHooks.foldlM (deployment.callModuleHook module.address true) execution

def callModulePreRedeemHooks (module : DebtIssuanceModule) (deployment : Deployment Ledger)
    (execution : Execution Ledger) : Outcome (Execution Ledger) :=
  module.moduleIssuanceHooks.foldlM (deployment.callModuleHook module.address false) execution

def executeExternalPositionHooks (module : DebtIssuanceModule) (deployment : Deployment Ledger)
    (setTokenQuantity : Nat) (component : Address) (isIssue isEquity : Bool)
    (execution : Execution Ledger) : Outcome (Execution Ledger) :=
  (execution.world.setToken.externalPositionModules component).foldlM
    (deployment.callComponentHook module.address isIssue isEquity setTokenQuantity component)
    execution

/-! ### Resolving positions -/

/-- How a pass carries out a transfer of a component into the Set or out of it. -/
structure Movement (Ledger : Type) where
  transferIn : Transfer → Execution Ledger → Outcome (Execution Ledger)
  transferOut : Transfer → Execution Ledger → Outcome (Execution Ledger)

/-- Resolve one component in one pass. Equity comes in on issuance and debt on redemption. -/
def resolvePosition (module : DebtIssuanceModule) (deployment : Deployment Ledger)
    (movement : Movement Ledger) (setTokenQuantity : Nat) (isIssue isEquity : Bool)
    (component : Address) (componentQuantity : Nat) (execution : Execution Ledger) :
    Outcome (Execution Ledger) :=
  let transfer : Transfer := ⟨isIssue, isEquity, component, componentQuantity⟩
  if 0 < componentQuantity then
    if isIssue = isEquity then do
      let collected ← movement.transferIn transfer execution
      module.executeExternalPositionHooks deployment setTokenQuantity component isIssue isEquity
        collected
    else do
      let hooked ← module.executeExternalPositionHooks deployment setTokenQuantity component
        isIssue isEquity execution
      movement.transferOut transfer hooked
  else pure execution

/-- One pass over all components, with the equity or with the debt quantities. -/
def resolvePass (module : DebtIssuanceModule) (deployment : Deployment Ledger)
    (movement : Movement Ledger) (setTokenQuantity : Nat) (isIssue isEquity : Bool)
    (required : ComponentValues) (execution : Execution Ledger) :
    Outcome (Execution Ledger) :=
  required.foldlM (fun execution entry =>
    module.resolvePosition deployment movement setTokenQuantity isIssue isEquity entry.1
      (if isEquity then entry.2.1 else entry.2.2) execution) execution

/-- Transfers in from the caller, out to an account, both of exactly the quantity. -/
def exactMovement (module : DebtIssuanceModule) (msgSender recipient : Address) :
    Movement Ledger where
  transferIn transfer := Execution.carryOut (.transferred transfer) (Execution.onWorld fun world =>
    world.explicitTransferFrom module.address transfer.component msgSender
      world.setToken.address transfer.quantity)
  transferOut transfer := Execution.carryOut (.transferred transfer) (Execution.onWorld fun world =>
    world.strictInvokeTransfer module.address transfer.component recipient transfer.quantity)

def resolveEquityPositions (module : DebtIssuanceModule) (deployment : Deployment Ledger)
    (msgSender : Address) (quantity : Nat) (recipient : Address) (isIssue : Bool)
    (required : ComponentValues) : Execution Ledger → Outcome (Execution Ledger) :=
  module.resolvePass deployment (module.exactMovement msgSender recipient) quantity isIssue true
    required

/-- The debt goes out to the caller. -/
def resolveDebtPositions (module : DebtIssuanceModule) (deployment : Deployment Ledger)
    (msgSender : Address) (quantity : Nat) (isIssue : Bool) (required : ComponentValues) :
    Execution Ledger → Outcome (Execution Ledger) :=
  module.resolvePass deployment (module.exactMovement msgSender msgSender) quantity isIssue false
    required

/-! ### Issue and redeem -/

/-- The equity and debt units that an order is computed from. -/
def orderUnits (setToken : SetToken) : ComponentValues :=
  match getTotalIssuanceUnits setToken with
  | .ok units => units
  | .error _ => []

/-- The checks and hooks before an issuance. -/
def prepareIssue (module : DebtIssuanceModule) (deployment : Deployment Ledger)
    (msgSender : Address) (quantity : Nat) (recipient : Address)
    (execution : Execution Ledger) : Outcome (Execution Ledger) := do
  ModuleBase.validateOnlyValidAndInitializedSet module.address execution.world
  require (0 < quantity) "Issue quantity must be > 0"
  let hooked ← module.callManagerPreIssueHooks deployment quantity msgSender recipient execution
  module.callModulePreIssueHooks deployment hooked

def completeIssue (module : DebtIssuanceModule) (deployment : Deployment Ledger)
    (msgSender : Address) (quantity : Nat) (recipient : Address)
    (execution : Execution Ledger) : Outcome (Execution Ledger) := do
  let fees ← module.calculateTotalFees quantity true execution.world
  let required ← calculateRequiredComponentIssuanceUnits execution.world.setToken
    fees.totalQuantity true
  let ordered := execution.record
    (.ordered ⟨true, quantity, orderUnits execution.world.setToken⟩)
  let collected ← module.resolveEquityPositions deployment msgSender fees.totalQuantity recipient
    true required ordered
  let paid ← module.resolveDebtPositions deployment msgSender fees.totalQuantity true required
    collected
  let resolved ← module.resolveFees fees.managerFee fees.protocolFee paid
  module.mint recipient quantity resolved

def issue (module : DebtIssuanceModule) (deployment : Deployment Ledger) (msgSender : Address)
    (quantity : Nat) (recipient : Address) (execution : Execution Ledger) :
    Outcome (Execution Ledger) := do
  let prepared ← module.prepareIssue deployment msgSender quantity recipient execution
  module.completeIssue deployment msgSender quantity recipient prepared

/-- The checks and hooks before a redemption. -/
def prepareRedeem (module : DebtIssuanceModule) (deployment : Deployment Ledger)
    (quantity : Nat) (execution : Execution Ledger) : Outcome (Execution Ledger) := do
  ModuleBase.validateOnlyValidAndInitializedSet module.address execution.world
  require (0 < quantity) "Redeem quantity must be > 0"
  module.callModulePreRedeemHooks deployment execution

/-- The quantity is burned after the hooks, as they account with the supply. -/
def completeRedeem (module : DebtIssuanceModule) (deployment : Deployment Ledger)
    (msgSender : Address) (quantity : Nat) (recipient : Address)
    (execution : Execution Ledger) : Outcome (Execution Ledger) := do
  let burned ← execution.onWorld fun world =>
    world.callSetToken (SetToken.burn ⟨world.controller, module.address⟩ msgSender quantity)
  let fees ← module.calculateTotalFees quantity false burned.world
  let required ← calculateRequiredComponentIssuanceUnits burned.world.setToken
    fees.totalQuantity false
  let ordered := burned.record
    (.ordered ⟨false, quantity, orderUnits burned.world.setToken⟩)
  let collected ← module.resolveDebtPositions deployment msgSender fees.totalQuantity false
    required ordered
  let returned ← module.resolveEquityPositions deployment msgSender fees.totalQuantity recipient
    false required collected
  module.resolveFees fees.managerFee fees.protocolFee returned

def redeem (module : DebtIssuanceModule) (deployment : Deployment Ledger) (msgSender : Address)
    (quantity : Nat) (recipient : Address) (execution : Execution Ledger) :
    Outcome (Execution Ledger) := do
  let prepared ← module.prepareRedeem deployment quantity execution
  module.completeRedeem deployment msgSender quantity recipient prepared

/-! ### Settings -/

def initializeSet (address msgSender : Address)
    (maxManagerFee managerIssueFee managerRedeemFee : Nat)
    (feeRecipient managerIssuanceHook : Address) (isModuleHook : Address → Bool)
    (world : World) : Outcome (DebtIssuanceModule × World) := do
  ModuleBase.validateOnlySetManager msgSender world
  ModuleBase.validateOnlyValidAndPendingSet address world
  require (managerIssueFee ≤ maxManagerFee) "Issue fee can't exceed maximum fee"
  require (managerRedeemFee ≤ maxManagerFee) "Redeem fee can't exceed maximum fee"
  let initialized ← world.callSetToken
    (SetToken.initializeModule ⟨world.controller, address⟩)
  pure ({ address, maxManagerFee, managerIssueFee, managerRedeemFee, feeRecipient,
          managerIssuanceHook, moduleIssuanceHooks := [], isModuleHook }, initialized)

def updateIssueFee (module : DebtIssuanceModule) (msgSender : Address) (newIssueFee : Nat)
    (world : World) : Outcome DebtIssuanceModule := do
  ModuleBase.validateOnlyManagerAndValidSet module.address msgSender world
  require (newIssueFee ≤ module.maxManagerFee) "Issue fee can't exceed maximum"
  require (newIssueFee ≠ module.managerIssueFee) "Same issue fee passed"
  pure { module with managerIssueFee := newIssueFee }

def updateRedeemFee (module : DebtIssuanceModule) (msgSender : Address) (newRedeemFee : Nat)
    (world : World) : Outcome DebtIssuanceModule := do
  ModuleBase.validateOnlyManagerAndValidSet module.address msgSender world
  require (newRedeemFee ≤ module.maxManagerFee) "Redeem fee can't exceed maximum"
  require (newRedeemFee ≠ module.managerRedeemFee) "Same redeem fee passed"
  pure { module with managerRedeemFee := newRedeemFee }

def updateFeeRecipient (module : DebtIssuanceModule) (msgSender newFeeRecipient : Address)
    (world : World) : Outcome DebtIssuanceModule := do
  ModuleBase.validateOnlyManagerAndValidSet module.address msgSender world
  require (newFeeRecipient ≠ 0) "Fee Recipient must be non-zero address."
  require (newFeeRecipient ≠ module.feeRecipient) "Same fee recipient passed"
  pure { module with feeRecipient := newFeeRecipient }

def registerToIssuanceModule (module : DebtIssuanceModule) (msgSender : Address)
    (world : World) : Outcome DebtIssuanceModule := do
  ModuleBase.validateOnlyModule msgSender world
  ModuleBase.validateOnlyValidAndInitializedSet module.address world
  require (module.isModuleHook msgSender = false) "Module already registered."
  pure { module with
    moduleIssuanceHooks := module.moduleIssuanceHooks ++ [msgSender]
    isModuleHook := Function.update module.isModuleHook msgSender true }

def unregisterFromIssuanceModule (module : DebtIssuanceModule) (msgSender : Address)
    (world : World) : Outcome DebtIssuanceModule := do
  ModuleBase.validateOnlyModule msgSender world
  ModuleBase.validateOnlyValidAndInitializedSet module.address world
  require (module.isModuleHook msgSender = true) "Module not registered."
  let hooks ← AddressArrayUtils.removeStorage module.moduleIssuanceHooks msgSender
  pure { module with
    moduleIssuanceHooks := hooks
    isModuleHook := Function.update module.isModuleHook msgSender false }

def deployed (address : Address) : DebtIssuanceModule where
  address := address
  maxManagerFee := 0
  managerIssueFee := 0
  managerRedeemFee := 0
  feeRecipient := 0
  managerIssuanceHook := 0
  moduleIssuanceHooks := []
  isModuleHook := fun _ => false

/-- Deleting the settings leaves the flags of the hooks, which are a mapping. -/
def removeModule (module : DebtIssuanceModule) : Outcome DebtIssuanceModule := do
  require (module.moduleIssuanceHooks.length = 0) "Registered modules must be removed."
  pure { deployed module.address with isModuleHook := module.isModuleHook }

end DebtIssuanceModule

end IndexProtocol

/-
This file models the debt issuance module for positions whose replication
incurs slippage. The hooks before an order are told its quantity and may trade;
the order is then computed from the positions they leave, within limits the
caller gives. Off chain, the same order can be asked for without trading: each
registered module answers with adjustments of the units it would change, and the
quantities are computed from the adjusted units.
-/

import IndexProtocol.Modules.DebtIssuanceCalls

namespace IndexProtocol

open Revert PreciseUnitMath DebtIssuanceModule

/-! ### The contracts around the module -/

/-- A module that is registered for issuances. The hooks are called by the issuance module, which
they get as the sender. -/
structure IModuleIssuanceHookV2 (State : Type) where
  getIssuanceAdjustments : Nat → State → Outcome ((List Int × List Int) × State)
  getRedemptionAdjustments : Nat → State → Outcome ((List Int × List Int) × State)
  moduleIssueHook : Address → Nat → State → Outcome State
  moduleRedeemHook : Address → Nat → State → Outcome State
  /-- The sender, the quantity of Set tokens, the component and whether it is equity. -/
  componentIssueHook : Address → Nat → Address → Bool → State → Outcome State
  componentRedeemHook : Address → Nat → Address → Bool → State → Outcome State

/-- The contracts an order calls, and what it sees of their state. -/
structure IssuanceContracts (State : Type) where
  world : State → World
  onWorld : (World → Outcome World) → State → Outcome State
  hook : Address → IModuleIssuanceHookV2 State
  /-- The manager's hook, the quantity, the caller and the recipient. -/
  invokePreIssueHook : Address → Nat → Address → Address → State → Outcome State

namespace SlippageIssuanceModule

variable {State : Type} (contracts : IssuanceContracts State)

/-! ### Checks -/

def validateInputs (setQuantity : Nat) (components : List Address) (componentLimits : List Nat) :
    Outcome Unit := do
  require (0 < setQuantity) "SetToken quantity must be > 0"
  require (components.length = componentLimits.length) "Array length mismatch"
  if 0 < components.length then do
    let duplicate ← AddressArrayUtils.hasDuplicate components
    require (duplicate = false) "Cannot duplicate addresses"
  else pure ()

/-- The equity quantity of a checked component against its limit. -/
def validateTokenTransferLimit (required : ComponentValues) (isIssue : Bool)
    (checked : Address × Nat) : Outcome Unit :=
  match required.find? fun entry => entry.1 = checked.1 with
  | none => .error "Limit passed for invalid component"
  | some entry =>
    if isIssue then require (entry.2.1 ≤ checked.2) "Too many tokens required for issuance"
    else require (checked.2 ≤ entry.2.1) "Too few tokens returned for redemption"

def validateTokenTransferLimits (checkedComponents : List Address)
    (tokenTransferLimits : List Nat) (required : ComponentValues) (isIssue : Bool) :
    Outcome Unit :=
  (checkedComponents.zip tokenTransferLimits).forM (validateTokenTransferLimit required isIssue)

/-! ### Adjustments -/

/-- Reading past the end of an array reverts. -/
def addAdjustments : List Int → List Int → Outcome (List Int)
  | [], _ => pure []
  | _ :: _, [] => .error "invalid opcode"
  | cumulative :: rest, adjustment :: others => do
    let sum ← SignedSafeMath.add cumulative adjustment
    let sums ← addAdjustments rest others
    pure (sum :: sums)

/-- The adjustments of one registered module are added to those before it, array by array. -/
def cumulateAdjustments (quantity : Nat) (isIssue : Bool)
    (cumulative : (List Int × List Int) × State) (issuanceHook : Address) :
    Outcome ((List Int × List Int) × State) := do
  let (adjustments, state) ←
    (if isIssue then (contracts.hook issuanceHook).getIssuanceAdjustments quantity cumulative.2
    else (contracts.hook issuanceHook).getRedemptionAdjustments quantity cumulative.2)
  let equityAdjustments ← addAdjustments cumulative.1.1 adjustments.1
  let debtAdjustments ← addAdjustments cumulative.1.2 adjustments.2
  pure ((equityAdjustments, debtAdjustments), state)

def calculateAdjustments (quantity : Nat) (isIssue : Bool) (state : State)
    (module : DebtIssuanceModule) : Outcome ((List Int × List Int) × State) :=
  let unadjusted := (contracts.world state).setToken.components.map fun _ => (0 : Int)
  module.moduleIssuanceHooks.foldlM (cumulateAdjustments contracts quantity isIssue)
    ((unadjusted, unadjusted), state)

/-- The quantities of one component at its adjusted units. -/
def adjustedQuantities (quantity : Nat) (isIssue : Bool)
    (entry : (Address × Nat × Nat) × Int × Int) : Outcome (Address × Nat × Nat) := do
  let equityUnits ← SafeCast.toInt256 entry.1.2.1
  let adjustedEquity ← SignedSafeMath.add equityUnits entry.2.1
  let adjustedEquityUnits ← SafeCast.toUint256 adjustedEquity
  let totalEquityUnits ←
    (if isIssue then preciseMulCeil adjustedEquityUnits quantity
    else preciseMul adjustedEquityUnits quantity)
  let debtUnits ← SafeCast.toInt256 entry.1.2.2
  let adjustedDebt ← SignedSafeMath.sub debtUnits entry.2.2
  let adjustedDebtUnits ← SafeCast.toUint256 adjustedDebt
  let totalDebtUnits ←
    (if isIssue then preciseMul adjustedDebtUnits quantity
    else preciseMulCeil adjustedDebtUnits quantity)
  pure (entry.1.1, totalEquityUnits, totalDebtUnits)

def calculateAdjustedComponentIssuanceUnits (setToken : SetToken) (quantity : Nat)
    (isIssue : Bool) (equityAdjustments debtAdjustments : List Int) :
    Outcome ComponentValues := do
  let units ← getTotalIssuanceUnits setToken
  (units.zip (equityAdjustments.zip debtAdjustments)).mapM (adjustedQuantities quantity isIssue)

/-- What the two functions for off-chain callers share. -/
def getRequiredComponentUnitsOffChain (quantity : Nat) (isIssue : Bool) (state : State)
    (module : DebtIssuanceModule) : Outcome (ComponentValues × State) := do
  let fees ← module.calculateTotalFees quantity isIssue (contracts.world state)
  let ((equityAdjustments, debtAdjustments), adjusted) ←
    calculateAdjustments contracts fees.totalQuantity isIssue state module
  let required ← calculateAdjustedComponentIssuanceUnits (contracts.world adjusted).setToken
    fees.totalQuantity isIssue equityAdjustments debtAdjustments
  pure (required, adjusted)

def getRequiredComponentIssuanceUnitsOffChain (quantity : Nat) (state : State)
    (module : DebtIssuanceModule) : Outcome (ComponentValues × State) :=
  getRequiredComponentUnitsOffChain contracts quantity true state module

def getRequiredComponentRedemptionUnitsOffChain (quantity : Nat) (state : State)
    (module : DebtIssuanceModule) : Outcome (ComponentValues × State) :=
  getRequiredComponentUnitsOffChain contracts quantity false state module

/-! ### Hooks -/

def callManagerPreIssueHooks (quantity : Nat) (caller recipient : Address) (state : State)
    (module : DebtIssuanceModule) : Outcome State :=
  if module.managerIssuanceHook ≠ 0 then
    contracts.invokePreIssueHook module.managerIssuanceHook quantity caller recipient state
  else pure state

def callModulePreIssueHooks (quantity : Nat) (state : State) (module : DebtIssuanceModule) :
    Outcome State :=
  module.moduleIssuanceHooks.foldlM (fun state issuanceHook =>
    (contracts.hook issuanceHook).moduleIssueHook module.address quantity state) state

def callModulePreRedeemHooks (quantity : Nat) (state : State) (module : DebtIssuanceModule) :
    Outcome State :=
  module.moduleIssuanceHooks.foldlM (fun state issuanceHook =>
    (contracts.hook issuanceHook).moduleRedeemHook module.address quantity state) state

def executeExternalPositionHooks (setTokenQuantity : Nat) (component : Address)
    (isIssue isEquity : Bool) (state : State) (module : DebtIssuanceModule) : Outcome State :=
  ((contracts.world state).setToken.externalPositionModules component).foldlM
    (fun state positionModule =>
      if isIssue then (contracts.hook positionModule).componentIssueHook module.address
        setTokenQuantity component isEquity state
      else (contracts.hook positionModule).componentRedeemHook module.address setTokenQuantity
        component isEquity state) state

/-! ### Resolving positions -/

/-- Carry out a transfer from the caller into the Set and enter it in the list of those made. -/
def transferIn (msgSender : Address) (transfer : Transfer) (module : DebtIssuanceModule)
    (resolved : List Transfer × State) : Outcome (List Transfer × State) := do
  let collected ← contracts.onWorld (fun world => world.explicitTransferFrom module.address
    transfer.component msgSender world.setToken.address transfer.quantity) resolved.2
  pure (resolved.1 ++ [transfer], collected)

/-- Carry out a transfer out of the Set and enter it in the list of those made. -/
def transferOut (recipient : Address) (transfer : Transfer) (module : DebtIssuanceModule)
    (resolved : List Transfer × State) : Outcome (List Transfer × State) := do
  let sent ← contracts.onWorld (fun world => world.strictInvokeTransfer module.address
    transfer.component recipient transfer.quantity) resolved.2
  pure (resolved.1 ++ [transfer], sent)

/-- Resolve one component in one pass. Equity comes in on issuance and debt on redemption. -/
def resolvePosition (msgSender recipient : Address) (setTokenQuantity : Nat)
    (isIssue isEquity : Bool) (component : Address) (componentQuantity : Nat)
    (module : DebtIssuanceModule) (resolved : List Transfer × State) :
    Outcome (List Transfer × State) :=
  let transfer : Transfer := ⟨isIssue, isEquity, component, componentQuantity⟩
  if 0 < componentQuantity then
    if isIssue = isEquity then do
      let (transfers, collected) ← transferIn contracts msgSender transfer module resolved
      let hooked ← executeExternalPositionHooks contracts setTokenQuantity component isIssue
        isEquity collected module
      pure (transfers, hooked)
    else do
      let hooked ← executeExternalPositionHooks contracts setTokenQuantity component isIssue
        isEquity resolved.2 module
      transferOut contracts recipient transfer module (resolved.1, hooked)
  else pure resolved

def resolveEquityPositions (msgSender : Address) (quantity : Nat) (recipient : Address)
    (isIssue : Bool) (required : ComponentValues) (module : DebtIssuanceModule)
    (resolved : List Transfer × State) : Outcome (List Transfer × State) :=
  required.foldlM (fun resolved entry => resolvePosition contracts msgSender recipient quantity
    isIssue true entry.1 entry.2.1 module resolved) resolved

/-- The debt goes out to the caller. -/
def resolveDebtPositions (msgSender : Address) (quantity : Nat) (isIssue : Bool)
    (required : ComponentValues) (module : DebtIssuanceModule)
    (resolved : List Transfer × State) : Outcome (List Transfer × State) :=
  required.foldlM (fun resolved entry => resolvePosition contracts msgSender msgSender quantity
    isIssue false entry.1 entry.2.2 module resolved) resolved

def mint (recipient : Address) (quantity : Nat) (state : State) (module : DebtIssuanceModule) :
    Outcome State :=
  contracts.onWorld (fun world => world.callSetToken
    (SetToken.mint ⟨world.controller, module.address⟩ recipient quantity)) state

/-- The check of the protocol fee is inside the check of the manager fee. -/
def resolveFees (managerFee protocolFee : Nat) (state : State) (module : DebtIssuanceModule) :
    Outcome State :=
  if 0 < managerFee then do
    let minted ← mint contracts module.feeRecipient managerFee state module
    if 0 < protocolFee then
      mint contracts (contracts.world minted).controller.feeRecipient protocolFee minted module
    else pure minted
  else pure state

/-! ### Issue and redeem -/

/-- What follows the manager's hook. -/
def completeIssueWithSlippage (msgSender : Address) (setQuantity : Nat)
    (checkedComponents : List Address) (maxTokenAmountsIn : List Nat) (recipient : Address)
    (state : State) (module : DebtIssuanceModule) : Outcome (List Transfer × State) := do
  let fees ← module.calculateTotalFees setQuantity true (contracts.world state)
  let hooked ← callModulePreIssueHooks contracts fees.totalQuantity state module
  let required ← calculateRequiredComponentIssuanceUnits (contracts.world hooked).setToken
    fees.totalQuantity true
  validateTokenTransferLimits checkedComponents maxTokenAmountsIn required true
  let collected ← resolveEquityPositions contracts msgSender fees.totalQuantity recipient true
    required module ([], hooked)
  let paid ← resolveDebtPositions contracts msgSender fees.totalQuantity true required module
    collected
  let resolved ← resolveFees contracts fees.managerFee fees.protocolFee paid.2 module
  let minted ← mint contracts recipient setQuantity resolved module
  pure (paid.1, minted)

/-- Returns the transfers that are made. -/
def issueWithSlippage (msgSender : Address) (setQuantity : Nat)
    (checkedComponents : List Address) (maxTokenAmountsIn : List Nat) (recipient : Address)
    (state : State) (module : DebtIssuanceModule) : Outcome (List Transfer × State) := do
  ModuleBase.validateOnlyValidAndInitializedSet module.address (contracts.world state)
  validateInputs setQuantity checkedComponents maxTokenAmountsIn
  let hooked ← callManagerPreIssueHooks contracts setQuantity msgSender recipient state module
  completeIssueWithSlippage contracts msgSender setQuantity checkedComponents maxTokenAmountsIn
    recipient hooked module

/-- The quantity is burned after the hooks, as they account with the supply. Returns the transfers
that are made. -/
def redeemWithSlippage (msgSender : Address) (setQuantity : Nat)
    (checkedComponents : List Address) (minTokenAmountsOut : List Nat) (recipient : Address)
    (state : State) (module : DebtIssuanceModule) : Outcome (List Transfer × State) := do
  ModuleBase.validateOnlyValidAndInitializedSet module.address (contracts.world state)
  validateInputs setQuantity checkedComponents minTokenAmountsOut
  let fees ← module.calculateTotalFees setQuantity false (contracts.world state)
  let hooked ← callModulePreRedeemHooks contracts fees.totalQuantity state module
  let burned ← contracts.onWorld (fun world => world.callSetToken
    (SetToken.burn ⟨world.controller, module.address⟩ msgSender setQuantity)) hooked
  let required ← calculateRequiredComponentIssuanceUnits (contracts.world burned).setToken
    fees.totalQuantity false
  validateTokenTransferLimits checkedComponents minTokenAmountsOut required false
  let collected ← resolveDebtPositions contracts msgSender fees.totalQuantity false required module
    ([], burned)
  let returned ← resolveEquityPositions contracts msgSender fees.totalQuantity recipient false
    required module collected
  let resolved ← resolveFees contracts fees.managerFee fees.protocolFee returned.2 module
  pure (returned.1, resolved)

end SlippageIssuanceModule

end IndexProtocol

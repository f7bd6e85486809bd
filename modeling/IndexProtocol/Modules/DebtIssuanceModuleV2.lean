/-
This file models the version of the debt issuance module for tokens that do not
move exactly the quantity they are asked to. It moves a component without the
checks of the exact amount, and instead checks after every transfer that the Set
still holds what its supply requires: before the hooks of a transfer in, the
supply before the order and the quantity; after a transfer out, the supply after
the order. It also previews an issuance from the balances of the Set.
-/

import IndexProtocol.Modules.DebtIssuanceCalls

namespace IndexProtocol

open Revert PreciseUnitMath

/-! ### Tokens that move any amount -/

/-- A change of the balances of one token: the others keep theirs. -/
structure World.OnlyToken (token : Address) (world next : World) : Prop where
  onlyBalances : World.OnlyBalances world next
  others : ∀ other, other ≠ token →
    ∀ account, next.balanceOf other account = world.balanceOf other account

/-- Token contracts whose transfers may move any amount. -/
structure TokenContracts (Ledger : Type) where
  transfer : Address → Address → Address → Nat → World → Ledger → Outcome (World × Ledger)
  transferFrom : Address → Address → Address → Address → Nat → World → Ledger →
    Outcome (World × Ledger)
  transfer_onlyToken : ∀ token sender recipient quantity world ledger next nextLedger,
    transfer token sender recipient quantity world ledger = .ok (next, nextLedger) →
      World.OnlyToken token world next
  transferFrom_onlyToken : ∀ token spender sender recipient quantity world ledger next nextLedger,
    transferFrom token spender sender recipient quantity world ledger = .ok (next, nextLedger) →
      World.OnlyToken token world next

namespace Execution

variable {Ledger : Type}

def safeTransferFrom (tokens : TokenContracts Ledger)
    (token spender sender recipient : Address) (quantity : Nat) (execution : Execution Ledger) :
    Outcome (Execution Ledger) := do
  let (world, ledger) ← tokens.transferFrom token spender sender recipient quantity
    execution.world execution.ledger
  pure { execution with world := world, ledger := ledger }

/-- `Invoke.invokeTransfer`, by a module. -/
def invokeTransfer (tokens : TokenContracts Ledger) (module token recipient : Address)
    (quantity : Nat) (execution : Execution Ledger) : Outcome (Execution Ledger) :=
  if 0 < quantity then do
    execution.world.setToken.validatePrivileged ⟨execution.world.controller, module⟩
    let (world, ledger) ← tokens.transfer token execution.world.setToken.address recipient
      quantity execution.world execution.ledger
    pure { execution with world := world, ledger := ledger }
  else pure execution

end Execution

/-! ### Checks of the collateral -/

namespace IssuanceValidationUtils

def validateCollateralizationPostTransferInPreHook (component : Address)
    (initialSetSupply componentQuantity : Nat) (world : World) : Outcome Unit := do
  let newComponentBalance := world.held component
  let realUnit ← world.setToken.getDefaultPositionRealUnit component
  let defaultPositionUnit ← SafeCast.toUint256 realUnit
  let collateral ← preciseMulCeil initialSetSupply defaultPositionUnit
  let required ← SafeMath.add collateral componentQuantity
  require (required ≤ newComponentBalance)
    "Invalid transfer in. Results in undercollateralization"

def validateCollateralizationPostTransferOut (component : Address) (finalSetSupply : Nat)
    (world : World) : Outcome Unit := do
  let newComponentBalance := world.held component
  let realUnit ← world.setToken.getDefaultPositionRealUnit component
  let defaultPositionUnit ← SafeCast.toUint256 realUnit
  let required ← preciseMulCeil finalSetSupply defaultPositionUnit
  require (required ≤ newComponentBalance)
    "Invalid transfer out. Results in undercollateralization"

variable {component : Address} {supply quantity : Nat} {world : World} {done : Unit}

theorem validateCollateralizationPostTransferInPreHook_eq_ok
    (returned : validateCollateralizationPostTransferInPreHook component supply quantity world =
      .ok done) :
    ∃ unit : Nat, world.setToken.defaultRealUnit component = unit ∧
      Rounding.mulCeil preciseUnit supply unit + quantity ≤ world.held component := by
  simp only [validateCollateralizationPostTransferInPreHook, bind_eq_ok,
    SetToken.getDefaultPositionRealUnit_eq_ok, SafeCast.toUint256_eq_ok, preciseMulCeil_eq_ok,
    SafeMath.add_eq_ok, require_eq_ok] at returned
  obtain ⟨_, ⟨_, rfl⟩, unit, read, _, ⟨_, rfl⟩, _, ⟨_, rfl⟩, covered⟩ := returned
  exact ⟨unit, read, covered⟩

theorem validateCollateralizationPostTransferOut_eq_ok
    (returned : validateCollateralizationPostTransferOut component supply world = .ok done) :
    ∃ unit : Nat, world.setToken.defaultRealUnit component = unit ∧
      Rounding.mulCeil preciseUnit supply unit ≤ world.held component := by
  simp only [validateCollateralizationPostTransferOut, bind_eq_ok,
    SetToken.getDefaultPositionRealUnit_eq_ok, SafeCast.toUint256_eq_ok, preciseMulCeil_eq_ok,
    require_eq_ok] at returned
  obtain ⟨_, ⟨_, rfl⟩, unit, read, _, ⟨_, rfl⟩, covered⟩ := returned
  exact ⟨unit, read, covered⟩

end IssuanceValidationUtils

/-! ### Issue and redeem -/

namespace DebtIssuanceModuleV2

open IssuanceValidationUtils

variable {Ledger : Type}

/-- Transfers in from the caller, out to an account, of any amount that leaves the Set with
enough collateral. -/
def looseMovement (module : DebtIssuanceModule) (tokens : TokenContracts Ledger)
    (msgSender recipient : Address) (initialSetSupply finalSetSupply : Nat) :
    DebtIssuanceModule.Movement Ledger where
  transferIn transfer execution := do
    let collected ← execution.carryOut (.transferred transfer)
      (Execution.safeTransferFrom tokens transfer.component module.address msgSender
        execution.world.setToken.address transfer.quantity)
    validateCollateralizationPostTransferInPreHook transfer.component initialSetSupply
      transfer.quantity collected.world
    pure collected
  transferOut transfer execution := do
    let sent ← execution.carryOut (.transferred transfer)
      (Execution.invokeTransfer tokens module.address transfer.component recipient
        transfer.quantity)
    validateCollateralizationPostTransferOut transfer.component finalSetSupply sent.world
    pure sent

def resolveEquityPositions (module : DebtIssuanceModule) (deployment : Deployment Ledger)
    (tokens : TokenContracts Ledger) (msgSender : Address) (quantity : Nat)
    (recipient : Address) (isIssue : Bool) (required : ComponentValues)
    (initialSetSupply finalSetSupply : Nat) :
    Execution Ledger → Outcome (Execution Ledger) :=
  module.resolvePass deployment
    (looseMovement module tokens msgSender recipient initialSetSupply finalSetSupply) quantity
    isIssue true required

/-- The debt goes out to the caller. -/
def resolveDebtPositions (module : DebtIssuanceModule) (deployment : Deployment Ledger)
    (tokens : TokenContracts Ledger) (msgSender : Address) (quantity : Nat) (isIssue : Bool)
    (required : ComponentValues) (initialSetSupply finalSetSupply : Nat) :
    Execution Ledger → Outcome (Execution Ledger) :=
  module.resolvePass deployment
    (looseMovement module tokens msgSender msgSender initialSetSupply finalSetSupply) quantity
    isIssue false required

def completeIssue (module : DebtIssuanceModule) (deployment : Deployment Ledger)
    (tokens : TokenContracts Ledger) (msgSender : Address) (quantity : Nat)
    (recipient : Address) (execution : Execution Ledger) : Outcome (Execution Ledger) := do
  let initialSetSupply := execution.world.setToken.totalSupply
  let fees ← module.calculateTotalFees quantity true execution.world
  let required ← DebtIssuanceModule.calculateRequiredComponentIssuanceUnits
    execution.world.setToken fees.totalQuantity true
  let finalSetSupply ← SafeMath.add initialSetSupply fees.totalQuantity
  let ordered := execution.record
    (.ordered ⟨true, quantity, DebtIssuanceModule.orderUnits execution.world.setToken⟩)
  let collected ← resolveEquityPositions module deployment tokens msgSender fees.totalQuantity
    recipient true required initialSetSupply finalSetSupply ordered
  let paid ← resolveDebtPositions module deployment tokens msgSender fees.totalQuantity true
    required initialSetSupply finalSetSupply collected
  let resolved ← module.resolveFees fees.managerFee fees.protocolFee paid
  module.mint recipient quantity resolved

/-- The checks and hooks before an issuance are those of the first version. -/
def issue (module : DebtIssuanceModule) (deployment : Deployment Ledger)
    (tokens : TokenContracts Ledger) (msgSender : Address) (quantity : Nat)
    (recipient : Address) (execution : Execution Ledger) : Outcome (Execution Ledger) := do
  let prepared ← module.prepareIssue deployment msgSender quantity recipient execution
  completeIssue module deployment tokens msgSender quantity recipient prepared

def completeRedeem (module : DebtIssuanceModule) (deployment : Deployment Ledger)
    (tokens : TokenContracts Ledger) (msgSender : Address) (quantity : Nat)
    (recipient : Address) (execution : Execution Ledger) : Outcome (Execution Ledger) := do
  let initialSetSupply := execution.world.setToken.totalSupply
  let burned ← execution.onWorld fun world =>
    world.callSetToken (SetToken.burn ⟨world.controller, module.address⟩ msgSender quantity)
  let fees ← module.calculateTotalFees quantity false burned.world
  let required ← DebtIssuanceModule.calculateRequiredComponentIssuanceUnits
    burned.world.setToken fees.totalQuantity false
  let finalSetSupply ← SafeMath.sub initialSetSupply fees.totalQuantity
  let ordered := burned.record
    (.ordered ⟨false, quantity, DebtIssuanceModule.orderUnits burned.world.setToken⟩)
  let collected ← resolveDebtPositions module deployment tokens msgSender fees.totalQuantity
    false required initialSetSupply finalSetSupply ordered
  let returned ← resolveEquityPositions module deployment tokens msgSender fees.totalQuantity
    recipient false required initialSetSupply finalSetSupply collected
  module.resolveFees fees.managerFee fees.protocolFee returned

def redeem (module : DebtIssuanceModule) (deployment : Deployment Ledger)
    (tokens : TokenContracts Ledger) (msgSender : Address) (quantity : Nat)
    (recipient : Address) (execution : Execution Ledger) : Outcome (Execution Ledger) := do
  let prepared ← module.prepareRedeem deployment quantity execution
  completeRedeem module deployment tokens msgSender quantity recipient prepared

/-! ### The preview of an issuance -/

/-- The default unit is read from the balance of the Set instead of its position. -/
def totalIssuanceUnitsFromBalances (world : World) (component : Address) :
    Outcome (Address × Nat × Nat) := do
  let balanceUnit ← Position.getDefaultPositionUnit world.setToken.totalSupply
    (world.held component)
  let defaultUnit ← SafeCast.toInt256 balanceUnit
  let (equityUnit, debtUnit) ←
    DebtIssuanceModule.cumulativeUnits world.setToken component defaultUnit
  pure (component, equityUnit, debtUnit)

def getTotalIssuanceUnitsFromBalances (world : World) :
    Outcome ComponentValues :=
  world.setToken.components.mapM (totalIssuanceUnitsFromBalances world)

def getRequiredComponentIssuanceUnits (module : DebtIssuanceModule) (quantity : Nat)
    (world : World) : Outcome ComponentValues := do
  let fees ← module.calculateTotalFees quantity true world
  if world.setToken.totalSupply = 0 then
    DebtIssuanceModule.calculateRequiredComponentIssuanceUnits world.setToken fees.totalQuantity
      true
  else do
    let units ← getTotalIssuanceUnitsFromBalances world
    units.mapM (DebtIssuanceModule.requiredQuantities fees.totalQuantity true)

end DebtIssuanceModuleV2

end IndexProtocol

/-
This file models the functions of the Compound leverage module that change which
assets of a Set are enabled, as collateral and to borrow, and the governance
calls that map underlying assets to their cTokens. Enabling an asset looks its
cToken up in that mapping and enters the market; disabling it looks the cToken
up again, after the positions are synced.
-/

import IndexProtocol.Lib.AddressArrayUtils
import IndexProtocol.Lib.Ownable
import IndexProtocol.Modules.CompoundLeverageModule

namespace IndexProtocol

open Revert

/-- The module's storage for one Set, with what all Sets share. -/
structure CompoundLeverageStorage extends CompoundLeverageModule, Ownable where
  comptroller : Address
  collateralCTokenEnabled : Address → Bool
  borrowCTokenEnabled : Address → Bool
  allowedSetToken : Bool
  anySetAllowed : Bool

/-- What the module calls: the lending protocol, the integration registry, and the modules of
the Set, which may know it or not. -/
structure CompoundLeverageSystem (Ledger : Type) where
  protocols : Protocols Ledger
  registry : IntegrationRegistry
  registerToIssuanceModule : Execution Ledger → Address → Outcome (Execution Ledger)
  unregisterFromIssuanceModule : Execution Ledger → Address → Outcome (Execution Ledger)

namespace CompoundLeverageStorage

variable {Ledger : Type}

/-- The constructor, with the markets of the comptroller as cTokens and their underlying
tokens; the deployer owns the module. -/
def construct (address owner comptroller cEther weth : Address)
    (markets : List (Address × Address)) : CompoundLeverageStorage where
  address := address
  cEther := cEther
  weth := weth
  underlyingToCToken := markets.foldl (fun underlyingToCToken market =>
    Function.update underlyingToCToken (if market.1 = cEther then weth else market.2) market.1)
    fun _ => 0
  collateralCTokens := []
  borrowCTokens := []
  borrowAssets := []
  owner := owner
  comptroller := comptroller
  collateralCTokenEnabled := fun _ => false
  borrowCTokenEnabled := fun _ => false
  allowedSetToken := false
  anySetAllowed := false

/-! ### Markets -/

/-- The market is entered only if the cToken is not enabled the other way already. -/
def enterUnless (enabled : Bool) (storage : CompoundLeverageStorage)
    (system : CompoundLeverageSystem Ledger) (cToken : Address) (execution : Execution Ledger) :
    Outcome (Execution Ledger) :=
  if enabled = false then
    execution.invokeEnterMarkets system.protocols storage.address cToken storage.comptroller
  else pure execution

def exitUnless (enabled : Bool) (storage : CompoundLeverageStorage)
    (system : CompoundLeverageSystem Ledger) (cToken : Address) (execution : Execution Ledger) :
    Outcome (Execution Ledger) :=
  if enabled = false then
    execution.invokeExitMarket system.protocols storage.address cToken storage.comptroller
  else pure execution

/-! ### Enabling and disabling one asset -/

def addCollateralAsset (system : CompoundLeverageSystem Ledger)
    (state : CompoundLeverageStorage × Execution Ledger) (newCollateralAsset : Address) :
    Outcome (CompoundLeverageStorage × Execution Ledger) := do
  let (storage, execution) := state
  let cToken := storage.underlyingToCToken newCollateralAsset
  require (cToken ≠ 0) "cToken must exist"
  require (storage.collateralCTokenEnabled cToken = false) "Collateral enabled"
  let entered ←
    enterUnless (storage.borrowCTokenEnabled cToken) storage system cToken execution
  pure ({ storage with
    collateralCTokenEnabled := Function.update storage.collateralCTokenEnabled cToken true
    collateralCTokens := storage.collateralCTokens ++ [cToken] }, entered)

def removeCollateralAsset (system : CompoundLeverageSystem Ledger)
    (state : CompoundLeverageStorage × Execution Ledger) (collateralAsset : Address) :
    Outcome (CompoundLeverageStorage × Execution Ledger) := do
  let (storage, execution) := state
  let cToken := storage.underlyingToCToken collateralAsset
  require (storage.collateralCTokenEnabled cToken = true) "Collateral not enabled"
  let exited ← exitUnless (storage.borrowCTokenEnabled cToken) storage system cToken execution
  let collateralCTokens ← AddressArrayUtils.removeStorage storage.collateralCTokens cToken
  pure ({ storage with
    collateralCTokenEnabled := Function.update storage.collateralCTokenEnabled cToken false
    collateralCTokens := collateralCTokens }, exited)

def addBorrowAsset (system : CompoundLeverageSystem Ledger)
    (state : CompoundLeverageStorage × Execution Ledger) (newBorrowAsset : Address) :
    Outcome (CompoundLeverageStorage × Execution Ledger) := do
  let (storage, execution) := state
  let cToken := storage.underlyingToCToken newBorrowAsset
  require (cToken ≠ 0) "cToken must exist"
  require (storage.borrowCTokenEnabled cToken = false) "Borrow enabled"
  let entered ←
    enterUnless (storage.collateralCTokenEnabled cToken) storage system cToken execution
  pure ({ storage with
    borrowCTokenEnabled := Function.update storage.borrowCTokenEnabled cToken true
    borrowCTokens := storage.borrowCTokens ++ [cToken]
    borrowAssets := storage.borrowAssets ++ [newBorrowAsset] }, entered)

/-- The cToken and the asset are searched for in their own arrays. -/
def removeBorrowAsset (system : CompoundLeverageSystem Ledger)
    (state : CompoundLeverageStorage × Execution Ledger) (borrowAsset : Address) :
    Outcome (CompoundLeverageStorage × Execution Ledger) := do
  let (storage, execution) := state
  let cToken := storage.underlyingToCToken borrowAsset
  require (storage.borrowCTokenEnabled cToken = true) "Borrow not enabled"
  let exited ←
    exitUnless (storage.collateralCTokenEnabled cToken) storage system cToken execution
  let borrowCTokens ← AddressArrayUtils.removeStorage storage.borrowCTokens cToken
  let borrowAssets ← AddressArrayUtils.removeStorage storage.borrowAssets borrowAsset
  pure ({ storage with
    borrowCTokenEnabled := Function.update storage.borrowCTokenEnabled cToken false
    borrowCTokens := borrowCTokens
    borrowAssets := borrowAssets }, exited)

/-! ### The manager's calls -/

section Manager

variable (storage : CompoundLeverageStorage) (msgSender : Address)
  (system : CompoundLeverageSystem Ledger)

def addCollateralAssets (newCollateralAssets : List Address) (execution : Execution Ledger) :
    Outcome (CompoundLeverageStorage × Execution Ledger) := do
  ModuleBase.validateOnlyManagerAndValidSet storage.address msgSender execution.world
  newCollateralAssets.foldlM (addCollateralAsset system) (storage, execution)

def removeCollateralAssets (collateralAssets : List Address) (execution : Execution Ledger) :
    Outcome (CompoundLeverageStorage × Execution Ledger) := do
  ModuleBase.validateOnlyManagerAndValidSet storage.address msgSender execution.world
  let synced ← storage.sync system.protocols true execution
  collateralAssets.foldlM (removeCollateralAsset system) (storage, synced)

def addBorrowAssets (newBorrowAssets : List Address) (execution : Execution Ledger) :
    Outcome (CompoundLeverageStorage × Execution Ledger) := do
  ModuleBase.validateOnlyManagerAndValidSet storage.address msgSender execution.world
  newBorrowAssets.foldlM (addBorrowAsset system) (storage, execution)

def removeBorrowAssets (borrowAssets : List Address) (execution : Execution Ledger) :
    Outcome (CompoundLeverageStorage × Execution Ledger) := do
  ModuleBase.validateOnlyManagerAndValidSet storage.address msgSender execution.world
  let synced ← storage.sync system.protocols true execution
  borrowAssets.foldlM (removeBorrowAsset system) (storage, synced)

/-- The module's `initialize`. A module of the Set that cannot register it is passed over. -/
def initializeSet (collateralAssets borrowAssets : List Address)
    (execution : Execution Ledger) : Outcome (CompoundLeverageStorage × Execution Ledger) := do
  ModuleBase.validateOnlySetManager msgSender execution.world
  ModuleBase.validateOnlyValidAndPendingSet storage.address execution.world
  require (storage.anySetAllowed = true ∨ storage.allowedSetToken = true)
    "Not allowed SetToken"
  let initialized ← execution.onWorld fun world =>
    world.callSetToken (SetToken.initializeModule ⟨world.controller, storage.address⟩)
  let issuance ←
    ModuleBase.getAndValidateAdapter storage.address system.registry "DefaultIssuanceModule"
  require (initialized.world.setToken.moduleStates issuance = .initialized)
    "Issuance not initialized"
  let registered := run system.registerToIssuanceModule initialized
    initialized.world.setToken.modules
  let (enabled, entered) ←
    storage.addCollateralAssets msgSender system collateralAssets registered
  enabled.addBorrowAssets msgSender system borrowAssets entered

end Manager

/-! ### Removing the module -/

/-- The loop over the cTokens enabled to borrow. -/
def disableBorrow (system : CompoundLeverageSystem Ledger)
    (state : CompoundLeverageStorage × Execution Ledger) (cToken : Address) :
    Outcome (CompoundLeverageStorage × Execution Ledger) := do
  let (storage, execution) := state
  let exited ←
    exitUnless (storage.collateralCTokenEnabled cToken) storage system cToken execution
  pure ({ storage with
    borrowCTokenEnabled := Function.update storage.borrowCTokenEnabled cToken false }, exited)

/-- The loop over the cTokens enabled as collateral. -/
def disableCollateral (system : CompoundLeverageSystem Ledger)
    (state : CompoundLeverageStorage × Execution Ledger) (cToken : Address) :
    Outcome (CompoundLeverageStorage × Execution Ledger) := do
  let (storage, execution) := state
  let exited ←
    execution.invokeExitMarket system.protocols storage.address cToken storage.comptroller
  pure ({ storage with
    collateralCTokenEnabled := Function.update storage.collateralCTokenEnabled cToken false },
    exited)

/-- Called by the Set as it removes the module. -/
def removeModule (storage : CompoundLeverageStorage) (system : CompoundLeverageSystem Ledger)
    (execution : Execution Ledger) : Outcome (CompoundLeverageStorage × Execution Ledger) := do
  ModuleBase.validateOnlyValidAndInitializedSet storage.address execution.world
  let synced ← storage.sync system.protocols true execution
  let borrowsDisabled ← storage.borrowCTokens.foldlM (disableBorrow system) (storage, synced)
  let (disabled, exited) ←
    storage.collateralCTokens.foldlM (disableCollateral system) borrowsDisabled
  pure ({ disabled with collateralCTokens := [], borrowCTokens := [], borrowAssets := [] },
    run system.unregisterFromIssuanceModule exited exited.world.setToken.modules)

/-! ### The governance calls -/

section Governance

variable (storage : CompoundLeverageStorage) (msgSender : Address)

def updateAllowedSetToken (status : Bool) : Outcome CompoundLeverageStorage := do
  storage.onlyOwner msgSender
  pure { storage with allowedSetToken := status }

def updateAnySetAllowed (anySetAllowed : Bool) : Outcome CompoundLeverageStorage := do
  storage.onlyOwner msgSender
  pure { storage with anySetAllowed := anySetAllowed }

def addCompoundMarket (cToken underlying : Address) : Outcome CompoundLeverageStorage := do
  storage.onlyOwner msgSender
  require (storage.underlyingToCToken underlying = 0) "Already added"
  pure { storage with
    underlyingToCToken := Function.update storage.underlyingToCToken underlying cToken }

def removeCompoundMarket (underlying : Address) : Outcome CompoundLeverageStorage := do
  storage.onlyOwner msgSender
  require (storage.underlyingToCToken underlying ≠ 0) "Not added"
  pure { storage with
    underlyingToCToken := Function.update storage.underlyingToCToken underlying 0 }

end Governance

end CompoundLeverageStorage

end IndexProtocol

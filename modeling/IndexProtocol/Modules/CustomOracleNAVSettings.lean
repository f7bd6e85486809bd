/-
This file models what the manager settles about issuing and redeeming at net
asset value: the initialization, which fixes the hooks, the valuer, the minimum
supply and the ceilings of fees and premium, the reserve assets, the fees, the
premium and the fee recipient that may be changed afterwards, and the removal of
the module. It also has the getters that announce what a call would give.
-/

import IndexProtocol.Modules.CustomOracleNAVIssuanceModule

namespace IndexProtocol

open Revert PreciseUnitMath

/-- Settings that were deleted or never written. -/
def NAVIssuanceSettings.deleted : NAVIssuanceSettings where
  managerIssuanceHook := 0
  managerRedemptionHook := 0
  setValuer := 0
  reserveAssets := []
  feeRecipient := 0
  managerFees := fun _ => 0
  maxManagerFee := 0
  premiumPercentage := 0
  maxPremiumPercentage := 0
  minSetTokenSupply := 0

namespace CustomOracleNAVIssuanceModule

def deployed (address weth : Address) : CustomOracleNAVIssuanceModule where
  address := address
  weth := weth
  navIssuanceSettings := .deleted
  isReserveAsset := fun _ => false

/-! ### The manager's settings -/

def addReserveAsset (module : CustomOracleNAVIssuanceModule) (msgSender reserveAsset : Address)
    (world : World) : Outcome CustomOracleNAVIssuanceModule := do
  ModuleBase.validateOnlyManagerAndValidSet module.address msgSender world
  require (module.isReserveAsset reserveAsset = false) "Reserve asset already exists"
  pure { module with
    navIssuanceSettings := { module.navIssuanceSettings with
      reserveAssets := module.navIssuanceSettings.reserveAssets ++ [reserveAsset] }
    isReserveAsset := Function.update module.isReserveAsset reserveAsset true }

def removeReserveAsset (module : CustomOracleNAVIssuanceModule)
    (msgSender reserveAsset : Address) (world : World) :
    Outcome CustomOracleNAVIssuanceModule := do
  ModuleBase.validateOnlyManagerAndValidSet module.address msgSender world
  require (module.isReserveAsset reserveAsset = true) "Reserve asset does not exist"
  let reserveAssets ←
    AddressArrayUtils.remove module.navIssuanceSettings.reserveAssets reserveAsset
  pure { module with
    navIssuanceSettings := { module.navIssuanceSettings with reserveAssets := reserveAssets }
    isReserveAsset := Function.update module.isReserveAsset reserveAsset false }

def editPremium (module : CustomOracleNAVIssuanceModule) (msgSender : Address)
    (premiumPercentage : Nat) (world : World) : Outcome CustomOracleNAVIssuanceModule := do
  ModuleBase.validateOnlyManagerAndValidSet module.address msgSender world
  require (premiumPercentage ≤ module.navIssuanceSettings.maxPremiumPercentage)
    "Premium must be less than maximum allowed"
  pure { module with
    navIssuanceSettings := { module.navIssuanceSettings with
      premiumPercentage := premiumPercentage } }

/-- An index that the array does not have reverts without a message. -/
def editManagerFee (module : CustomOracleNAVIssuanceModule) (msgSender : Address)
    (managerFeePercentage managerFeeIndex : Nat) (world : World) :
    Outcome CustomOracleNAVIssuanceModule := do
  ModuleBase.validateOnlyManagerAndValidSet module.address msgSender world
  require (managerFeePercentage ≤ module.navIssuanceSettings.maxManagerFee)
    "Manager fee must be less than maximum allowed"
  if bound : managerFeeIndex < 2 then
    pure { module with
      navIssuanceSettings := { module.navIssuanceSettings with
        managerFees := Function.update module.navIssuanceSettings.managerFees
          ⟨managerFeeIndex, bound⟩ managerFeePercentage } }
  else .error ""

def editFeeRecipient (module : CustomOracleNAVIssuanceModule)
    (msgSender managerFeeRecipient : Address) (world : World) :
    Outcome CustomOracleNAVIssuanceModule := do
  ModuleBase.validateOnlyManagerAndValidSet module.address msgSender world
  require (managerFeeRecipient ≠ 0) "Fee recipient must not be 0 address"
  pure { module with
    navIssuanceSettings := { module.navIssuanceSettings with
      feeRecipient := managerFeeRecipient } }

/-! ### Initialization and removal -/

def validateSettings (settings : NAVIssuanceSettings) : Outcome Unit := do
  require (0 < settings.reserveAssets.length) "Reserve assets must be greater than 0"
  require (settings.maxManagerFee < preciseUnit) "Max manager fee must be less than 100%"
  require (settings.maxPremiumPercentage < preciseUnit)
    "Max premium percentage must be less than 100%"
  require (settings.managerFees managerIssueFeeIndex ≤ settings.maxManagerFee)
    "Manager issue fee must be less than max"
  require (settings.managerFees managerRedeemFeeIndex ≤ settings.maxManagerFee)
    "Manager redeem fee must be less than max"
  require (settings.premiumPercentage ≤ settings.maxPremiumPercentage)
    "Premium must be less than max"
  require (settings.feeRecipient ≠ 0) "Fee Recipient must be non-zero address."
  require (0 < settings.minSetTokenSupply) "Min SetToken supply must be greater than 0"

/-- Flag one reserve asset of the initialization. -/
def flagReserveAsset (isReserveAsset : Address → Bool) (reserveAsset : Address) :
    Outcome (Address → Bool) := do
  require (isReserveAsset reserveAsset = false) "Reserve assets must be unique"
  pure (Function.update isReserveAsset reserveAsset true)

/-- The module's `initialize`, called by the manager. -/
def initializeSet (module : CustomOracleNAVIssuanceModule) (msgSender : Address)
    (settings : NAVIssuanceSettings) (world : World) :
    Outcome (CustomOracleNAVIssuanceModule × World) := do
  ModuleBase.validateOnlySetManager msgSender world
  ModuleBase.validateOnlyValidAndPendingSet module.address world
  validateSettings settings
  let isReserveAsset ← settings.reserveAssets.foldlM flagReserveAsset module.isReserveAsset
  let initialized ← world.callSetToken
    (SetToken.initializeModule ⟨world.controller, module.address⟩)
  pure ({ module with navIssuanceSettings := settings, isReserveAsset := isReserveAsset },
    initialized)

def removeModule (module : CustomOracleNAVIssuanceModule) : CustomOracleNAVIssuanceModule :=
  { module with
    navIssuanceSettings := .deleted
    isReserveAsset := module.navIssuanceSettings.reserveAssets.foldl
      (fun isReserveAsset reserveAsset => Function.update isReserveAsset reserveAsset false)
      module.isReserveAsset }

/-! ### Announcements -/

def getExpectedSetTokenIssueQuantity (module : CustomOracleNAVIssuanceModule)
    (contracts : NAVContracts) (reserveAsset : Address) (reserveAssetQuantity : Nat)
    (world : World) : Outcome Nat := do
  let (_, _, netReserveFlow) ← module.getFees reserveAssetQuantity
    protocolIssueManagerRevenueShareFeeIndex protocolIssueDirectFeeIndex managerIssueFeeIndex
    world
  let setTotalSupply := world.setToken.totalSupply
  module.getSetTokenMintQuantity contracts reserveAsset netReserveFlow setTotalSupply world

def getExpectedReserveRedeemQuantity (module : CustomOracleNAVIssuanceModule)
    (contracts : NAVContracts) (reserveAsset : Address) (setTokenQuantity : Nat)
    (world : World) : Outcome Nat := do
  let preFeeReserveQuantity ←
    module.getRedeemReserveQuantity contracts reserveAsset setTokenQuantity world
  let (_, _, netReserveFlows) ← module.getFees preFeeReserveQuantity
    protocolRedeemManagerRevenueShareFeeIndex protocolRedeemDirectFeeIndex managerRedeemFeeIndex
    world
  pure netReserveFlows

def isIssueValid (module : CustomOracleNAVIssuanceModule) (reserveAsset : Address)
    (reserveAssetQuantity : Nat) (world : World) : Bool :=
  let setTotalSupply := world.setToken.totalSupply
  decide (reserveAssetQuantity ≠ 0) && module.isReserveAsset reserveAsset &&
    decide (module.navIssuanceSettings.minSetTokenSupply ≤ setTotalSupply)

end CustomOracleNAVIssuanceModule

end IndexProtocol

/-
This file models the module that issues and redeems a Set against one reserve
asset at its net asset value. The value is what a valuer contract reports. An
issuer pays fees and a premium and is minted Set tokens for the rest; a redeemer
burns Set tokens and is paid the reserve less fees and premium. The position
multiplier is scaled with the supply, so that every other position is shared by
the new supply, and the reserve position is written anew.
-/

import IndexProtocol.Lib.WETH9
import IndexProtocol.Protocol.ModuleBase

namespace IndexProtocol

open Revert PreciseUnitMath

/-! ### Storage -/

structure NAVIssuanceSettings where
  managerIssuanceHook : Address
  managerRedemptionHook : Address
  setValuer : Address
  reserveAssets : List Address
  feeRecipient : Address
  /-- The fee on issuance, then the fee on redemption. -/
  managerFees : Fin 2 → Nat
  maxManagerFee : Nat
  premiumPercentage : Nat
  maxPremiumPercentage : Nat
  minSetTokenSupply : Nat

structure ActionInfo where
  preFeeReserveQuantity : Nat
  protocolFees : Nat
  managerFee : Nat
  netFlowQuantity : Nat
  setTokenQuantity : Nat
  previousSetTokenSupply : Nat
  newSetTokenSupply : Nat
  newPositionMultiplier : Int
  newReservePositionUnit : Nat

/-- The module's storage for one Set. -/
structure CustomOracleNAVIssuanceModule where
  address : Address
  weth : Address
  navIssuanceSettings : NAVIssuanceSettings
  isReserveAsset : Address → Bool

/-- The contracts around the module as one call finds them: the valuer the controller registers,
the valuations by valuer and quote asset, the decimals of the tokens, and the hooks. -/
structure NAVContracts where
  getSetValuer : Address
  calculateSetTokenValuation : Address → Address → World → Outcome Nat
  decimals : Address → Nat
  /-- The hook, the reserve asset, its quantity, the caller and the recipient. -/
  invokePreIssueHook : Address → Address → Nat → Address → Address → World → Outcome World
  /-- The hook, the quantity of Set tokens, the caller and the recipient. -/
  invokePreRedeemHook : Address → Nat → Address → Address → World → Outcome World

namespace CustomOracleNAVIssuanceModule

def managerIssueFeeIndex : Fin 2 := 0

def managerRedeemFeeIndex : Fin 2 := 1

def protocolIssueManagerRevenueShareFeeIndex : Nat := 0

def protocolRedeemManagerRevenueShareFeeIndex : Nat := 1

def protocolIssueDirectFeeIndex : Nat := 2

def protocolRedeemDirectFeeIndex : Nat := 3

/-! ### Checks and hooks -/

def validateCommon (module : CustomOracleNAVIssuanceModule) (reserveAsset : Address)
    (quantity : Nat) : Outcome Unit := do
  require (0 < quantity) "Quantity must be > 0"
  require (module.isReserveAsset reserveAsset = true) "Must be valid reserve asset"

def validateIssuanceInfo (module : CustomOracleNAVIssuanceModule)
    (minSetTokenReceiveQuantity : Nat) (issueInfo : ActionInfo) : Outcome Unit := do
  require (module.navIssuanceSettings.minSetTokenSupply ≤ issueInfo.previousSetTokenSupply)
    "Supply must be greater than minimum to enable issuance"
  require (minSetTokenReceiveQuantity ≤ issueInfo.setTokenQuantity)
    "Must be greater than min SetToken"

def validateRedemptionInfo (module : CustomOracleNAVIssuanceModule)
    (minReserveReceiveQuantity : Nat) (redeemInfo : ActionInfo) : Outcome Unit := do
  require (module.navIssuanceSettings.minSetTokenSupply ≤ redeemInfo.newSetTokenSupply)
    "Supply must be greater than minimum to enable redemption"
  require (minReserveReceiveQuantity ≤ redeemInfo.netFlowQuantity)
    "Must be greater than min receive reserve quantity"

def callPreIssueHooks (module : CustomOracleNAVIssuanceModule) (contracts : NAVContracts)
    (reserveAsset : Address) (reserveAssetQuantity : Nat) (caller recipient : Address)
    (world : World) : Outcome World :=
  let preIssueHook := module.navIssuanceSettings.managerIssuanceHook
  if preIssueHook ≠ 0 then
    contracts.invokePreIssueHook preIssueHook reserveAsset reserveAssetQuantity caller recipient
      world
  else pure world

def callPreRedeemHooks (module : CustomOracleNAVIssuanceModule) (contracts : NAVContracts)
    (setQuantity : Nat) (caller recipient : Address) (world : World) : Outcome World :=
  let preRedeemHook := module.navIssuanceSettings.managerRedemptionHook
  if preRedeemHook ≠ 0 then
    contracts.invokePreRedeemHook preRedeemHook setQuantity caller recipient world
  else pure world

/-! ### Fees, premium and valuation -/

def getIssuePremium (module : CustomOracleNAVIssuanceModule) : Nat :=
  module.navIssuanceSettings.premiumPercentage

def getRedeemPremium (module : CustomOracleNAVIssuanceModule) : Nat :=
  module.navIssuanceSettings.premiumPercentage

def setValuer (module : CustomOracleNAVIssuanceModule) (contracts : NAVContracts) : Address :=
  let customValuer := module.navIssuanceSettings.setValuer
  if customValuer = 0 then contracts.getSetValuer else customValuer

/-- The share of the protocol and the share of the manager. -/
def getProtocolAndManagerFeePercentages (module : CustomOracleNAVIssuanceModule)
    (protocolManagerFeeIndex protocolDirectFeeIndex : Nat) (managerFeeIndex : Fin 2)
    (world : World) : Outcome (Nat × Nat) := do
  let protocolDirectFeePercent :=
    world.controller.getModuleFee module.address protocolDirectFeeIndex
  let protocolManagerShareFeePercent :=
    world.controller.getModuleFee module.address protocolManagerFeeIndex
  let managerFeePercent := module.navIssuanceSettings.managerFees managerFeeIndex
  let protocolRevenueSharePercentage ←
    preciseMul protocolManagerShareFeePercent managerFeePercent
  let managerRevenueSharePercentage ←
    SafeMath.sub managerFeePercent protocolRevenueSharePercentage
  let totalProtocolFeePercentage ←
    SafeMath.add protocolRevenueSharePercentage protocolDirectFeePercent
  pure (totalProtocolFeePercentage, managerRevenueSharePercentage)

/-- The protocol fee, the manager fee, and what is left of the quantity. -/
def getFees (module : CustomOracleNAVIssuanceModule) (reserveAssetQuantity : Nat)
    (protocolManagerFeeIndex protocolDirectFeeIndex : Nat) (managerFeeIndex : Fin 2)
    (world : World) : Outcome (Nat × Nat × Nat) := do
  let (protocolFeePercentage, managerFeePercentage) ←
    module.getProtocolAndManagerFeePercentages protocolManagerFeeIndex protocolDirectFeeIndex
      managerFeeIndex world
  let protocolFees ← preciseMul protocolFeePercentage reserveAssetQuantity
  let managerFee ← preciseMul managerFeePercentage reserveAssetQuantity
  let netOfProtocol ← SafeMath.sub reserveAssetQuantity protocolFees
  let netReserveFlow ← SafeMath.sub netOfProtocol managerFee
  pure (protocolFees, managerFee, netReserveFlow)

/-- `10 ** decimals`, which the compiler does not check. -/
def decimalScale (contracts : NAVContracts) (reserveAsset : Address) : Nat :=
  10 ^ contracts.decimals reserveAsset % 2 ^ 256

def getSetTokenMintQuantity (module : CustomOracleNAVIssuanceModule) (contracts : NAVContracts)
    (reserveAsset : Address) (netReserveFlows setTotalSupply : Nat) (world : World) :
    Outcome Nat := do
  let premiumValue ← preciseMul netReserveFlows module.getIssuePremium
  let setTokenValuation ←
    contracts.calculateSetTokenValuation (module.setValuer contracts) reserveAsset world
  let scale := decimalScale contracts reserveAsset
  let normalizedTotalReserveQuantityNetFees ← preciseDiv netReserveFlows scale
  let netOfPremium ← SafeMath.sub netReserveFlows premiumValue
  let normalizedTotalReserveQuantityNetFeesAndPremium ← preciseDiv netOfPremium scale
  let setValue ← preciseMul setTotalSupply setTokenValuation
  let withFlows ← SafeMath.add setValue normalizedTotalReserveQuantityNetFees
  let denominator ← SafeMath.sub withFlows normalizedTotalReserveQuantityNetFeesAndPremium
  let shared ← preciseMul normalizedTotalReserveQuantityNetFeesAndPremium setTotalSupply
  preciseDiv shared denominator

def getRedeemReserveQuantity (module : CustomOracleNAVIssuanceModule) (contracts : NAVContracts)
    (reserveAsset : Address) (setTokenQuantity : Nat) (world : World) : Outcome Nat := do
  let setTokenValuation ←
    contracts.calculateSetTokenValuation (module.setValuer contracts) reserveAsset world
  let totalRedeemValueInPreciseUnits ← preciseMul setTokenQuantity setTokenValuation
  let prePremiumReserveQuantity ←
    preciseMul totalRedeemValueInPreciseUnits (decimalScale contracts reserveAsset)
  let premiumQuantity ← preciseMulCeil prePremiumReserveQuantity module.getRedeemPremium
  SafeMath.sub prePremiumReserveQuantity premiumQuantity

/-! ### The new multiplier and the new reserve unit -/

/-- The multiplier scaled from one supply to another. -/
def scaledMultiplier (setToken : SetToken) (previousSupply newTotalSupply : Nat) :
    Outcome Int := do
  let previous ← SafeCast.toInt256 previousSupply
  let product ← SignedSafeMath.mul setToken.positionMultiplier previous
  let divisor ← SafeCast.toInt256 newTotalSupply
  SignedSafeMath.div product divisor

def getIssuePositionMultiplier (setTokenQuantity previousSetTokenSupply : Nat)
    (setToken : SetToken) : Outcome (Nat × Int) := do
  let newTotalSupply ← SafeMath.add setTokenQuantity previousSetTokenSupply
  let newPositionMultiplier ← scaledMultiplier setToken previousSetTokenSupply newTotalSupply
  pure (newTotalSupply, newPositionMultiplier)

def getRedeemPositionMultiplier (setTokenQuantity previousSetTokenSupply : Nat)
    (setToken : SetToken) : Outcome (Nat × Int) := do
  let newTotalSupply ← SafeMath.sub previousSetTokenSupply setTokenQuantity
  let newPositionMultiplier ← scaledMultiplier setToken previousSetTokenSupply newTotalSupply
  pure (newTotalSupply, newPositionMultiplier)

def getIssuePositionUnit (reserveAsset : Address)
    (previousSetTokenSupply newSetTokenSupply netFlowQuantity : Nat) (setToken : SetToken) :
    Outcome Nat := do
  let realUnit ← setToken.getDefaultPositionRealUnit reserveAsset
  let existingUnit ← SafeCast.toUint256 realUnit
  let totalExistingUnits ← preciseMul existingUnit previousSetTokenSupply
  let totalReserve ← SafeMath.add totalExistingUnits netFlowQuantity
  preciseDiv totalReserve newSetTokenSupply

def getRedeemPositionUnit (reserveAsset : Address)
    (previousSetTokenSupply newSetTokenSupply netFlowQuantity protocolFees managerFee : Nat)
    (setToken : SetToken) : Outcome Nat := do
  let realUnit ← setToken.getDefaultPositionRealUnit reserveAsset
  let existingUnit ← SafeCast.toUint256 realUnit
  let totalExistingUnits ← preciseMul existingUnit previousSetTokenSupply
  let netAndProtocol ← SafeMath.add netFlowQuantity protocolFees
  let outflow ← SafeMath.add netAndProtocol managerFee
  require (outflow ≤ totalExistingUnits) "Must be greater than total available collateral"
  let remaining ← SafeMath.sub totalExistingUnits outflow
  preciseDiv remaining newSetTokenSupply

def createIssuanceInfo (module : CustomOracleNAVIssuanceModule) (contracts : NAVContracts)
    (reserveAsset : Address) (reserveAssetQuantity : Nat) (world : World) :
    Outcome ActionInfo := do
  let previousSetTokenSupply := world.setToken.totalSupply
  let (protocolFees, managerFee, netFlowQuantity) ← module.getFees reserveAssetQuantity
    protocolIssueManagerRevenueShareFeeIndex protocolIssueDirectFeeIndex managerIssueFeeIndex
    world
  let setTokenQuantity ← module.getSetTokenMintQuantity contracts reserveAsset netFlowQuantity
    previousSetTokenSupply world
  let (newSetTokenSupply, newPositionMultiplier) ←
    getIssuePositionMultiplier setTokenQuantity previousSetTokenSupply world.setToken
  let newReservePositionUnit ← getIssuePositionUnit reserveAsset previousSetTokenSupply
    newSetTokenSupply netFlowQuantity world.setToken
  pure { preFeeReserveQuantity := reserveAssetQuantity, protocolFees, managerFee,
         netFlowQuantity, setTokenQuantity, previousSetTokenSupply, newSetTokenSupply,
         newPositionMultiplier, newReservePositionUnit }

def createRedemptionInfo (module : CustomOracleNAVIssuanceModule) (contracts : NAVContracts)
    (reserveAsset : Address) (setTokenQuantity : Nat) (world : World) :
    Outcome ActionInfo := do
  let preFeeReserveQuantity ←
    module.getRedeemReserveQuantity contracts reserveAsset setTokenQuantity world
  let (protocolFees, managerFee, netFlowQuantity) ← module.getFees preFeeReserveQuantity
    protocolRedeemManagerRevenueShareFeeIndex protocolRedeemDirectFeeIndex managerRedeemFeeIndex
    world
  let previousSetTokenSupply := world.setToken.totalSupply
  let (newSetTokenSupply, newPositionMultiplier) ←
    getRedeemPositionMultiplier setTokenQuantity previousSetTokenSupply world.setToken
  let newReservePositionUnit ← getRedeemPositionUnit reserveAsset previousSetTokenSupply
    newSetTokenSupply netFlowQuantity protocolFees managerFee world.setToken
  pure { preFeeReserveQuantity, protocolFees, managerFee, netFlowQuantity, setTokenQuantity,
         previousSetTokenSupply, newSetTokenSupply, newPositionMultiplier,
         newReservePositionUnit }

/-- The redemption that a getter reports as valid. The disjunction is evaluated only as far as
it has to be. -/
def isRedeemValid (module : CustomOracleNAVIssuanceModule) (contracts : NAVContracts)
    (reserveAsset : Address) (setTokenQuantity : Nat) (world : World) : Outcome Bool := do
  let setTotalSupply := world.setToken.totalSupply
  if setTokenQuantity = 0 ∨ module.isReserveAsset reserveAsset = false then pure false
  else do
    let least ← SafeMath.add module.navIssuanceSettings.minSetTokenSupply setTokenQuantity
    if setTotalSupply < least then pure false
    else do
      let totalRedeemValue ←
        module.getRedeemReserveQuantity contracts reserveAsset setTokenQuantity world
      let (_, _, expectedRedeemQuantity) ← module.getFees totalRedeemValue
        protocolRedeemManagerRevenueShareFeeIndex protocolRedeemDirectFeeIndex
        managerRedeemFeeIndex world
      let realUnit ← world.setToken.getDefaultPositionRealUnit reserveAsset
      let existingUnit ← SafeCast.toUint256 realUnit
      let existing ← preciseMul existingUnit setTotalSupply
      pure (decide (expectedRedeemQuantity ≤ existing))

/-! ### Transfers and state updates -/

/-- A transfer that is skipped when there is nothing to pay. -/
def payFee (fee : Nat) (pay : Nat → World → Outcome World) (world : World) : Outcome World :=
  if 0 < fee then pay fee world else pure world

def transferCollateralAndHandleFees (module : CustomOracleNAVIssuanceModule)
    (msgSender reserveAsset : Address) (issueInfo : ActionInfo) (world : World) :
    Outcome World := do
  let collected ← world.explicitTransferFrom module.address reserveAsset msgSender
    world.setToken.address issueInfo.netFlowQuantity
  let protocolPaid ← payFee issueInfo.protocolFees (fun fee world =>
    world.explicitTransferFrom module.address reserveAsset msgSender
      world.controller.feeRecipient fee) collected
  payFee issueInfo.managerFee (fun fee world =>
    world.explicitTransferFrom module.address reserveAsset msgSender
      module.navIssuanceSettings.feeRecipient fee) protocolPaid

/-- The module pays out of the ether it has wrapped. -/
def transferWETH (module : CustomOracleNAVIssuanceModule) (recipient : Address) (quantity : Nat)
    (world : World) : Outcome World :=
  world.callToken module.weth fun token => token.transfer module.address recipient quantity

def transferWETHAndHandleFees (module : CustomOracleNAVIssuanceModule) (issueInfo : ActionInfo)
    (world : World) : Outcome World := do
  let collected ←
    module.transferWETH world.setToken.address issueInfo.netFlowQuantity world
  let protocolPaid ← payFee issueInfo.protocolFees (fun fee world =>
    module.transferWETH world.controller.feeRecipient fee world) collected
  payFee issueInfo.managerFee (fun fee world =>
    module.transferWETH module.navIssuanceSettings.feeRecipient fee world) protocolPaid

def handleRedemptionFees (module : CustomOracleNAVIssuanceModule) (reserveAsset : Address)
    (redeemInfo : ActionInfo) (world : World) : Outcome World := do
  let protocolPaid ← ModuleBase.payProtocolFeeFromSetToken module.address reserveAsset
    redeemInfo.protocolFees world
  payFee redeemInfo.managerFee (fun fee world =>
    world.strictInvokeTransfer module.address reserveAsset
      module.navIssuanceSettings.feeRecipient fee) protocolPaid

/-- The multiplier is written before the reserve unit, which is stored under it. -/
def writeReservePosition (module : CustomOracleNAVIssuanceModule) (reserveAsset : Address)
    (info : ActionInfo) (world : World) : Outcome World := do
  let rescaled ← world.callSetToken
    (SetToken.editPositionMultiplier ⟨world.controller, module.address⟩
      info.newPositionMultiplier)
  rescaled.callSetToken
    (Position.editDefaultPosition ⟨rescaled.controller, module.address⟩ reserveAsset
      info.newReservePositionUnit)

def handleIssueStateUpdates (module : CustomOracleNAVIssuanceModule)
    (reserveAsset recipient : Address) (issueInfo : ActionInfo) (world : World) :
    Outcome World := do
  let written ← module.writeReservePosition reserveAsset issueInfo world
  written.callSetToken (SetToken.mint ⟨written.controller, module.address⟩ recipient
    issueInfo.setTokenQuantity)

def handleRedeemStateUpdates (module : CustomOracleNAVIssuanceModule) (reserveAsset : Address)
    (redeemInfo : ActionInfo) (world : World) : Outcome World :=
  module.writeReservePosition reserveAsset redeemInfo world

/-! ### Issue and redeem -/

def issue (module : CustomOracleNAVIssuanceModule) (contracts : NAVContracts)
    (msgSender reserveAsset : Address)
    (reserveAssetQuantity minSetTokenReceiveQuantity : Nat) (recipient : Address)
    (world : World) : Outcome World := do
  ModuleBase.validateOnlyValidAndInitializedSet module.address world
  module.validateCommon reserveAsset reserveAssetQuantity
  let hooked ← module.callPreIssueHooks contracts reserveAsset reserveAssetQuantity msgSender
    recipient world
  let issueInfo ← module.createIssuanceInfo contracts reserveAsset reserveAssetQuantity hooked
  module.validateIssuanceInfo minSetTokenReceiveQuantity issueInfo
  let paid ← module.transferCollateralAndHandleFees msgSender reserveAsset issueInfo hooked
  module.handleIssueStateUpdates reserveAsset recipient issueInfo paid

def issueWithEther (module : CustomOracleNAVIssuanceModule) (contracts : NAVContracts)
    (msgSender : Address) (msgValue minSetTokenReceiveQuantity : Nat) (recipient : Address)
    (world : World) : Outcome World := do
  ModuleBase.validateOnlyValidAndInitializedSet module.address world
  let wrapped ← world.callToken module.weth (WETH9.deposit module.address msgValue)
  module.validateCommon module.weth msgValue
  let hooked ← module.callPreIssueHooks contracts module.weth msgValue msgSender recipient
    wrapped
  let issueInfo ← module.createIssuanceInfo contracts module.weth msgValue hooked
  module.validateIssuanceInfo minSetTokenReceiveQuantity issueInfo
  let paid ← module.transferWETHAndHandleFees issueInfo hooked
  module.handleIssueStateUpdates module.weth recipient issueInfo paid

/-- What both redemptions do before the reserve leaves the Set: the checks, the hook, the
computation and the burn. -/
def prepareRedeem (module : CustomOracleNAVIssuanceModule) (contracts : NAVContracts)
    (msgSender reserveAsset : Address) (setTokenQuantity minReserveReceiveQuantity : Nat)
    (recipient : Address) (world : World) : Outcome (ActionInfo × World) := do
  ModuleBase.validateOnlyValidAndInitializedSet module.address world
  module.validateCommon reserveAsset setTokenQuantity
  let hooked ← module.callPreRedeemHooks contracts setTokenQuantity msgSender recipient world
  let redeemInfo ← module.createRedemptionInfo contracts reserveAsset setTokenQuantity hooked
  module.validateRedemptionInfo minReserveReceiveQuantity redeemInfo
  let burned ← hooked.callSetToken
    (SetToken.burn ⟨hooked.controller, module.address⟩ msgSender setTokenQuantity)
  pure (redeemInfo, burned)

def redeem (module : CustomOracleNAVIssuanceModule) (contracts : NAVContracts)
    (msgSender reserveAsset : Address) (setTokenQuantity minReserveReceiveQuantity : Nat)
    (recipient : Address) (world : World) : Outcome World := do
  let (redeemInfo, burned) ← module.prepareRedeem contracts msgSender reserveAsset
    setTokenQuantity minReserveReceiveQuantity recipient world
  let sent ← burned.strictInvokeTransfer module.address reserveAsset recipient
    redeemInfo.netFlowQuantity
  let paid ← module.handleRedemptionFees reserveAsset redeemInfo sent
  module.handleRedeemStateUpdates reserveAsset redeemInfo paid

/-- The ether that the unwrapping frees goes to the recipient, and is not part of the world. -/
def redeemIntoEther (module : CustomOracleNAVIssuanceModule) (contracts : NAVContracts)
    (msgSender : Address) (setTokenQuantity minReserveReceiveQuantity : Nat)
    (recipient : Address) (world : World) : Outcome World := do
  let (redeemInfo, burned) ← module.prepareRedeem contracts msgSender module.weth
    setTokenQuantity minReserveReceiveQuantity recipient world
  let sent ← burned.strictInvokeTransfer module.address module.weth module.address
    redeemInfo.netFlowQuantity
  let unwrapped ← sent.callToken module.weth
    (WETH9.withdraw module.address redeemInfo.netFlowQuantity)
  let paid ← module.handleRedemptionFees module.weth redeemInfo unwrapped
  module.handleRedeemStateUpdates module.weth redeemInfo paid

/-- The calls that issue or redeem against a reserve asset. -/
inductive NAVCall
  | issue (reserveAsset : Address) (reserveAssetQuantity minSetTokenReceiveQuantity : Nat)
      (recipient : Address)
  | issueWithEther (msgValue minSetTokenReceiveQuantity : Nat) (recipient : Address)
  | redeem (reserveAsset : Address) (setTokenQuantity minReserveReceiveQuantity : Nat)
      (recipient : Address)
  | redeemIntoEther (setTokenQuantity minReserveReceiveQuantity : Nat) (recipient : Address)

def NAVCall.reserveAsset (module : CustomOracleNAVIssuanceModule) : NAVCall → Address
  | .issue reserveAsset _ _ _ => reserveAsset
  | .issueWithEther _ _ _ => module.weth
  | .redeem reserveAsset _ _ _ => reserveAsset
  | .redeemIntoEther _ _ _ => module.weth

def NAVCall.apply (module : CustomOracleNAVIssuanceModule) (contracts : NAVContracts)
    (msgSender : Address) (world : World) : NAVCall → Outcome World
  | .issue reserveAsset quantity least recipient =>
    module.issue contracts msgSender reserveAsset quantity least recipient world
  | .issueWithEther msgValue least recipient =>
    module.issueWithEther contracts msgSender msgValue least recipient world
  | .redeem reserveAsset quantity least recipient =>
    module.redeem contracts msgSender reserveAsset quantity least recipient world
  | .redeemIntoEther quantity least recipient =>
    module.redeemIntoEther contracts msgSender quantity least recipient world

end CustomOracleNAVIssuanceModule

end IndexProtocol

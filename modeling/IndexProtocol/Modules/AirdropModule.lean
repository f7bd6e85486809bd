/-
This file models the module that absorbs tokens sent to a Set into its
positions. What a Set holds of a token beyond its tracked balance counts as
airdropped: a fee on it is paid to the manager's recipient, shared with the
protocol, and the position is then written to the whole balance that is left.
-/

import IndexProtocol.Lib.AddressArrayUtils
import IndexProtocol.Protocol.ModuleBase

namespace IndexProtocol

open Revert PreciseUnitMath

structure AirdropSettings where
  airdrops : List Address
  feeRecipient : Address
  airdropFee : Nat
  anyoneAbsorb : Bool

/-- The module's storage for one Set. -/
structure AirdropModule where
  address : Address
  airdropSettings : AirdropSettings
  isAirdrop : Address → Bool

namespace AirdropModule

def protocolFeeIndex : Nat := 0

/-! ### Absorbing -/

def isValidCaller (module : AirdropModule) (msgSender : Address) (world : World) : Bool :=
  module.airdropSettings.anyoneAbsorb || ModuleBase.isSetManager world msgSender

def validateOnlyValidCaller (module : AirdropModule) (msgSender : Address) (world : World) :
    Outcome Unit :=
  require (module.isValidCaller msgSender world = true) "Must be valid caller"

/-- Returns the manager's part, the protocol's part and the total. -/
def handleFees (module : AirdropModule) (component : Address) (amountAirdropped : Nat)
    (world : World) : Outcome (World × Nat × Nat × Nat) :=
  let airdropFee := module.airdropSettings.airdropFee
  if 0 < airdropFee then do
    let totalFees ← preciseMul amountAirdropped airdropFee
    let protocolTake ←
      ModuleBase.getModuleFee module.address protocolFeeIndex totalFees world
    let netManagerTake ← SafeMath.sub totalFees protocolTake
    let managerPaid ← world.strictInvokeTransfer module.address component
      module.airdropSettings.feeRecipient netManagerTake
    let protocolPaid ← ModuleBase.payProtocolFeeFromSetToken module.address component
      protocolTake managerPaid
    pure (protocolPaid, netManagerTake, protocolTake, totalFees)
  else pure (world, 0, 0, 0)

def getPostAirdropUnit (totalComponentBalance totalFeesPaid : Nat) (setToken : SetToken) :
    Outcome Nat := do
  let totalNotional ← SafeMath.sub totalComponentBalance totalFeesPaid
  Position.getDefaultPositionUnit setToken.totalSupply totalNotional

def handleAirdropPosition (module : AirdropModule) (token : Address) (world : World) :
    Outcome World := do
  let preFeeTokenBalance := world.held token
  let tracked ← Position.getDefaultTrackedBalance world.setToken token
  let amountAirdropped ← SafeMath.sub preFeeTokenBalance tracked
  if 0 < amountAirdropped then do
    let (paid, _, _, totalFees) ← module.handleFees token amountAirdropped world
    let newUnit ← getPostAirdropUnit preFeeTokenBalance totalFees paid.setToken
    paid.callSetToken
      (Position.editDefaultPosition ⟨paid.controller, module.address⟩ token newUnit)
  else pure world

def absorbInternal (module : AirdropModule) (world : World) (token : Address) :
    Outcome World := do
  require (module.isAirdrop token = true) "Must be approved token."
  module.handleAirdropPosition token world

def batchAbsorbInternal (module : AirdropModule) (tokens : List Address) (world : World) :
    Outcome World :=
  tokens.foldlM module.absorbInternal world

def absorb (module : AirdropModule) (msgSender token : Address) (world : World) :
    Outcome World := do
  module.validateOnlyValidCaller msgSender world
  ModuleBase.validateOnlyValidAndInitializedSet module.address world
  module.absorbInternal world token

def batchAbsorb (module : AirdropModule) (msgSender : Address) (tokens : List Address)
    (world : World) : Outcome World := do
  module.validateOnlyValidCaller msgSender world
  ModuleBase.validateOnlyValidAndInitializedSet module.address world
  module.batchAbsorbInternal tokens world

/-! ### Settings -/

def addAirdrop (module : AirdropModule) (msgSender airdrop : Address) (world : World) :
    Outcome AirdropModule := do
  ModuleBase.validateOnlyManagerAndValidSet module.address msgSender world
  require (module.isAirdrop airdrop = false) "Token already added."
  pure { module with
    airdropSettings := { module.airdropSettings with
      airdrops := module.airdropSettings.airdrops ++ [airdrop] }
    isAirdrop := Function.update module.isAirdrop airdrop true }

def removeAirdrop (module : AirdropModule) (msgSender airdrop : Address) (world : World) :
    Outcome AirdropModule := do
  ModuleBase.validateOnlyManagerAndValidSet module.address msgSender world
  require (module.isAirdrop airdrop = true) "Token not added."
  let airdrops ← AddressArrayUtils.removeStorage module.airdropSettings.airdrops airdrop
  pure { module with
    airdropSettings := { module.airdropSettings with airdrops := airdrops }
    isAirdrop := Function.update module.isAirdrop airdrop false }

def updateAnyoneAbsorb (module : AirdropModule) (msgSender : Address) (anyoneAbsorb : Bool)
    (world : World) : Outcome AirdropModule := do
  ModuleBase.validateOnlyManagerAndValidSet module.address msgSender world
  pure { module with
    airdropSettings := { module.airdropSettings with anyoneAbsorb := anyoneAbsorb } }

def updateFeeRecipient (module : AirdropModule) (msgSender newFeeRecipient : Address)
    (world : World) : Outcome AirdropModule := do
  ModuleBase.validateOnlyManagerAndValidSet module.address msgSender world
  require (newFeeRecipient ≠ 0) "Passed address must be non-zero"
  pure { module with
    airdropSettings := { module.airdropSettings with feeRecipient := newFeeRecipient } }

/-- All outstanding tokens are absorbed at the old fee. -/
def updateAirdropFee (module : AirdropModule) (msgSender : Address) (newFee : Nat)
    (world : World) : Outcome (AirdropModule × World) := do
  ModuleBase.validateOnlyManagerAndValidSet module.address msgSender world
  require (newFee ≤ preciseUnit) "Airdrop fee can't exceed 100%"
  let absorbed ← module.batchAbsorbInternal module.airdropSettings.airdrops world
  pure ({ module with
    airdropSettings := { module.airdropSettings with airdropFee := newFee } }, absorbed)

/-- The check for duplicates, which the array library refuses on an empty array. -/
def validateAirdrops (airdrops : List Address) : Outcome Unit :=
  if 0 < airdrops.length then do
    let duplicate ← AddressArrayUtils.hasDuplicate airdrops
    require (duplicate = false) "Duplicate airdrop token passed"
  else pure ()

/-- The module's `initialize`, called by the manager. -/
def initializeSet (module : AirdropModule) (msgSender : Address)
    (airdropSettings : AirdropSettings) (world : World) : Outcome (AirdropModule × World) := do
  ModuleBase.validateOnlySetManager msgSender world
  ModuleBase.validateOnlyValidAndPendingSet module.address world
  require (airdropSettings.airdropFee ≤ preciseUnit) "Fee must be <= 100%."
  require (airdropSettings.feeRecipient ≠ 0) "Zero fee address passed"
  validateAirdrops airdropSettings.airdrops
  let initialized ← world.callSetToken
    (SetToken.initializeModule ⟨world.controller, module.address⟩)
  pure ({ module with
    airdropSettings := airdropSettings
    isAirdrop := airdropSettings.airdrops.foldl
      (fun isAirdrop airdrop => Function.update isAirdrop airdrop true) module.isAirdrop },
    initialized)

def removeModule (module : AirdropModule) : AirdropModule :=
  { module with
    airdropSettings := { airdrops := [], feeRecipient := 0, airdropFee := 0, anyoneAbsorb := false }
    isAirdrop := module.airdropSettings.airdrops.foldl
      (fun isAirdrop airdrop => Function.update isAirdrop airdrop false) module.isAirdrop }

/-! ### What absorbing does -/

/-- The fees of an amount leave the Set. -/
theorem handleFees_eq_ok {module : AirdropModule} {component : Address} {amount : Nat}
    {world paid : World} {netManagerTake protocolTake totalFees : Nat}
    (returned : module.handleFees component amount world =
      .ok (paid, netManagerTake, protocolTake, totalFees)) :
    World.OnlyBalances world paid ∧
      totalFees = Rounding.mulFloor preciseUnit amount module.airdropSettings.airdropFee ∧
      totalFees ≤ world.held component ∧
      paid.held component = world.held component - totalFees := by
  dsimp only [handleFees] at returned
  split at returned
  · simp only [ModuleBase.getModuleFee, bind_eq_ok, preciseMul_eq_ok, SafeMath.sub_eq_ok,
      pure_eq_ok, Prod.mk.injEq] at returned
    obtain ⟨_, ⟨_, rfl⟩, _, ⟨_, rfl⟩, _, ⟨part, rfl⟩, managerPaid, managerPaying, _,
      protocolPaying, rfl, rfl, rfl, rfl⟩ := returned
    obtain ⟨first, enough, afterManager⟩ := World.strictInvokeTransfer_eq_ok managerPaying
    obtain ⟨second, left, afterProtocol⟩ :=
      ModuleBase.payProtocolFeeFromSetToken_eq_ok protocolPaying
    have managerHeld := congrFun afterManager component
    have protocolHeld := congrFun afterProtocol component
    rw [Function.update_self] at managerHeld protocolHeld
    refine ⟨first.trans second, rfl, ?_, ?_⟩
    · omega
    · omega
  · rename_i none
    rw [pure_eq_ok, Prod.mk.injEq, Prod.mk.injEq, Prod.mk.injEq] at returned
    obtain ⟨rfl, _, _, rfl⟩ := returned
    rw [Nat.eq_zero_of_not_pos none]
    refine ⟨World.OnlyBalances.refl _, ?_, Nat.zero_le _, rfl⟩
    unfold Rounding.mulFloor
    rw [mul_zero, Nat.zero_div]

/-- Without fees nothing is transferred. -/
theorem handleFees_none {module : AirdropModule} {component : Address} {amount : Nat}
    {world paid : World} {netManagerTake protocolTake : Nat}
    (returned : module.handleFees component amount world =
      .ok (paid, netManagerTake, protocolTake, 0)) : paid = world := by
  dsimp only [handleFees] at returned
  split at returned
  · simp only [ModuleBase.getModuleFee, bind_eq_ok, preciseMul_eq_ok, SafeMath.sub_eq_ok,
      pure_eq_ok, Prod.mk.injEq] at returned
    obtain ⟨_, _, _, ⟨_, rfl⟩, _, ⟨part, rfl⟩, managerPaid, managerPaying, _, protocolPaying,
      rfl, _, _, rfl⟩ := returned
    have managerNone : managerPaid = world := by
      unfold World.strictInvokeTransfer at managerPaying
      rw [Nat.zero_sub, if_neg (Nat.lt_irrefl 0)] at managerPaying
      exact ((pure_eq_ok _ _).mp managerPaying).symm
    unfold ModuleBase.payProtocolFeeFromSetToken at protocolPaying
    rw [Nat.le_zero.mp part, if_neg (Nat.lt_irrefl 0)] at protocolPaying
    exact ((pure_eq_ok _ _).mp protocolPaying).symm.trans managerNone
  · rw [pure_eq_ok, Prod.mk.injEq] at returned
    exact returned.1.symm

end AirdropModule

end IndexProtocol

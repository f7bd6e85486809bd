/-
This file models the registry of the claim module: the reward pools of a Set,
and for each pool the adapters through which rewards are claimed from it. Pools
and adapters are each kept as a list with a flag beside it. Adapters are named
in the integration registry, which may point a name elsewhere between calls.
-/

import IndexProtocol.Protocol.ModuleBase

namespace IndexProtocol

open Revert

/-- The module's storage for one Set. -/
structure ClaimModule where
  address : Address
  anyoneClaim : Bool
  rewardPoolList : List Address
  rewardPoolStatus : Address → Bool
  claimSettings : Address → List Address
  claimSettingsStatus : Address → Address → Bool

namespace ClaimModule

/-- The storage of a freshly deployed module. -/
def deployed (address : Address) : ClaimModule where
  address := address
  anyoneClaim := false
  rewardPoolList := []
  rewardPoolStatus := fun _ => false
  claimSettings := fun _ => []
  claimSettingsStatus := fun _ _ => false

/-- Write the flag of one adapter of a pool. -/
def setClaimSettingsStatus (module : ClaimModule) (rewardPool adapter : Address)
    (status : Bool) : Address → Address → Bool :=
  Function.update module.claimSettingsStatus rewardPool
    (Function.update (module.claimSettingsStatus rewardPool) adapter status)

/-! ### Claims -/

/-- The first claim of a pool also lists the pool. -/
def addClaimInternal (registry : IntegrationRegistry) (module : ClaimModule)
    (entry : Address × String) : Outcome ClaimModule := do
  let (rewardPool, integrationName) := entry
  let adapter ← ModuleBase.getAndValidateAdapter module.address registry integrationName
  require (module.claimSettingsStatus rewardPool adapter = false)
    "Integration names must be unique"
  let added := { module with
    claimSettings := Function.update module.claimSettings rewardPool
      (module.claimSettings rewardPool ++ [adapter])
    claimSettingsStatus := module.setClaimSettingsStatus rewardPool adapter true }
  if module.rewardPoolStatus rewardPool = false then
    pure { added with
      rewardPoolList := module.rewardPoolList ++ [rewardPool]
      rewardPoolStatus := Function.update module.rewardPoolStatus rewardPool true }
  else pure added

/-- The last claim of a pool also removes the pool. -/
def removeClaimInternal (registry : IntegrationRegistry) (module : ClaimModule)
    (entry : Address × String) : Outcome ClaimModule := do
  let (rewardPool, integrationName) := entry
  let adapter ← ModuleBase.getAndValidateAdapter module.address registry integrationName
  require (module.claimSettingsStatus rewardPool adapter = true) "Integration must be added"
  let adapters ← AddressArrayUtils.removeStorage (module.claimSettings rewardPool) adapter
  let removed := { module with
    claimSettings := Function.update module.claimSettings rewardPool adapters
    claimSettingsStatus := module.setClaimSettingsStatus rewardPool adapter false }
  if adapters.length = 0 then do
    let rewardPoolList ← AddressArrayUtils.removeStorage module.rewardPoolList rewardPool
    pure { removed with
      rewardPoolList := rewardPoolList
      rewardPoolStatus := Function.update module.rewardPoolStatus rewardPool false }
  else pure removed

def validateBatchArrays (rewardPools : List Address) (integrationNames : List String) :
    Outcome Unit := do
  require (rewardPools.length = integrationNames.length) "Array length mismatch"
  require (0 < rewardPools.length) "Arrays must not be empty"

def batchAddClaimInternal (registry : IntegrationRegistry) (rewardPools : List Address)
    (integrationNames : List String) (module : ClaimModule) : Outcome ClaimModule := do
  validateBatchArrays rewardPools integrationNames
  (rewardPools.zip integrationNames).foldlM (addClaimInternal registry) module

/-! ### The external functions -/

def addClaim (module : ClaimModule) (msgSender : Address) (registry : IntegrationRegistry)
    (rewardPool : Address) (integrationName : String) (world : World) : Outcome ClaimModule := do
  ModuleBase.validateOnlyManagerAndValidSet module.address msgSender world
  addClaimInternal registry module (rewardPool, integrationName)

def batchAddClaim (module : ClaimModule) (msgSender : Address) (registry : IntegrationRegistry)
    (rewardPools : List Address) (integrationNames : List String) (world : World) :
    Outcome ClaimModule := do
  ModuleBase.validateOnlyManagerAndValidSet module.address msgSender world
  batchAddClaimInternal registry rewardPools integrationNames module

def removeClaim (module : ClaimModule) (msgSender : Address) (registry : IntegrationRegistry)
    (rewardPool : Address) (integrationName : String) (world : World) : Outcome ClaimModule := do
  ModuleBase.validateOnlyManagerAndValidSet module.address msgSender world
  removeClaimInternal registry module (rewardPool, integrationName)

def batchRemoveClaim (module : ClaimModule) (msgSender : Address)
    (registry : IntegrationRegistry) (rewardPools : List Address)
    (integrationNames : List String) (world : World) : Outcome ClaimModule := do
  ModuleBase.validateOnlyManagerAndValidSet module.address msgSender world
  validateBatchArrays rewardPools integrationNames
  (rewardPools.zip integrationNames).foldlM (removeClaimInternal registry) module

def updateAnyoneClaim (module : ClaimModule) (msgSender : Address) (anyoneClaim : Bool)
    (world : World) : Outcome ClaimModule := do
  ModuleBase.validateOnlyManagerAndValidSet module.address msgSender world
  pure { module with anyoneClaim := anyoneClaim }

/-- The module's `initialize`, called by the manager. -/
def initializeSet (module : ClaimModule) (msgSender : Address) (registry : IntegrationRegistry)
    (anyoneClaim : Bool) (rewardPools : List Address) (integrationNames : List String)
    (world : World) : Outcome (ClaimModule × World) := do
  ModuleBase.validateOnlySetManager msgSender world
  ModuleBase.validateOnlyValidAndPendingSet module.address world
  let added ← batchAddClaimInternal registry rewardPools integrationNames module
  let initialized ← world.callSetToken
    (SetToken.initializeModule ⟨world.controller, module.address⟩)
  pure ({ added with anyoneClaim := anyoneClaim }, initialized)

/-- Clear the flags of the adapters of one pool and delete their list. -/
def clearPool (module : ClaimModule) (rewardPool : Address) : ClaimModule :=
  { module with
    claimSettings := Function.update module.claimSettings rewardPool []
    claimSettingsStatus := Function.update module.claimSettingsStatus rewardPool
      ((module.claimSettings rewardPool).foldl
        (fun status toRemove => Function.update status toRemove false)
        (module.claimSettingsStatus rewardPool)) }

/-- The listed pools are cleared one by one, and then their flags; every list that an element
is deleted from is deleted afterwards. -/
def removeModule (module : ClaimModule) : ClaimModule :=
  let cleared := module.rewardPoolList.foldl clearPool module
  { cleared with
    anyoneClaim := false
    rewardPoolList := []
    rewardPoolStatus := module.rewardPoolList.foldl
      (fun status toRemove => Function.update status toRemove false) module.rewardPoolStatus }

end ClaimModule

end IndexProtocol

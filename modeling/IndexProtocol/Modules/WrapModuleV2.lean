/-
This file models the module with which the manager wraps a token of a Set into
another one at a third party protocol, and unwraps it again. A protocol that
takes ether is paid by unwrapping the Set's wrapped ether first, and the ether
it returns is wrapped again. Both positions are edited from the balances before
and after, the underlying one first.
-/

import IndexProtocol.Protocol.Execution

namespace IndexProtocol

open Revert PreciseUnitMath

/-- The adapter of a protocol. The call data is for the underlying and the wrapped token, the
quantity, the receiving account and the data of the manager. -/
structure WrapV2Adapter (Ledger : Type) where
  ethTokenAddress : Address
  getWrapCallData (underlyingToken wrappedToken : Address) (underlyingUnits : Nat)
    (toAddress : Address) (wrapData : Bytes) : World → Ledger → Outcome (Address × Nat × Bytes)
  getUnwrapCallData (underlyingToken wrappedToken : Address) (wrappedTokenUnits : Nat)
    (toAddress : Address) (unwrapData : Bytes) : World → Ledger → Outcome (Address × Nat × Bytes)
  getSpenderAddress (underlyingToken wrappedToken : Address) : Address

/-- The integration registry and the adapters as one call finds them, and the ether of an
account, which is not a token. -/
structure WrapContracts (Ledger : Type) extends IntegrationRegistry where
  wrapAdapter : Address → WrapV2Adapter Ledger
  etherBalance : Address → World → Ledger → Nat

structure WrapModuleV2 where
  address : Address
  weth : Address

namespace WrapModuleV2

variable {Ledger : Type}

/-! ### Checks and positions -/

def validateInputs (setToken : SetToken) (transactPosition : Address)
    (transactPositionUnits : Nat) : Outcome Unit := do
  require (0 < transactPositionUnits) "Target position units must be > 0"
  let found ← Position.hasDefaultPosition setToken transactPosition
  require (found = true) "Target default position must be component"
  let sufficient ←
    Position.hasSufficientDefaultUnits setToken transactPosition transactPositionUnits
  require (sufficient = true) "Unit cant be greater than existing"

def snapshotTargetAssetsBalance (underlyingToken wrappedToken : Address) (world : World) :
    Nat × Nat :=
  (world.held underlyingToken, world.held wrappedToken)

/-- Unlike the other modules this one spreads an empty balance too. -/
def updatePosition (module : WrapModuleV2) (token : Address)
    (preActionTokenBalance postActionTokenBalance : Nat) (world : World) : Outcome World := do
  let realUnit ← world.setToken.getDefaultPositionRealUnit token
  let unit ← SafeCast.toUint256 realUnit
  let newUnit ← Position.calculateDefaultEditPositionUnit world.setToken.totalSupply
    preActionTokenBalance postActionTokenBalance unit
  world.callSetToken
    (Position.editDefaultPosition ⟨world.controller, module.address⟩ token newUnit)

/-- Both positions from the balances before the action, which are read again after it. -/
def updatePositions (module : WrapModuleV2) (underlyingToken wrappedToken : Address)
    (preActionUnderlyingNotional preActionWrapNotional : Nat) (world : World) :
    Outcome (World × Nat × Nat) := do
  let (postActionUnderlyingNotional, postActionWrapNotional) :=
    snapshotTargetAssetsBalance underlyingToken wrappedToken world
  let underlyingUpdated ← module.updatePosition underlyingToken preActionUnderlyingNotional
    postActionUnderlyingNotional world
  let updated ← module.updatePosition wrappedToken preActionWrapNotional postActionWrapNotional
    underlyingUpdated
  pure (updated, postActionUnderlyingNotional, postActionWrapNotional)

/-! ### Wrapping -/

def createWrapDataAndInvoke (module : WrapModuleV2) (protocols : Protocols Ledger)
    (wrapAdapter : WrapV2Adapter Ledger) (underlyingToken wrappedToken : Address)
    (notionalUnderlying : Nat) (wrapData : Bytes) (execution : Execution Ledger) :
    Outcome (Execution Ledger) := do
  let (callTarget, callValue, callByteData) ← wrapAdapter.getWrapCallData underlyingToken
    wrappedToken notionalUnderlying execution.world.setToken.address wrapData execution.world
    execution.ledger
  execution.invokeUnchecked protocols module.address ⟨callTarget, callValue, .raw callByteData⟩

/-- Returns the notional amounts that were wrapped and that came out of it. -/
def validateWrapAndUpdate (module : WrapModuleV2) (protocols : Protocols Ledger)
    (contracts : WrapContracts Ledger) (integrationName : String)
    (underlyingToken wrappedToken : Address) (underlyingUnits : Nat) (wrapData : Bytes)
    (usesEther : Bool) (execution : Execution Ledger) :
    Outcome (Execution Ledger × Nat × Nat) := do
  validateInputs execution.world.setToken underlyingToken underlyingUnits
  let (preActionUnderlyingNotional, preActionWrapNotional) :=
    snapshotTargetAssetsBalance underlyingToken wrappedToken execution.world
  let notionalUnderlying ← Position.getDefaultTotalNotional execution.world.setToken.totalSupply
    underlyingUnits
  let adapterAddress ← ModuleBase.getAndValidateAdapter module.address
    contracts.toIntegrationRegistry integrationName
  let wrapAdapter := contracts.wrapAdapter adapterAddress
  let prepared ←
    (if usesEther = true then
      execution.invokeUnwrapWETH protocols module.address module.weth notionalUnderlying
    else execution.invokeApprove module.address underlyingToken
      (wrapAdapter.getSpenderAddress underlyingToken wrappedToken) notionalUnderlying)
  let wrapped ← module.createWrapDataAndInvoke protocols wrapAdapter
    (if usesEther = true then wrapAdapter.ethTokenAddress else underlyingToken) wrappedToken
    notionalUnderlying wrapData prepared
  let (world, postActionUnderlyingNotional, postActionWrapNotional) ←
    module.updatePositions underlyingToken wrappedToken preActionUnderlyingNotional
      preActionWrapNotional wrapped.world
  let underlyingWrapped ←
    SafeMath.sub preActionUnderlyingNotional postActionUnderlyingNotional
  let wrappedReceived ← SafeMath.sub postActionWrapNotional preActionWrapNotional
  pure ({ wrapped with world := world }, underlyingWrapped, wrappedReceived)

/-! ### Unwrapping -/

def createUnwrapDataAndInvoke (module : WrapModuleV2) (protocols : Protocols Ledger)
    (wrapAdapter : WrapV2Adapter Ledger) (underlyingToken wrappedToken : Address)
    (notionalWrappedToken : Nat) (unwrapData : Bytes) (execution : Execution Ledger) :
    Outcome (Execution Ledger) := do
  let (callTarget, callValue, callByteData) ← wrapAdapter.getUnwrapCallData underlyingToken
    wrappedToken notionalWrappedToken execution.world.setToken.address unwrapData execution.world
    execution.ledger
  execution.invokeUnchecked protocols module.address ⟨callTarget, callValue, .raw callByteData⟩

/-- All the ether of the Set is wrapped. Returns the notional amounts that came out of the
unwrapping and that were unwrapped. -/
def validateUnwrapAndUpdate (module : WrapModuleV2) (protocols : Protocols Ledger)
    (contracts : WrapContracts Ledger) (integrationName : String)
    (underlyingToken wrappedToken : Address) (wrappedTokenUnits : Nat) (unwrapData : Bytes)
    (usesEther : Bool) (execution : Execution Ledger) :
    Outcome (Execution Ledger × Nat × Nat) := do
  validateInputs execution.world.setToken wrappedToken wrappedTokenUnits
  let (preActionUnderlyingNotional, preActionWrapNotional) :=
    snapshotTargetAssetsBalance underlyingToken wrappedToken execution.world
  let notionalWrappedToken ← Position.getDefaultTotalNotional
    execution.world.setToken.totalSupply wrappedTokenUnits
  let adapterAddress ← ModuleBase.getAndValidateAdapter module.address
    contracts.toIntegrationRegistry integrationName
  let wrapAdapter := contracts.wrapAdapter adapterAddress
  let approved ← execution.invokeApprove module.address wrappedToken
    (wrapAdapter.getSpenderAddress underlyingToken wrappedToken) notionalWrappedToken
  let unwrapped ← module.createUnwrapDataAndInvoke protocols wrapAdapter
    (if usesEther = true then wrapAdapter.ethTokenAddress else underlyingToken) wrappedToken
    notionalWrappedToken unwrapData approved
  let settled ←
    (if usesEther = true then
      unwrapped.invokeWrapWETH protocols module.address module.weth
        (contracts.etherBalance unwrapped.world.setToken.address unwrapped.world
          unwrapped.ledger)
    else pure unwrapped)
  let (world, postActionUnderlyingNotional, postActionWrapNotional) ←
    module.updatePositions underlyingToken wrappedToken preActionUnderlyingNotional
      preActionWrapNotional settled.world
  let underlyingReceived ←
    SafeMath.sub postActionUnderlyingNotional preActionUnderlyingNotional
  let wrappedSent ← SafeMath.sub preActionWrapNotional postActionWrapNotional
  pure ({ settled with world := world }, underlyingReceived, wrappedSent)

/-! ### The manager's calls -/

section Manager

variable (module : WrapModuleV2) (msgSender : Address) (protocols : Protocols Ledger)
  (contracts : WrapContracts Ledger)

def wrap (underlyingToken wrappedToken : Address) (underlyingUnits : Nat)
    (integrationName : String) (wrapData : Bytes) (execution : Execution Ledger) :
    Outcome (Execution Ledger × Nat × Nat) := do
  ModuleBase.validateOnlyManagerAndValidSet module.address msgSender execution.world
  module.validateWrapAndUpdate protocols contracts integrationName underlyingToken wrappedToken
    underlyingUnits wrapData false execution

def wrapWithEther (wrappedToken : Address) (underlyingUnits : Nat) (integrationName : String)
    (wrapData : Bytes) (execution : Execution Ledger) :
    Outcome (Execution Ledger × Nat × Nat) := do
  ModuleBase.validateOnlyManagerAndValidSet module.address msgSender execution.world
  module.validateWrapAndUpdate protocols contracts integrationName module.weth wrappedToken
    underlyingUnits wrapData true execution

def unwrap (underlyingToken wrappedToken : Address) (wrappedUnits : Nat)
    (integrationName : String) (unwrapData : Bytes) (execution : Execution Ledger) :
    Outcome (Execution Ledger × Nat × Nat) := do
  ModuleBase.validateOnlyManagerAndValidSet module.address msgSender execution.world
  module.validateUnwrapAndUpdate protocols contracts integrationName underlyingToken
    wrappedToken wrappedUnits unwrapData false execution

def unwrapWithEther (wrappedToken : Address) (wrappedUnits : Nat) (integrationName : String)
    (unwrapData : Bytes) (execution : Execution Ledger) :
    Outcome (Execution Ledger × Nat × Nat) := do
  ModuleBase.validateOnlyManagerAndValidSet module.address msgSender execution.world
  module.validateUnwrapAndUpdate protocols contracts integrationName module.weth wrappedToken
    wrappedUnits unwrapData true execution

/-- The module's `initialize`, called by the manager. -/
def initializeSet (world : World) : Outcome World := do
  ModuleBase.validateOnlySetManager msgSender world
  ModuleBase.validateOnlyValidAndPendingSet module.address world
  world.callSetToken (SetToken.initializeModule ⟨world.controller, module.address⟩)

end Manager

end WrapModuleV2

end IndexProtocol

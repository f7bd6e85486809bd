/-
This file models the module `AmmModule`, which adds liquidity to the pool of an
exchange and removes it again. The manager gives units per Set token; they are
turned into notional quantities of the whole Set before the call, and the
positions are recomputed from the balances after it. When liquidity is added,
the components are checked against the units of the Set. When it is removed, the
liquidity token is checked by its notional quantity.
-/

import IndexProtocol.Protocol.Execution

namespace IndexProtocol

open Revert PreciseUnitMath

/-! ### Adapters -/

/-- The adapter of an exchange. The call data is a target, a value and bytes, and may depend on
the state of the pool. -/
structure AmmAdapter (Ledger : Type) where
  getProvideLiquidityCalldata (setToken pool : Address) (components : List Address)
    (maxTokensIn : List Nat) (minLiquidity : Nat) :
    World → Ledger → Outcome (Address × Nat × Bytes)
  getProvideLiquiditySingleAssetCalldata (setToken pool component : Address)
    (maxTokenIn minLiquidity : Nat) : World → Ledger → Outcome (Address × Nat × Bytes)
  getRemoveLiquidityCalldata (setToken pool : Address) (components : List Address)
    (minTokensOut : List Nat) (liquidity : Nat) :
    World → Ledger → Outcome (Address × Nat × Bytes)
  getRemoveLiquiditySingleAssetCalldata (setToken pool component : Address)
    (minTokenOut liquidity : Nat) : World → Ledger → Outcome (Address × Nat × Bytes)
  getSpenderAddress : Address → Address
  isValidPool (pool : Address) (components : List Address) : World → Ledger → Outcome Bool

/-- The integration registry and the adapters as one call finds them. -/
structure AmmAdapters (Ledger : Type) extends IntegrationRegistry where
  ammAdapter : Address → AmmAdapter Ledger

/-- `ActionInfo`. -/
structure LiquidityActionInfo (Ledger : Type) where
  totalSupply : Nat
  ammAdapter : AmmAdapter Ledger
  liquidityToken : Address
  preActionLiquidityTokenBalance : Nat
  preActionComponentBalances : List Nat
  liquidityQuantity : Nat
  totalNotionalComponents : List Nat
  componentUnits : List Nat
  components : List Address

/-- The changes of the balances, as an event reports them. -/
structure LiquidityChange where
  ammPool : Address
  ammPoolBalancesDelta : Int
  components : List Address
  componentBalancesDelta : List Int

/-- The module keeps no storage of its own. -/
structure AmmModule where
  address : Address

namespace AmmModule

variable {Ledger : Type}

/-! ### The action -/

def getActionInfo (module : AmmModule) (adapters : AmmAdapters Ledger) (ammName : String)
    (ammPool : Address) (components : List Address) (componentUnits : List Nat)
    (poolTokenInPositionUnit : Nat) (world : World) : Outcome (LiquidityActionInfo Ledger) := do
  let totalSupply := world.setToken.totalSupply
  let adapter ← ModuleBase.getAndValidateAdapter module.address adapters.toIntegrationRegistry
    ammName
  let liquidityQuantity ← Position.getDefaultTotalNotional totalSupply poolTokenInPositionUnit
  let totalNotionalComponents ←
    componentUnits.mapM (Position.getDefaultTotalNotional totalSupply)
  pure {
    totalSupply := totalSupply
    ammAdapter := adapters.ammAdapter adapter
    liquidityToken := ammPool
    preActionLiquidityTokenBalance := world.held ammPool
    preActionComponentBalances := components.map world.held
    liquidityQuantity := liquidityQuantity
    totalNotionalComponents := totalNotionalComponents
    componentUnits := componentUnits
    components := components }

def getActionInfoSingleAsset (module : AmmModule) (adapters : AmmAdapters Ledger)
    (ammName : String) (ammPool component : Address) (positionUnitToPool poolToken : Nat)
    (world : World) : Outcome (LiquidityActionInfo Ledger) :=
  module.getActionInfo adapters ammName ammPool [component] [positionUnitToPool] poolToken world

/-! ### Validation -/

def validateCommon (actionInfo : LiquidityActionInfo Ledger) (execution : Execution Ledger) :
    Outcome Unit := do
  require (actionInfo.componentUnits.length = actionInfo.components.length)
    "Components and units must be equal length"
  require (0 < actionInfo.liquidityQuantity) "Token quantity must be nonzero"
  let isValidPool ← actionInfo.ammAdapter.isValidPool actionInfo.liquidityToken
    actionInfo.components execution.world execution.ledger
  require (isValidPool = true) "Pool token must be enabled on the Adapter"

def validateAddLiquidity (actionInfo : LiquidityActionInfo Ledger) (execution : Execution Ledger) :
    Outcome Unit := do
  validateCommon actionInfo execution
  (actionInfo.components.zip actionInfo.componentUnits).forM fun (component, unit) => do
    let sufficient ←
      Position.hasSufficientDefaultUnits execution.world.setToken component unit
    require (sufficient = true) "Unit cant be greater than positions owned"

/-- The last check of `_validateRemoveLiquidity`: the quantity is compared with a unit. -/
def requireLiquidityToken (setToken : SetToken) (liquidityToken : Address)
    (liquidityQuantity : Nat) : Outcome Unit := do
  let sufficient ←
    Position.hasSufficientDefaultUnits setToken liquidityToken liquidityQuantity
  require (sufficient = true) "SetToken must own enough liquidity token"

def validateRemoveLiquidity (actionInfo : LiquidityActionInfo Ledger)
    (execution : Execution Ledger) : Outcome Unit := do
  validateCommon actionInfo execution
  actionInfo.componentUnits.forM fun unit =>
    require (0 < unit) "Component quantity must be nonzero"
  requireLiquidityToken execution.world.setToken actionInfo.liquidityToken
    actionInfo.liquidityQuantity

def validateMinimumLiquidityReceived (actionInfo : LiquidityActionInfo Ledger) (world : World) :
    Outcome Unit := do
  let expected ← SafeMath.add actionInfo.liquidityQuantity
    actionInfo.preActionLiquidityTokenBalance
  require (expected ≤ world.held actionInfo.liquidityToken)
    "Liquidity tokens received must be greater than minimum specified"

def validateMinimumUnderlyingReceived (actionInfo : LiquidityActionInfo Ledger) (world : World) :
    Outcome Unit :=
  (actionInfo.components.zip
    (actionInfo.totalNotionalComponents.zip actionInfo.preActionComponentBalances)).forM
      fun (component, notional, preActionBalance) => do
        let expected ← SafeMath.add notional preActionBalance
        require (expected ≤ world.held component)
          "Underlying tokens received must be greater than minimum specified"

/-! ### Execution -/

/-- Call the pool with the call data of the adapter, after the approvals. -/
def invokePool (module : AmmModule) (protocols : Protocols Ledger)
    (callData : Outcome (Address × Nat × Bytes))
    (approve : Execution Ledger → Outcome (Execution Ledger)) (execution : Execution Ledger) :
    Outcome (Execution Ledger) := do
  let (targetAmm, callValue, methodData) ← callData
  let approved ← approve execution
  approved.invokeUnchecked protocols module.address ⟨targetAmm, callValue, .raw methodData⟩

def executeComponentApprovals (module : AmmModule) (actionInfo : LiquidityActionInfo Ledger)
    (execution : Execution Ledger) : Outcome (Execution Ledger) := do
  let spender := actionInfo.ammAdapter.getSpenderAddress actionInfo.liquidityToken
  (actionInfo.components.zip actionInfo.totalNotionalComponents).foldlM
    (fun approved (component, notional) =>
      approved.invokeApprove module.address component spender notional) execution

def executeLiquidityApproval (module : AmmModule) (actionInfo : LiquidityActionInfo Ledger)
    (execution : Execution Ledger) : Outcome (Execution Ledger) :=
  execution.invokeApprove module.address actionInfo.liquidityToken
    (actionInfo.ammAdapter.getSpenderAddress actionInfo.liquidityToken)
    actionInfo.liquidityQuantity

def executeAddLiquidity (module : AmmModule) (protocols : Protocols Ledger)
    (actionInfo : LiquidityActionInfo Ledger) (execution : Execution Ledger) :
    Outcome (Execution Ledger) :=
  module.invokePool protocols
    (actionInfo.ammAdapter.getProvideLiquidityCalldata execution.world.setToken.address
      actionInfo.liquidityToken actionInfo.components actionInfo.totalNotionalComponents
      actionInfo.liquidityQuantity execution.world execution.ledger)
    (module.executeComponentApprovals actionInfo) execution

def executeAddLiquiditySingleAsset (module : AmmModule) (protocols : Protocols Ledger)
    (actionInfo : LiquidityActionInfo Ledger) (execution : Execution Ledger) :
    Outcome (Execution Ledger) := do
  let component ← readAt actionInfo.components 0
  let notional ← readAt actionInfo.totalNotionalComponents 0
  module.invokePool protocols
    (actionInfo.ammAdapter.getProvideLiquiditySingleAssetCalldata
      execution.world.setToken.address actionInfo.liquidityToken component notional
      actionInfo.liquidityQuantity execution.world execution.ledger)
    (module.executeComponentApprovals actionInfo) execution

def executeRemoveLiquidity (module : AmmModule) (protocols : Protocols Ledger)
    (actionInfo : LiquidityActionInfo Ledger) (execution : Execution Ledger) :
    Outcome (Execution Ledger) :=
  module.invokePool protocols
    (actionInfo.ammAdapter.getRemoveLiquidityCalldata execution.world.setToken.address
      actionInfo.liquidityToken actionInfo.components actionInfo.totalNotionalComponents
      actionInfo.liquidityQuantity execution.world execution.ledger)
    (module.executeLiquidityApproval actionInfo) execution

def executeRemoveLiquiditySingleAsset (module : AmmModule) (protocols : Protocols Ledger)
    (actionInfo : LiquidityActionInfo Ledger) (execution : Execution Ledger) :
    Outcome (Execution Ledger) := do
  let component ← readAt actionInfo.components 0
  let notional ← readAt actionInfo.totalNotionalComponents 0
  module.invokePool protocols
    (actionInfo.ammAdapter.getRemoveLiquiditySingleAssetCalldata
      execution.world.setToken.address actionInfo.liquidityToken component notional
      actionInfo.liquidityQuantity execution.world execution.ledger)
    (module.executeLiquidityApproval actionInfo) execution

/-! ### Positions -/

/-- The change of a balance, in the range of the signed integers. -/
def balanceDelta (currentBalance preActionBalance : Nat) : Outcome Int := do
  let current ← SafeCast.toInt256 currentBalance
  let previous ← SafeCast.toInt256 preActionBalance
  SignedSafeMath.sub current previous

def updateComponentPositions (module : AmmModule) (actionInfo : LiquidityActionInfo Ledger)
    (world : World) : Outcome (World × List Int) :=
  (actionInfo.components.zip actionInfo.preActionComponentBalances).foldlM
    (fun (updated, deltas) (component, preActionBalance) => do
      let (edited, currentBalance, _) ← World.calculateAndEditDefaultPosition module.address
        component actionInfo.totalSupply preActionBalance updated
      let delta ← balanceDelta currentBalance preActionBalance
      pure (edited, deltas ++ [delta])) (world, [])

def updateLiquidityTokenPositions (module : AmmModule) (actionInfo : LiquidityActionInfo Ledger)
    (world : World) : Outcome (World × Int) := do
  let (edited, currentBalance, _) ← World.calculateAndEditDefaultPosition module.address
    actionInfo.liquidityToken actionInfo.totalSupply actionInfo.preActionLiquidityTokenBalance
    world
  let delta ← balanceDelta currentBalance actionInfo.preActionLiquidityTokenBalance
  pure (edited, delta)

/-! ### Adding and removing -/

/-- What both functions that add liquidity do with an action. The components are updated before
the liquidity token. -/
def performAdd (module : AmmModule)
    (execute : LiquidityActionInfo Ledger → Execution Ledger → Outcome (Execution Ledger))
    (actionInfo : LiquidityActionInfo Ledger) (execution : Execution Ledger) :
    Outcome (Execution Ledger × LiquidityChange) := do
  validateAddLiquidity actionInfo execution
  let added ← execute actionInfo execution
  validateMinimumLiquidityReceived actionInfo added.world
  let (updated, componentsDelta) ← module.updateComponentPositions actionInfo added.world
  let (settled, liquidityTokenDelta) ← module.updateLiquidityTokenPositions actionInfo updated
  pure ({ added with world := settled },
    ⟨actionInfo.liquidityToken, liquidityTokenDelta, actionInfo.components, componentsDelta⟩)

/-- What both functions that remove liquidity do with an action. The liquidity token is updated
before the components. -/
def performRemove (module : AmmModule)
    (execute : LiquidityActionInfo Ledger → Execution Ledger → Outcome (Execution Ledger))
    (actionInfo : LiquidityActionInfo Ledger) (execution : Execution Ledger) :
    Outcome (Execution Ledger × LiquidityChange) := do
  validateRemoveLiquidity actionInfo execution
  let removed ← execute actionInfo execution
  validateMinimumUnderlyingReceived actionInfo removed.world
  let (updated, liquidityTokenDelta) ←
    module.updateLiquidityTokenPositions actionInfo removed.world
  let (settled, componentsDelta) ← module.updateComponentPositions actionInfo updated
  pure ({ removed with world := settled },
    ⟨actionInfo.liquidityToken, liquidityTokenDelta, actionInfo.components, componentsDelta⟩)

section Functions

variable (module : AmmModule) (protocols : Protocols Ledger) (adapters : AmmAdapters Ledger)
  (msgSender : Address) (ammName : String) (ammPool : Address)

def addLiquidity (minPoolTokenPositionUnit : Nat) (components : List Address)
    (maxComponentUnits : List Nat) (execution : Execution Ledger) :
    Outcome (Execution Ledger × LiquidityChange) := do
  ModuleBase.validateOnlyManagerAndValidSet module.address msgSender execution.world
  let actionInfo ← module.getActionInfo adapters ammName ammPool components maxComponentUnits
    minPoolTokenPositionUnit execution.world
  module.performAdd (module.executeAddLiquidity protocols) actionInfo execution

def addLiquiditySingleAsset (minPoolTokenPositionUnit : Nat) (component : Address)
    (maxComponentUnit : Nat) (execution : Execution Ledger) :
    Outcome (Execution Ledger × LiquidityChange) := do
  ModuleBase.validateOnlyManagerAndValidSet module.address msgSender execution.world
  let actionInfo ← module.getActionInfoSingleAsset adapters ammName ammPool component
    maxComponentUnit minPoolTokenPositionUnit execution.world
  module.performAdd (module.executeAddLiquiditySingleAsset protocols) actionInfo execution

def removeLiquidity (poolTokenPositionUnits : Nat) (components : List Address)
    (minComponentUnitsReceived : List Nat) (execution : Execution Ledger) :
    Outcome (Execution Ledger × LiquidityChange) := do
  ModuleBase.validateOnlyManagerAndValidSet module.address msgSender execution.world
  let actionInfo ← module.getActionInfo adapters ammName ammPool components
    minComponentUnitsReceived poolTokenPositionUnits execution.world
  module.performRemove (module.executeRemoveLiquidity protocols) actionInfo execution

def removeLiquiditySingleAsset (poolTokenPositionUnits : Nat) (component : Address)
    (minComponentUnitsReceived : Nat) (execution : Execution Ledger) :
    Outcome (Execution Ledger × LiquidityChange) := do
  ModuleBase.validateOnlyManagerAndValidSet module.address msgSender execution.world
  let actionInfo ← module.getActionInfoSingleAsset adapters ammName ammPool component
    minComponentUnitsReceived poolTokenPositionUnits execution.world
  module.performRemove (module.executeRemoveLiquiditySingleAsset protocols) actionInfo execution

/-- The module's `initialize`, called by the manager. -/
def initializeSet (world : World) : Outcome World := do
  ModuleBase.validateOnlySetManager msgSender world
  ModuleBase.validateOnlyValidAndPendingSet module.address world
  world.callSetToken (SetToken.initializeModule ⟨world.controller, module.address⟩)

end Functions

end AmmModule

end IndexProtocol

/-
This file models the storage of the general index module and the functions that
decide who may trade: the manager permits traders one by one or lets anyone
trade, and a history of the permitted traders is kept so that the permissions
can be cleared when the module is removed. The functions are those of the
auction module under other names; adding the module also resets the time of the
last trade of every component.
-/

import IndexProtocol.Protocol.ModuleBase

namespace IndexProtocol

open Revert

/-! ### Storage -/

structure TradeExecutionParams where
  targetUnit : Nat
  maxSize : Nat
  coolOffPeriod : Nat
  lastTradeTimestamp : Nat
  exchangeName : String
  exchangeData : Bytes

structure TradePermissionInfo where
  anyoneTrade : Bool
  tradersHistory : List Address
  tradeAllowList : Address → Bool

structure IndexRebalanceInfo where
  positionMultiplier : Nat
  raiseTargetPercentage : Nat
  rebalanceComponents : List Address

/-- The module's storage for one Set. -/
structure GeneralIndexModule where
  address : Address
  executionInfo : Address → TradeExecutionParams
  permissionInfo : TradePermissionInfo
  rebalanceInfo : IndexRebalanceInfo

namespace GeneralIndexModule

/-- The storage of a freshly deployed module. -/
def deployed (address : Address) : GeneralIndexModule where
  address := address
  executionInfo := fun _ =>
    { targetUnit := 0, maxSize := 0, coolOffPeriod := 0, lastTradeTimestamp := 0,
      exchangeName := "", exchangeData := [] }
  permissionInfo :=
    { anyoneTrade := false, tradersHistory := [], tradeAllowList := fun _ => false }
  rebalanceInfo :=
    { positionMultiplier := 0, raiseTargetPercentage := 0, rebalanceComponents := [] }

/-! ### Permissions -/

def isAllowedTrader (module : GeneralIndexModule) (trader : Address) : Bool :=
  module.permissionInfo.anyoneTrade || module.permissionInfo.tradeAllowList trader

def validateOnlyAllowedTrader (module : GeneralIndexModule) (caller : Address) : Outcome Unit :=
  require (module.isAllowedTrader caller = true) "Address not permitted to trade"

def updateTradersHistory (tradersHistory : List Address) (trader : Address) (status : Bool) :
    Outcome (List Address) :=
  if status = true ∧ AddressArrayUtils.contains tradersHistory trader = false then
    pure (tradersHistory ++ [trader])
  else if status = false ∧ AddressArrayUtils.contains tradersHistory trader = true then
    AddressArrayUtils.removeStorage tradersHistory trader
  else pure tradersHistory

/-- Record the status of one trader. -/
def updateTrader (permissionInfo : TradePermissionInfo) (entry : Address × Bool) :
    Outcome TradePermissionInfo := do
  let tradersHistory ← updateTradersHistory permissionInfo.tradersHistory entry.1 entry.2
  pure { permissionInfo with
    tradersHistory := tradersHistory
    tradeAllowList := Function.update permissionInfo.tradeAllowList entry.1 entry.2 }

def setTraderStatus (module : GeneralIndexModule) (msgSender : Address)
    (traders : List Address) (statuses : List Bool) (world : World) :
    Outcome GeneralIndexModule := do
  ModuleBase.validateOnlyManagerAndValidSet module.address msgSender world
  AddressArrayUtils.validatePairsWithArray traders statuses
  let permissionInfo ← (traders.zip statuses).foldlM updateTrader module.permissionInfo
  pure { module with permissionInfo := permissionInfo }

def setAnyoneTrade (module : GeneralIndexModule) (msgSender : Address) (status : Bool)
    (world : World) : Outcome GeneralIndexModule := do
  ModuleBase.validateOnlyManagerAndValidSet module.address msgSender world
  pure { module with permissionInfo := { module.permissionInfo with anyoneTrade := status } }

/-! ### Adding and removing the module -/

/-- Record the unit of one position as its target, and that it has not been traded. -/
def setInitialTarget (executionInfo : Address → TradeExecutionParams)
    (position : PositionEntry) : Outcome (Address → TradeExecutionParams) := do
  require (position.positionState = 0) "External positions not allowed"
  let unit ← SafeCast.toUint256 position.unit
  pure (Function.update executionInfo position.component
    { executionInfo position.component with targetUnit := unit, lastTradeTimestamp := 0 })

/-- The module's `initialize`, called by the manager. -/
def initializeSet (module : GeneralIndexModule) (msgSender : Address) (world : World) :
    Outcome (GeneralIndexModule × World) := do
  ModuleBase.validateOnlySetManager msgSender world
  ModuleBase.validateOnlyValidAndPendingSet module.address world
  let positions ← world.setToken.getPositions
  let executionInfo ← positions.foldlM setInitialTarget module.executionInfo
  let positionMultiplier ← SafeCast.toUint256 world.setToken.positionMultiplier
  let initialized ← world.callSetToken
    (SetToken.initializeModule ⟨world.controller, module.address⟩)
  pure ({ module with
    executionInfo := executionInfo
    rebalanceInfo := { module.rebalanceInfo with
      positionMultiplier := positionMultiplier } }, initialized)

/-- The traders in the history lose their permission one by one; the execution info stays. -/
def removeModule (module : GeneralIndexModule) : GeneralIndexModule :=
  { module with
    rebalanceInfo :=
      { positionMultiplier := 0, raiseTargetPercentage := 0, rebalanceComponents := [] }
    permissionInfo :=
      { anyoneTrade := false
        tradersHistory := []
        tradeAllowList := module.permissionInfo.tradersHistory.foldl
          (fun tradeAllowList trader => Function.update tradeAllowList trader false)
          module.permissionInfo.tradeAllowList } }

end GeneralIndexModule

end IndexProtocol

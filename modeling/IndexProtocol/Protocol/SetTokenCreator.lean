/-
This file models the factory of Set tokens: the checks on the initial
components, units, modules and manager, the construction of the token, and its
registration with the controller.
-/

import IndexProtocol.Protocol.SetToken

namespace IndexProtocol

open Revert

namespace SetToken

/-- The positions of a fresh contract. -/
def emptyPositions (_ : Address) : ComponentPosition where
  virtualUnit := 0
  externalPositionModules := []
  externalPositions := fun _ => ⟨0, []⟩

def storeUnit (positions : Address → ComponentPosition) (entry : Address × Int) :
    Address → ComponentPosition :=
  Function.update positions entry.1 { positions entry.1 with virtualUnit := entry.2 }

/-- The constructor: default positions at the given units, the modules pending, and a
position multiplier of one. -/
def construct (address : Address) (components : List Address) (units : List Int)
    (modules : List Address) (manager : Address) : SetToken where
  totalSupply := 0
  balanceOf := fun _ => 0
  allowance := fun _ _ => 0
  address := address
  manager := manager
  locker := 0
  modules := []
  moduleStates := modules.foldl (fun states module => Function.update states module .pending)
    fun _ => .none
  isLocked := false
  components := components
  componentPositions := (components.zip units).foldl storeUnit emptyPositions
  positionMultiplier := preciseUnit

end SetToken

namespace SetTokenCreator

/-- `creator` is the factory's own address and `setToken` the address of the new contract. -/
def create (creator setToken : Address) (components : List Address) (units : List Int)
    (modules : List Address) (manager : Address) (controller : Controller) :
    Outcome (SetToken × Controller) := do
  require (0 < components.length) "Must have at least 1 component"
  require (components.length = units.length) "Component and unit lengths must be the same"
  let duplicate ← AddressArrayUtils.hasDuplicate components
  require (duplicate = false) "Components must not have a duplicate"
  require (0 < modules.length) "Must have at least 1 module"
  require (manager ≠ 0) "Manager must not be empty"
  (components.zip units).forM fun entry => do
    require (entry.1 ≠ 0) "Component must not be null address"
    require (0 < entry.2) "Units must be greater than 0"
  modules.forM fun module =>
    require (controller.isModule module = true) "Must be enabled module"
  let registered ← controller.addSet creator setToken
  pure (SetToken.construct setToken components units modules manager, registered)

end SetTokenCreator

end IndexProtocol

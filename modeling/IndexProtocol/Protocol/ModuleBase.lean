/-
This file models what the modules of a Set share: the checks on the caller and
on the state of the module in the Set, the lookup of an adapter, and the
protocol fee.
-/

import IndexProtocol.Protocol.World

namespace IndexProtocol

open Revert PreciseUnitMath

/-- The price adapter contract that an auction consults. -/
structure PriceAdapter where
  isPriceAdapterConfigDataValid : Bytes → Bool
  /-- The Set token, the component, its quantity, the time elapsed, the duration and the
  configuration. -/
  getPrice : Address → Address → Nat → Nat → Nat → Bytes → Outcome Nat

/-- The integration registry, by module and integration name. It is keyed by the hash of the
name, taken to identify the name. -/
structure IntegrationRegistry where
  getIntegrationAdapter : Address → String → Address

/-- The integration registry and the adapter contracts as one call finds them. -/
structure Adapters extends IntegrationRegistry where
  priceAdapter : Address → PriceAdapter

namespace ModuleBase

/-! ### Checks -/

def isSetManager (world : World) (toCheck : Address) : Bool :=
  decide (world.setToken.manager = toCheck)

def isSetPendingInitialization (module : Address) (world : World) : Bool :=
  decide (world.setToken.moduleStates module = .pending)

def isSetValidAndInitialized (module : Address) (world : World) : Bool :=
  world.controller.isSet world.setToken.address &&
    decide (world.setToken.moduleStates module = .initialized)

def validateOnlySetManager (caller : Address) (world : World) : Outcome Unit :=
  require (isSetManager world caller = true) "Must be the SetToken manager"

def validateOnlyValidAndInitializedSet (module : Address) (world : World) : Outcome Unit :=
  require (isSetValidAndInitialized module world = true)
    "Must be a valid and initialized SetToken"

def validateOnlyModule (msgSender : Address) (world : World) : Outcome Unit :=
  world.setToken.validateOnlyModule ⟨world.controller, msgSender⟩

def validateOnlyManagerAndValidSet (module msgSender : Address) (world : World) :
    Outcome Unit := do
  validateOnlySetManager msgSender world
  validateOnlyValidAndInitializedSet module world

def validateOnlyValidAndPendingSet (module : Address) (world : World) : Outcome Unit := do
  require (world.controller.isSet world.setToken.address = true)
    "Must be controller-enabled SetToken"
  require (isSetPendingInitialization module world = true) "Must be pending initialization"

/-! ### Adapters and fees -/

def getAndValidateAdapter (module : Address) (registry : IntegrationRegistry)
    (integrationName : String) : Outcome Address := do
  let adapter := registry.getIntegrationAdapter module integrationName
  require (adapter ≠ 0) "Must be valid adapter"
  pure adapter

def getModuleFee (module : Address) (feeIndex quantity : Nat) (world : World) : Outcome Nat :=
  preciseMul quantity (world.controller.getModuleFee module feeIndex)

def payProtocolFeeFromSetToken (module token : Address) (feeQuantity : Nat) (world : World) :
    Outcome World :=
  if 0 < feeQuantity then
    world.strictInvokeTransfer module token world.controller.feeRecipient feeQuantity
  else pure world

/-! ### The checks and the fee, inverted -/

section Inversion

variable {module msgSender caller token : Address} {world next : World} {quantity : Nat}
  (done : Unit)

@[simp] theorem validateOnlySetManager_eq_ok :
    validateOnlySetManager caller world = .ok done ↔ world.setToken.manager = caller := by
  simp only [validateOnlySetManager, isSetManager, require_eq_ok, decide_eq_true_eq]

@[simp] theorem validateOnlyValidAndInitializedSet_eq_ok :
    validateOnlyValidAndInitializedSet module world = .ok done ↔
      world.controller.isSet world.setToken.address = true ∧
        world.setToken.moduleStates module = .initialized := by
  simp only [validateOnlyValidAndInitializedSet, isSetValidAndInitialized, require_eq_ok,
    Bool.and_eq_true, decide_eq_true_eq]

@[simp] theorem validateOnlyManagerAndValidSet_eq_ok :
    validateOnlyManagerAndValidSet module msgSender world = .ok done ↔
      world.setToken.manager = msgSender ∧
        world.controller.isSet world.setToken.address = true ∧
          world.setToken.moduleStates module = .initialized := by
  simp only [validateOnlyManagerAndValidSet, bind_eq_ok, exists_const,
    validateOnlySetManager_eq_ok, validateOnlyValidAndInitializedSet_eq_ok]

/-- What the manager may do, the manager does with a module that is part of the Set. -/
theorem active_of_valid {done : Unit}
    (valid : validateOnlyManagerAndValidSet module msgSender world = .ok done) :
    world.setToken.moduleStates module = .initialized :=
  ((validateOnlyManagerAndValidSet_eq_ok done).mp valid).2.2

@[simp] theorem validateOnlyValidAndPendingSet_eq_ok :
    validateOnlyValidAndPendingSet module world = .ok done ↔
      world.controller.isSet world.setToken.address = true ∧
        world.setToken.moduleStates module = .pending := by
  simp only [validateOnlyValidAndPendingSet, bind_eq_ok, exists_const, require_eq_ok,
    isSetPendingInitialization, decide_eq_true_eq]

/-- A protocol fee that is paid leaves the Set. -/
theorem payProtocolFeeFromSetToken_eq_ok
    (returned : payProtocolFeeFromSetToken module token quantity world = .ok next) :
    World.OnlyBalances world next ∧ quantity ≤ world.held token ∧
      next.held = Function.update world.held token (world.held token - quantity) := by
  unfold payProtocolFeeFromSetToken at returned
  split at returned
  · exact World.strictInvokeTransfer_eq_ok returned
  · rename_i zero
    obtain rfl := (pure_eq_ok _ _).mp returned
    rw [Nat.eq_zero_of_not_pos zero, Nat.sub_zero, Function.update_eq_self]
    exact ⟨World.OnlyBalances.refl _, Nat.zero_le _, rfl⟩

end Inversion

end ModuleBase

end IndexProtocol

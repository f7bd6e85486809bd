/-
This file models the Set token: an ERC20 whose positions are stored as virtual
units, read back as real units through the position multiplier, and edited by
the modules the manager has added. Every entry point carries the guards of the
contract: the caller must be an initialized module that the controller has
enabled and, while the Set is locked, the locker.
-/

import IndexProtocol.Lib.AddressArrayUtils
import IndexProtocol.Lib.ERC20
import IndexProtocol.Lib.PreciseUnitMath
import IndexProtocol.Protocol.Controller

namespace IndexProtocol

open Revert PreciseUnitMath

/-! ### Storage -/

inductive ModuleState
  | none
  | pending
  | initialized
  deriving DecidableEq

structure ExternalPosition where
  virtualUnit : Int
  data : Bytes

structure ComponentPosition where
  virtualUnit : Int
  externalPositionModules : List Address
  externalPositions : Address → ExternalPosition

structure SetToken extends ERC20 where
  address : Address
  manager : Address
  locker : Address
  modules : List Address
  moduleStates : Address → ModuleState
  isLocked : Bool
  components : List Address
  componentPositions : Address → ComponentPosition
  positionMultiplier : Int

/-- A call as the Set token sees it: the controller it consults and the sender. -/
structure Call where
  controller : Controller
  sender : Address

/-- An entry of `getPositions`. The position state is 0 for a default position and 1 for an
external one. -/
structure PositionEntry where
  component : Address
  module : Address
  unit : Int
  positionState : Nat
  data : Bytes
  deriving DecidableEq

namespace SetToken

/-! ### Guards -/

def validateOnlyModule (setToken : SetToken) (call : Call) : Outcome Unit := do
  require (setToken.moduleStates call.sender = .initialized) "Only the module can call"
  require (call.controller.isModule call.sender = true) "Module must be enabled on controller"

def validateOnlyManager (setToken : SetToken) (call : Call) : Outcome Unit :=
  require (call.sender = setToken.manager) "Only manager can call"

def validateWhenLockedOnlyLocker (setToken : SetToken) (call : Call) : Outcome Unit :=
  if setToken.isLocked = true then
    require (call.sender = setToken.locker) "When locked, only the locker can call"
  else pure ()

/-- The modifiers `onlyModule whenLockedOnlyLocker` of the privileged functions. -/
def validatePrivileged (setToken : SetToken) (call : Call) : Outcome Unit := do
  setToken.validateOnlyModule call
  setToken.validateWhenLockedOnlyLocker call

section Guards

variable (setToken : SetToken) (call : Call) (done : Unit)

@[simp] theorem validateOnlyModule_eq_ok :
    setToken.validateOnlyModule call = .ok done ↔
      setToken.moduleStates call.sender = .initialized ∧
        call.controller.isModule call.sender = true := by
  simp only [validateOnlyModule, bind_eq_ok, require_eq_ok, exists_const]

@[simp] theorem validateOnlyManager_eq_ok :
    setToken.validateOnlyManager call = .ok done ↔ call.sender = setToken.manager := by
  simp only [validateOnlyManager, require_eq_ok]

/-- The sender may call the privileged functions: it is an initialized and enabled module and,
if the Set is locked, the locker. -/
def Privileged : Prop :=
  (setToken.moduleStates call.sender = .initialized ∧
    call.controller.isModule call.sender = true) ∧
  (setToken.isLocked = true → call.sender = setToken.locker)

@[simp] theorem validatePrivileged_eq_ok :
    setToken.validatePrivileged call = .ok done ↔ setToken.Privileged call := by
  simp only [validatePrivileged, bind_eq_ok, validateOnlyModule_eq_ok, exists_const,
    validateWhenLockedOnlyLocker, Privileged, and_congr_right_iff]
  intro _
  split
  · rename_i locked
    simp [locked]
  · rename_i unlocked
    simp [unlocked]

end Guards

/-! ### Units -/

def defaultPositionVirtualUnit (setToken : SetToken) (component : Address) : Int :=
  (setToken.componentPositions component).virtualUnit

def externalPositionModules (setToken : SetToken) (component : Address) : List Address :=
  (setToken.componentPositions component).externalPositionModules

def externalPositionVirtualUnit (setToken : SetToken) (component module : Address) : Int :=
  ((setToken.componentPositions component).externalPositions module).virtualUnit

def externalPositionData (setToken : SetToken) (component module : Address) : Bytes :=
  ((setToken.componentPositions component).externalPositions module).data

def convertVirtualToRealUnit (setToken : SetToken) (virtualUnit : Int) : Outcome Int :=
  conservativePreciseMul virtualUnit setToken.positionMultiplier

def convertRealToVirtualUnit (setToken : SetToken) (realUnit : Int) : Outcome Int := do
  let virtualUnit ← conservativePreciseDiv realUnit setToken.positionMultiplier
  require (¬(0 < realUnit ∧ virtualUnit = 0)) "Real to Virtual unit conversion invalid"
  if 0 < realUnit then do
    let restored ← setToken.convertVirtualToRealUnit virtualUnit
    require (restored ≠ 0) "Virtual to Real unit conversion invalid"
    pure virtualUnit
  else pure virtualUnit

def getDefaultPositionRealUnit (setToken : SetToken) (component : Address) : Outcome Int :=
  setToken.convertVirtualToRealUnit (setToken.defaultPositionVirtualUnit component)

def getExternalPositionRealUnit (setToken : SetToken) (component module : Address) :
    Outcome Int :=
  setToken.convertVirtualToRealUnit (setToken.externalPositionVirtualUnit component module)

def isComponent (setToken : SetToken) (component : Address) : Bool :=
  AddressArrayUtils.contains setToken.components component

def isExternalPositionModule (setToken : SetToken) (component module : Address) : Bool :=
  AddressArrayUtils.contains (setToken.externalPositionModules component) module

/-! ### Privileged module functions -/

/-- Replace the stored position of one component. -/
def editComponent (setToken : SetToken) (component : Address)
    (edit : ComponentPosition → ComponentPosition) : SetToken :=
  { setToken with
    componentPositions := Function.update setToken.componentPositions component
      (edit (setToken.componentPositions component)) }

def addComponent (call : Call) (component : Address) (setToken : SetToken) :
    Outcome SetToken := do
  setToken.validatePrivileged call
  require (setToken.isComponent component = false) "Must not be component"
  pure { setToken with components := setToken.components ++ [component] }

def removeComponent (call : Call) (component : Address) (setToken : SetToken) :
    Outcome SetToken := do
  setToken.validatePrivileged call
  let components ← AddressArrayUtils.removeStorage setToken.components component
  pure { setToken with components := components }

def editDefaultPositionUnit (call : Call) (component : Address) (realUnit : Int)
    (setToken : SetToken) : Outcome SetToken := do
  setToken.validatePrivileged call
  let virtualUnit ← setToken.convertRealToVirtualUnit realUnit
  pure (setToken.editComponent component fun position =>
    { position with virtualUnit := virtualUnit })

def addExternalPositionModule (call : Call) (component module : Address)
    (setToken : SetToken) : Outcome SetToken := do
  setToken.validatePrivileged call
  require (setToken.isExternalPositionModule component module = false) "Module already added"
  pure (setToken.editComponent component fun position =>
    { position with externalPositionModules := position.externalPositionModules ++ [module] })

def removeExternalPositionModule (call : Call) (component module : Address)
    (setToken : SetToken) : Outcome SetToken := do
  setToken.validatePrivileged call
  let modules ←
    AddressArrayUtils.removeStorage (setToken.externalPositionModules component) module
  pure (setToken.editComponent component fun position =>
    { position with
      externalPositionModules := modules
      externalPositions := Function.update position.externalPositions module ⟨0, []⟩ })

def editExternalPositionUnit (call : Call) (component module : Address) (realUnit : Int)
    (setToken : SetToken) : Outcome SetToken := do
  setToken.validatePrivileged call
  let virtualUnit ← setToken.convertRealToVirtualUnit realUnit
  pure (setToken.editComponent component fun position =>
    { position with
      externalPositions := Function.update position.externalPositions module
        { position.externalPositions module with virtualUnit := virtualUnit } })

def editExternalPositionData (call : Call) (component module : Address) (data : Bytes)
    (setToken : SetToken) : Outcome SetToken := do
  setToken.validatePrivileged call
  pure (setToken.editComponent component fun position =>
    { position with
      externalPositions := Function.update position.externalPositions module
        { position.externalPositions module with data := data } })

/-! ### The position multiplier -/

/-- Negation of an `int256`, which wraps at the smallest value. -/
def negate (a : Int) : Int := if a = -2 ^ 255 then a else -a

def absoluteValue (a : Int) : Outcome Nat :=
  if 0 ≤ a then SafeCast.toUint256 a else SafeCast.toUint256 (negate a)

/-- The smaller of the current minimum and a nonzero unit. -/
def lowerMinimum (minimumUnit unit : Nat) : Nat :=
  if 0 < unit ∧ unit < minimumUnit then unit else minimumUnit

def lowerByExternal (setToken : SetToken) (component : Address) (minimumUnit : Nat)
    (module : Address) : Outcome Nat := do
  let virtualUnit ← absoluteValue (setToken.externalPositionVirtualUnit component module)
  pure (lowerMinimum minimumUnit virtualUnit)

def lowerByComponent (setToken : SetToken) (minimumUnit : Nat) (component : Address) :
    Outcome Nat := do
  let defaultUnit ← SafeCast.toUint256 (setToken.defaultPositionVirtualUnit component)
  (setToken.externalPositionModules component).foldlM (setToken.lowerByExternal component)
    (lowerMinimum minimumUnit defaultUnit)

def getPositionsAbsMinimumVirtualUnit (setToken : SetToken) : Outcome Int := do
  let minimumUnit ← setToken.components.foldlM setToken.lowerByComponent (2 ^ 256 - 1)
  SafeCast.toInt256 minimumUnit

def validateNewMultiplier (setToken : SetToken) (newMultiplier : Int) : Outcome Unit := do
  let minVirtualUnit ← setToken.getPositionsAbsMinimumVirtualUnit
  let minRealUnit ← conservativePreciseMul minVirtualUnit newMultiplier
  require (0 < minRealUnit) "New multiplier too small"

def editPositionMultiplier (call : Call) (newMultiplier : Int) (setToken : SetToken) :
    Outcome SetToken := do
  setToken.validatePrivileged call
  setToken.validateNewMultiplier newMultiplier
  pure { setToken with positionMultiplier := newMultiplier }

/-! ### Supply, locking and modules -/

def mint (call : Call) (account : Address) (quantity : Nat) (setToken : SetToken) :
    Outcome SetToken := do
  setToken.validatePrivileged call
  let token ← setToken.toERC20.mint account quantity
  pure { setToken with toERC20 := token }

def burn (call : Call) (account : Address) (quantity : Nat) (setToken : SetToken) :
    Outcome SetToken := do
  setToken.validatePrivileged call
  let token ← setToken.toERC20.burn account quantity
  pure { setToken with toERC20 := token }

def lock (call : Call) (setToken : SetToken) : Outcome SetToken := do
  setToken.validateOnlyModule call
  require (setToken.isLocked = false) "Must not be locked"
  pure { setToken with locker := call.sender, isLocked := true }

def unlock (call : Call) (setToken : SetToken) : Outcome SetToken := do
  setToken.validateOnlyModule call
  require (setToken.isLocked = true) "Must be locked"
  require (setToken.locker = call.sender) "Must be locker"
  pure { setToken with locker := 0, isLocked := false }

def addModule (call : Call) (module : Address) (setToken : SetToken) : Outcome SetToken := do
  setToken.validateOnlyManager call
  require (setToken.moduleStates module = .none) "Module must not be added"
  require (call.controller.isModule module = true) "Must be enabled on Controller"
  pure { setToken with
    moduleStates := Function.update setToken.moduleStates module .pending }

/-- The module's own `removeModule` runs between the checks and the removal. -/
def removeModule (call : Call) (module : Address) (callback : Outcome Unit)
    (setToken : SetToken) : Outcome SetToken := do
  setToken.validateOnlyManager call
  require (setToken.isLocked = false) "Only when unlocked"
  require (setToken.moduleStates module = .initialized) "Module must be added"
  callback
  let modules ← AddressArrayUtils.removeStorage setToken.modules module
  pure { setToken with
    moduleStates := Function.update setToken.moduleStates module .none
    modules := modules }

def removePendingModule (call : Call) (module : Address) (setToken : SetToken) :
    Outcome SetToken := do
  setToken.validateOnlyManager call
  require (setToken.isLocked = false) "Only when unlocked"
  require (setToken.moduleStates module = .pending) "Module must be pending"
  pure { setToken with
    moduleStates := Function.update setToken.moduleStates module .none }

def initializeModule (call : Call) (setToken : SetToken) : Outcome SetToken := do
  require (setToken.isLocked = false) "Only when unlocked"
  require (setToken.moduleStates call.sender = .pending) "Module must be pending"
  pure { setToken with
    moduleStates := Function.update setToken.moduleStates call.sender .initialized
    modules := setToken.modules ++ [call.sender] }

def setManager (call : Call) (manager : Address) (setToken : SetToken) : Outcome SetToken := do
  setToken.validateOnlyManager call
  require (setToken.isLocked = false) "Only when unlocked"
  pure { setToken with manager := manager }

/-! ### Positions -/

def defaultEntry (setToken : SetToken) (component : Address) : Outcome (List PositionEntry) :=
  if 0 < setToken.defaultPositionVirtualUnit component then do
    let unit ← setToken.getDefaultPositionRealUnit component
    pure [{ component, module := 0, unit, positionState := 0, data := [] }]
  else pure []

def externalEntry (setToken : SetToken) (component module : Address) :
    Outcome PositionEntry := do
  let unit ← setToken.getExternalPositionRealUnit component module
  pure { component, module, unit, positionState := 1,
         data := setToken.externalPositionData component module }

def componentEntries (setToken : SetToken) (component : Address) :
    Outcome (List PositionEntry) := do
  let default ← setToken.defaultEntry component
  let external ← (setToken.externalPositionModules component).mapM
    (setToken.externalEntry component)
  pure (default ++ external)

def getPositionCount (setToken : SetToken) : Nat :=
  (setToken.components.map fun component =>
    (if 0 < setToken.defaultPositionVirtualUnit component then 1 else 0) +
      (setToken.externalPositionModules component).length).sum

/-- The array is allocated with `getPositionCount` blank entries and filled from the front;
a write past its end reverts. -/
def getPositions (setToken : SetToken) : Outcome (List PositionEntry) := do
  let entries ← setToken.components.mapM setToken.componentEntries
  let filled := entries.flatten
  require (filled.length ≤ setToken.getPositionCount) "index out of bounds"
  pure (filled ++ List.replicate (setToken.getPositionCount - filled.length)
    { component := 0, module := 0, unit := 0, positionState := 0, data := [] })

def addExternalUnit (setToken : SetToken) (component : Address) (totalUnits : Int)
    (module : Address) : Outcome Int := do
  let unit ← setToken.getExternalPositionRealUnit component module
  SignedSafeMath.add totalUnits unit

def getTotalComponentRealUnits (setToken : SetToken) (component : Address) : Outcome Int := do
  let totalUnits ← setToken.getDefaultPositionRealUnit component
  (setToken.externalPositionModules component).foldlM (setToken.addExternalUnit component)
    totalUnits

/-! ### Guards and units, inverted -/

section Inversion

variable {setToken : SetToken} {call : Call}

/-- The real unit of a virtual unit: the exact product, rounded towards negative infinity. -/
def realUnit (setToken : SetToken) (virtualUnit : Int) : Int :=
  virtualUnit * setToken.positionMultiplier / preciseUnit

/-- The real unit of the default position of a component. -/
def defaultRealUnit (setToken : SetToken) (component : Address) : Int :=
  setToken.realUnit (setToken.defaultPositionVirtualUnit component)

/-- The real unit of the position a module has in a component. -/
def externalRealUnit (setToken : SetToken) (component module : Address) : Int :=
  setToken.realUnit (setToken.externalPositionVirtualUnit component module)

theorem convertVirtualToRealUnit_eq_ok (virtualUnit unit : Int) :
    setToken.convertVirtualToRealUnit virtualUnit = .ok unit ↔
      FitsInt256 (virtualUnit * setToken.positionMultiplier) ∧
        setToken.realUnit virtualUnit = unit :=
  conservativePreciseMul_eq_ok _ _ _

theorem getDefaultPositionRealUnit_eq_ok (component : Address) (unit : Int) :
    setToken.getDefaultPositionRealUnit component = .ok unit ↔
      FitsInt256 (setToken.defaultPositionVirtualUnit component * setToken.positionMultiplier) ∧
        setToken.defaultRealUnit component = unit :=
  convertVirtualToRealUnit_eq_ok _ _

theorem getExternalPositionRealUnit_eq_ok (component module : Address) (unit : Int) :
    setToken.getExternalPositionRealUnit component module = .ok unit ↔
      FitsInt256 (setToken.externalPositionVirtualUnit component module *
        setToken.positionMultiplier) ∧
        setToken.externalRealUnit component module = unit :=
  convertVirtualToRealUnit_eq_ok _ _

/-- A real unit that is written becomes the floor of its virtual unit, and a positive one is
written only if the virtual unit reads back as positive. -/
theorem convertRealToVirtualUnit_eq_ok {unit virtualUnit : Int}
    (positive : 0 < setToken.positionMultiplier)
    (converted : setToken.convertRealToVirtualUnit unit = .ok virtualUnit) :
    FitsInt256 (unit * preciseUnit) ∧
      virtualUnit = unit * preciseUnit / setToken.positionMultiplier ∧
        (0 < unit → 0 < setToken.realUnit virtualUnit) := by
  simp only [convertRealToVirtualUnit, bind_eq_ok, require_eq_ok, exists_const] at converted
  obtain ⟨_, divided, _, checked⟩ := converted
  obtain ⟨fits, rfl⟩ := (conservativePreciseDiv_eq_ok _ _ _ positive).mp divided
  split at checked
  · rename_i unitPositive
    simp only [bind_eq_ok, require_eq_ok, pure_eq_ok, exists_const] at checked
    obtain ⟨restored, reread, nonzero, rfl⟩ := checked
    obtain ⟨_, rfl⟩ := (convertVirtualToRealUnit_eq_ok _ _).mp reread
    refine ⟨fits, rfl, fun _ => lt_of_le_of_ne ?_ (Ne.symm nonzero)⟩
    exact Rounding.ediv_mul_ediv_nonneg preciseUnit_int_pos positive unitPositive.le
  · rename_i notPositive
    exact ⟨fits, ((pure_eq_ok _ _).mp checked).symm, fun unitPositive =>
      absurd unitPositive notPositive⟩

/-- The product of the virtual unit of a real unit that is not negative leaves `int256` only if
the precise product did. -/
theorem fits_of_converted {unit : Int} (positive : 0 < setToken.positionMultiplier)
    (nonneg : 0 ≤ unit) (fits : FitsInt256 (unit * preciseUnit)) :
    FitsInt256 (unit * preciseUnit / setToken.positionMultiplier *
      setToken.positionMultiplier) := by
  have least : 0 ≤ unit * preciseUnit / setToken.positionMultiplier *
      setToken.positionMultiplier :=
    mul_nonneg (Int.ediv_nonneg (mul_nonneg nonneg preciseUnit_int_pos.le) positive.le)
      positive.le
  have most := Int.ediv_mul_le (unit * preciseUnit) positive.ne'
  exact ⟨(neg_nonpos.mpr (by positivity)).trans least, most.trans_lt fits.2⟩

theorem editComponent_self (component : Address)
    (edit : ComponentPosition → ComponentPosition) :
    (setToken.editComponent component edit).componentPositions component =
      edit (setToken.componentPositions component) :=
  Function.update_self _ _ _

theorem editComponent_other (component other : Address)
    (edit : ComponentPosition → ComponentPosition) (different : other ≠ component) :
    (setToken.editComponent component edit).componentPositions other =
      setToken.componentPositions other :=
  Function.update_of_ne different _ _

end Inversion

/-! ### Sets with the same positions -/

/-- Two Sets with the same components, stored positions and multiplier. -/
structure SamePositions (setToken other : SetToken) : Prop where
  components : other.components = setToken.components
  componentPositions : other.componentPositions = setToken.componentPositions
  positionMultiplier : other.positionMultiplier = setToken.positionMultiplier

section SamePositions

variable {setToken other : SetToken}

theorem SamePositions.defaultRealUnit (same : SamePositions setToken other)
    (component : Address) :
    other.defaultRealUnit component = setToken.defaultRealUnit component := by
  unfold SetToken.defaultRealUnit SetToken.realUnit SetToken.defaultPositionVirtualUnit
  rw [same.componentPositions, same.positionMultiplier]

theorem SamePositions.externalRealUnit (same : SamePositions setToken other)
    (component module : Address) :
    other.externalRealUnit component module = setToken.externalRealUnit component module := by
  unfold SetToken.externalRealUnit SetToken.realUnit SetToken.externalPositionVirtualUnit
  rw [same.componentPositions, same.positionMultiplier]

theorem SamePositions.externalPositionModules (same : SamePositions setToken other)
    (component : Address) :
    other.externalPositionModules component = setToken.externalPositionModules component := by
  unfold SetToken.externalPositionModules
  rw [same.componentPositions]

end SamePositions

/-! ### What the entry points change -/

section Effects

variable {setToken next : SetToken} {call : Call} {component module : Address}

theorem addComponent_eq_ok (returned : setToken.addComponent call component = .ok next) :
    setToken.Privileged call ∧ component ∉ setToken.components ∧
      next = { setToken with components := setToken.components ++ [component] } := by
  simp only [addComponent, bind_eq_ok, validatePrivileged_eq_ok, exists_const, require_eq_ok,
    pure_eq_ok, isComponent, AddressArrayUtils.contains_eq_false] at returned
  obtain ⟨privileged, absent, rfl⟩ := returned
  exact ⟨privileged, absent, rfl⟩

theorem removeComponent_eq_ok (returned : setToken.removeComponent call component = .ok next) :
    setToken.Privileged call ∧ ∃ components,
      components.Perm (setToken.components.erase component) ∧
      next = { setToken with components := components } := by
  simp only [removeComponent, bind_eq_ok, validatePrivileged_eq_ok, exists_const, pure_eq_ok]
    at returned
  obtain ⟨privileged, components, removed, rfl⟩ := returned
  exact ⟨privileged, components, (AddressArrayUtils.removeStorage_eq_ok removed).2, rfl⟩

theorem editDefaultPositionUnit_eq_ok {realUnit : Int}
    (returned : setToken.editDefaultPositionUnit call component realUnit = .ok next) :
    setToken.Privileged call ∧ ∃ virtualUnit,
      setToken.convertRealToVirtualUnit realUnit = .ok virtualUnit ∧
      next = setToken.editComponent component fun position =>
        { position with virtualUnit := virtualUnit } := by
  simp only [editDefaultPositionUnit, bind_eq_ok, validatePrivileged_eq_ok, exists_const,
    pure_eq_ok] at returned
  obtain ⟨privileged, virtualUnit, converted, rfl⟩ := returned
  exact ⟨privileged, virtualUnit, converted, rfl⟩

theorem addExternalPositionModule_eq_ok
    (returned : setToken.addExternalPositionModule call component module = .ok next) :
    setToken.Privileged call ∧ module ∉ setToken.externalPositionModules component ∧
      next = setToken.editComponent component fun position => { position with
        externalPositionModules := position.externalPositionModules ++ [module] } := by
  simp only [addExternalPositionModule, bind_eq_ok, validatePrivileged_eq_ok, exists_const,
    require_eq_ok, pure_eq_ok, isExternalPositionModule, AddressArrayUtils.contains_eq_false]
    at returned
  obtain ⟨privileged, absent, rfl⟩ := returned
  exact ⟨privileged, absent, rfl⟩

theorem removeExternalPositionModule_eq_ok
    (returned : setToken.removeExternalPositionModule call component module = .ok next) :
    setToken.Privileged call ∧ module ∈ setToken.externalPositionModules component ∧
    ∃ modules, modules.Perm ((setToken.externalPositionModules component).erase module) ∧
      next = setToken.editComponent component fun position => { position with
        externalPositionModules := modules
        externalPositions := Function.update position.externalPositions module ⟨0, []⟩ } := by
  simp only [removeExternalPositionModule, bind_eq_ok, validatePrivileged_eq_ok, exists_const,
    pure_eq_ok] at returned
  obtain ⟨privileged, modules, removed, rfl⟩ := returned
  obtain ⟨member, erasure⟩ := AddressArrayUtils.removeStorage_eq_ok removed
  exact ⟨privileged, member, modules, erasure, rfl⟩

theorem editExternalPositionUnit_eq_ok {realUnit : Int}
    (returned : setToken.editExternalPositionUnit call component module realUnit = .ok next) :
    setToken.Privileged call ∧ ∃ virtualUnit,
      setToken.convertRealToVirtualUnit realUnit = .ok virtualUnit ∧
      next = setToken.editComponent component fun position => { position with
        externalPositions := Function.update position.externalPositions module
          { position.externalPositions module with virtualUnit := virtualUnit } } := by
  simp only [editExternalPositionUnit, bind_eq_ok, validatePrivileged_eq_ok, exists_const,
    pure_eq_ok] at returned
  obtain ⟨privileged, virtualUnit, converted, rfl⟩ := returned
  exact ⟨privileged, virtualUnit, converted, rfl⟩

theorem editExternalPositionData_eq_ok {data : Bytes}
    (returned : setToken.editExternalPositionData call component module data = .ok next) :
    setToken.Privileged call ∧
      next = setToken.editComponent component fun position => { position with
        externalPositions := Function.update position.externalPositions module
          { position.externalPositions module with data := data } } := by
  simp only [editExternalPositionData, bind_eq_ok, validatePrivileged_eq_ok, exists_const,
    pure_eq_ok] at returned
  obtain ⟨privileged, rfl⟩ := returned
  exact ⟨privileged, rfl⟩

theorem mint_eq_ok {account : Address} {quantity : Nat}
    (returned : setToken.mint call account quantity = .ok next) :
    setToken.Privileged call ∧ next = { setToken with
      totalSupply := setToken.totalSupply + quantity
      balanceOf := Function.update setToken.balanceOf account
        (setToken.balanceOf account + quantity) } := by
  simp only [mint, bind_eq_ok, validatePrivileged_eq_ok, exists_const, pure_eq_ok] at returned
  obtain ⟨privileged, _, minted, rfl⟩ := returned
  rw [ERC20.mint_eq_ok minted]
  exact ⟨privileged, rfl⟩

theorem burn_eq_ok {account : Address} {quantity : Nat}
    (returned : setToken.burn call account quantity = .ok next) :
    setToken.Privileged call ∧ quantity ≤ setToken.totalSupply ∧ next = { setToken with
      totalSupply := setToken.totalSupply - quantity
      balanceOf := Function.update setToken.balanceOf account
        (setToken.balanceOf account - quantity) } := by
  simp only [burn, bind_eq_ok, validatePrivileged_eq_ok, exists_const, pure_eq_ok] at returned
  obtain ⟨privileged, _, burned, rfl⟩ := returned
  obtain ⟨enough, stored⟩ := ERC20.burn_eq_ok burned
  rw [stored]
  exact ⟨privileged, enough, rfl⟩

theorem lock_eq_ok (returned : setToken.lock call = .ok next) :
    setToken.moduleStates call.sender = .initialized ∧
      call.controller.isModule call.sender = true ∧ setToken.isLocked = false ∧
        next = { setToken with locker := call.sender, isLocked := true } := by
  simp only [lock, bind_eq_ok, validateOnlyModule_eq_ok, exists_const, require_eq_ok,
    pure_eq_ok] at returned
  obtain ⟨⟨initialized, enabled⟩, unlocked, rfl⟩ := returned
  exact ⟨initialized, enabled, unlocked, rfl⟩

theorem unlock_eq_ok : setToken.unlock call = .ok next ↔
    (setToken.moduleStates call.sender = .initialized ∧
      call.controller.isModule call.sender = true) ∧ setToken.isLocked = true ∧
        setToken.locker = call.sender ∧
          { setToken with locker := 0, isLocked := false } = next := by
  simp only [unlock, bind_eq_ok, validateOnlyModule_eq_ok, exists_const, require_eq_ok,
    pure_eq_ok]

theorem addModule_eq_ok
    (returned : setToken.addModule call module = .ok next) :
    setToken.moduleStates module = .none ∧ next = { setToken with
      moduleStates := Function.update setToken.moduleStates module .pending } := by
  simp only [addModule, bind_eq_ok, exists_const, require_eq_ok, pure_eq_ok] at returned
  obtain ⟨_, _, absent, _, rfl⟩ := returned
  exact ⟨absent, rfl⟩

theorem removeModule_eq_ok {callback : Outcome Unit}
    (returned : setToken.removeModule call module callback = .ok next) :
    setToken.isLocked = false ∧ setToken.moduleStates module = .initialized ∧
    ∃ modules, modules.Perm (setToken.modules.erase module) ∧ next = { setToken with
      moduleStates := Function.update setToken.moduleStates module .none
      modules := modules } := by
  simp only [removeModule, bind_eq_ok, exists_const, require_eq_ok, pure_eq_ok] at returned
  obtain ⟨_, _, unlocked, initialized, _, _, modules, removed, rfl⟩ := returned
  exact ⟨unlocked, initialized, modules, (AddressArrayUtils.removeStorage_eq_ok removed).2, rfl⟩

theorem removePendingModule_eq_ok
    (returned : setToken.removePendingModule call module = .ok next) :
    setToken.isLocked = false ∧ setToken.moduleStates module = .pending ∧
      next = { setToken with
        moduleStates := Function.update setToken.moduleStates module .none } := by
  simp only [removePendingModule, bind_eq_ok, exists_const, require_eq_ok, pure_eq_ok]
    at returned
  obtain ⟨_, _, unlocked, pending, rfl⟩ := returned
  exact ⟨unlocked, pending, rfl⟩

theorem initializeModule_eq_ok (returned : setToken.initializeModule call = .ok next) :
    setToken.isLocked = false ∧ setToken.moduleStates call.sender = .pending ∧
      next = { setToken with
        moduleStates := Function.update setToken.moduleStates call.sender .initialized
        modules := setToken.modules ++ [call.sender] } := by
  simp only [initializeModule, bind_eq_ok, exists_const, require_eq_ok, pure_eq_ok] at returned
  obtain ⟨unlocked, pending, rfl⟩ := returned
  exact ⟨unlocked, pending, rfl⟩

theorem setManager_eq_ok {manager : Address}
    (returned : setToken.setManager call manager = .ok next) :
    setToken.isLocked = false ∧ next = { setToken with manager := manager } := by
  simp only [setManager, bind_eq_ok, exists_const, require_eq_ok, pure_eq_ok] at returned
  obtain ⟨_, _, unlocked, rfl⟩ := returned
  exact ⟨unlocked, rfl⟩

theorem editPositionMultiplier_eq_ok {newMultiplier : Int}
    (returned : setToken.editPositionMultiplier call newMultiplier = .ok next) :
    setToken.Privileged call ∧ setToken.validateNewMultiplier newMultiplier = .ok () ∧
      next = { setToken with positionMultiplier := newMultiplier } := by
  simp only [editPositionMultiplier, bind_eq_ok, validatePrivileged_eq_ok, exists_const,
    pure_eq_ok] at returned
  obtain ⟨privileged, _, valid, rfl⟩ := returned
  exact ⟨privileged, valid, rfl⟩

end Effects

end SetToken

end IndexProtocol

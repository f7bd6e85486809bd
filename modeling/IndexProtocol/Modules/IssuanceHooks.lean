/-
This file models the contracts around an issuance module: the modules that hold
external positions and are called through their hooks, the adapters and
protocols those modules use, and the manager's hook. The hooks of the three kinds
of module are described by what they emit: each hook either does nothing or
replicates the module's whole position of the component.
-/

import IndexProtocol.Modules.AaveLeverageModule
import IndexProtocol.Modules.CompoundLeverageModule
import IndexProtocol.Modules.StakingModule

namespace IndexProtocol

open Revert

/-- A module with issuance hooks. -/
inductive HookModule
  | compound (module : CompoundLeverageModule)
  | aave (module : AaveLeverageModule)
  | staking (module : StakingModule)

namespace HookModule

variable {Ledger : Type}

def address : HookModule → Address
  | .compound module => module.address
  | .aave module => module.address
  | .staking module => module.address

/-- The hook before an issuance or a redemption. The staking module's hooks are empty. -/
def moduleHook (protocols : Protocols Ledger) (msgSender : Address) (isIssue : Bool)
    (execution : Execution Ledger) : HookModule → Outcome (Execution Ledger)
  | .compound module =>
    if isIssue then module.moduleIssueHook protocols msgSender execution
    else module.moduleRedeemHook protocols msgSender execution
  | .aave module =>
    if isIssue then module.moduleIssueHook msgSender execution
    else module.moduleRedeemHook msgSender execution
  | .staking _ => pure execution

/-- The hook for one component on an issuance or a redemption, in the equity or in the debt
pass. -/
def componentHook (protocols : Protocols Ledger) (adapters : StakingAdapters)
    (msgSender : Address) (isIssue isEquity : Bool) (setTokenQuantity : Nat)
    (component : Address) (execution : Execution Ledger) :
    HookModule → Outcome (Execution Ledger)
  | .compound module =>
    if isIssue then
      module.componentIssueHook protocols msgSender setTokenQuantity component isEquity execution
    else
      module.componentRedeemHook protocols msgSender setTokenQuantity component isEquity execution
  | .aave module =>
    if isIssue then
      module.componentIssueHook protocols msgSender setTokenQuantity component isEquity execution
    else
      module.componentRedeemHook protocols msgSender setTokenQuantity component isEquity execution
  | .staking module =>
    if isIssue then
      module.componentIssueHook protocols adapters msgSender setTokenQuantity component isEquity
        execution
    else
      module.componentRedeemHook protocols adapters msgSender setTokenQuantity component isEquity
        execution

/-! ### What the hooks do -/

/-- The operations that replicate the module's position of a component once. -/
def replication (isIssue : Bool) (quantity : Nat) (setToken : SetToken) (component : Address) :
    HookModule → List PositionOperation
  | .compound module => module.replication isIssue quantity setToken component
  | .aave module => module.replication isIssue quantity setToken component
  | .staking module => module.replication isIssue quantity component

/-- Whether the component hook replicates the position when it is called from a pass. -/
def answers (isEquity : Bool) : HookModule → Bool
  | .compound _ => true
  | .aave _ => !isEquity
  | .staking _ => true

/-- What the component hook does when it is called from a pass. -/
def response (isIssue isEquity : Bool) (quantity : Nat) (setToken : SetToken)
    (component : Address) (hook : HookModule) : List PositionOperation :=
  if hook.answers isEquity = true then hook.replication isIssue quantity setToken component
  else []

section Effects

variable {protocols : Protocols Ledger} {adapters : StakingAdapters}
  {msgSender component : Address} {isIssue isEquity : Bool} {quantity : Nat}
  {before after : Execution Ledger} {hook : HookModule}

/-- A component hook does one thing: it responds to the pass. -/
theorem componentHook_emits
    (returned : componentHook protocols adapters msgSender isIssue isEquity quantity component
      before hook = .ok after) :
    Execution.Emits
      ((hook.response isIssue isEquity quantity before.world.setToken component).map .operated)
      before after := by
  cases hook with
  | compound module =>
    cases isIssue with
    | true =>
      simp only [componentHook, if_true] at returned
      exact CompoundLeverageModule.componentIssueHook_emits returned
    | false =>
      simp only [componentHook, Bool.false_eq_true, if_false] at returned
      exact CompoundLeverageModule.componentRedeemHook_emits returned
  | aave module =>
    cases isIssue <;> cases isEquity
    case true.true => exact AaveLeverageModule.componentIssueHook_emits returned
    case true.false => exact AaveLeverageModule.componentIssueHook_emits returned
    case false.true => exact AaveLeverageModule.componentRedeemHook_emits returned
    case false.false => exact AaveLeverageModule.componentRedeemHook_emits returned
  | staking module =>
    cases isIssue with
    | true =>
      simp only [componentHook, if_true] at returned
      exact StakingModule.componentIssueHook_emits returned
    | false =>
      simp only [componentHook, Bool.false_eq_true, if_false] at returned
      exact StakingModule.componentRedeemHook_emits returned

theorem moduleHook_prepares
    (returned : moduleHook protocols msgSender isIssue before hook = .ok after) :
    Execution.Prepares before after := by
  cases hook with
  | compound module =>
    cases isIssue with
    | true =>
      simp only [moduleHook, if_true, CompoundLeverageModule.moduleIssueHook, bind_eq_ok]
        at returned
      obtain ⟨_, _, synced⟩ := returned
      exact CompoundLeverageModule.sync_prepares synced
    | false =>
      simp only [moduleHook, Bool.false_eq_true, if_false,
        CompoundLeverageModule.moduleRedeemHook, bind_eq_ok] at returned
      obtain ⟨_, _, synced⟩ := returned
      exact CompoundLeverageModule.sync_prepares synced
  | aave module =>
    cases isIssue with
    | true => exact AaveLeverageModule.moduleHook_prepares returned
    | false => exact AaveLeverageModule.moduleHook_prepares returned
  | staking module => exact (pure_eq_ok _ _).mp returned ▸ Execution.Prepares.refl _

/-- What replicates a position depends on the positions of the Set alone. -/
theorem replication_congr {setToken other : SetToken} (same : setToken.SamePositions other) :
    hook.replication isIssue quantity other component =
      hook.replication isIssue quantity setToken component := by
  unfold replication CompoundLeverageModule.replication AaveLeverageModule.replication
    LeverageHooks.debtUnit
  simp only [same.externalRealUnit]

theorem operation_of_replication {operation : PositionOperation} {setToken : SetToken}
    (member : operation ∈ hook.replication isIssue quantity setToken component) :
    operation.module = hook.address ∧ operation.component = component := by
  cases hook with
  | compound module => exact List.mem_singleton.mp member ▸ ⟨rfl, rfl⟩
  | aave module => exact List.mem_singleton.mp member ▸ ⟨rfl, rfl⟩
  | staking module =>
    obtain ⟨_, _, rfl⟩ := List.mem_map.mp member
    exact ⟨rfl, rfl⟩

theorem operation_of_response {operation : PositionOperation} {setToken : SetToken}
    (member : operation ∈ hook.response isIssue isEquity quantity setToken component) :
    operation.module = hook.address ∧ operation.component = component := by
  unfold response at member
  split at member
  · exact operation_of_replication member
  · exact absurd member List.not_mem_nil

end Effects

end HookModule

/-- The contracts deployed around an issuance module. What the manager's hook does to a Set it
does through the Set's own entry points, so it keeps the bookkeeping of the positions. -/
structure Deployment (Ledger : Type) where
  protocols : Protocols Ledger
  adapters : StakingAdapters
  hookModule : Address → Option HookModule
  hookModule_address : ∀ address hook, hookModule address = some hook → hook.address = address
  invokePreIssueHook : Address → Nat → Address → Address → World → Ledger →
    Outcome (World × Ledger)
  preIssueHook_bookkeeping : ∀ hook quantity sender recipient world ledger next nextLedger,
    invokePreIssueHook hook quantity sender recipient world ledger = .ok (next, nextLedger) →
      PositionBookkeeping world.setToken → PositionBookkeeping next.setToken

namespace Deployment

variable {Ledger : Type}

/-- A call of an address without a contract reverts. -/
def callModuleHook (deployment : Deployment Ledger) (msgSender : Address) (isIssue : Bool)
    (execution : Execution Ledger) (module : Address) : Outcome (Execution Ledger) :=
  match deployment.hookModule module with
  | some hook => hook.moduleHook deployment.protocols msgSender isIssue execution
  | none => .error "function call to a non-contract account"

def callComponentHook (deployment : Deployment Ledger) (msgSender : Address)
    (isIssue isEquity : Bool) (setTokenQuantity : Nat) (component : Address)
    (execution : Execution Ledger) (module : Address) : Outcome (Execution Ledger) :=
  match deployment.hookModule module with
  | some hook => hook.componentHook deployment.protocols deployment.adapters msgSender isIssue
      isEquity setTokenQuantity component execution
  | none => .error "function call to a non-contract account"

/-- What the module at an address does when its component hook is called from a pass. -/
def response (deployment : Deployment Ledger) (isIssue isEquity : Bool) (quantity : Nat)
    (setToken : SetToken) (component module : Address) : List PositionOperation :=
  match deployment.hookModule module with
  | some hook => hook.response isIssue isEquity quantity setToken component
  | none => []

section Effects

variable {deployment : Deployment Ledger} {msgSender component module : Address}
  {isIssue isEquity : Bool} {quantity : Nat} {before after : Execution Ledger}

theorem callComponentHook_emits
    (returned : deployment.callComponentHook msgSender isIssue isEquity quantity component before
      module = .ok after) :
    Execution.Emits ((deployment.response isIssue isEquity quantity before.world.setToken
      component module).map .operated) before after := by
  unfold callComponentHook at returned
  unfold response
  split at returned
  · exact HookModule.componentHook_emits returned
  · exact absurd returned (by simp)

/-- The response depends on the positions of the Set alone. -/
theorem response_congr {setToken other : SetToken} (same : setToken.SamePositions other) :
    deployment.response isIssue isEquity quantity other component module =
      deployment.response isIssue isEquity quantity setToken component module := by
  unfold response HookModule.response
  simp only [HookModule.replication_congr same]

theorem callModuleHook_prepares
    (returned : deployment.callModuleHook msgSender isIssue before module = .ok after) :
    Execution.Prepares before after := by
  unfold callModuleHook at returned
  split at returned
  · exact HookModule.moduleHook_prepares returned
  · exact absurd returned (by simp)

theorem operation_of_response {operation : PositionOperation} {setToken : SetToken}
    (member : operation ∈ deployment.response isIssue isEquity quantity setToken component
      module) : operation.module = module ∧ operation.component = component := by
  unfold response at member
  split at member
  · rename_i hook found
    obtain ⟨byHook, inComponent⟩ := HookModule.operation_of_response member
    exact ⟨byHook.trans (deployment.hookModule_address module hook found), inComponent⟩
  · exact absurd member List.not_mem_nil

end Effects

end Deployment

end IndexProtocol

/-
This file models the staking module. It keeps, for each component, the list of
staking contracts and the units staked on each, and holds an external position
in the component for their sum. On issuance it stakes every contract's share of
the quantity and on redemption it takes it back, whichever pass the hook is
called from.
-/

import IndexProtocol.Protocol.Execution
import IndexProtocol.Protocol.PositionBookkeeping

namespace IndexProtocol

open Revert PreciseUnitMath

/-! ### Adapters and storage -/

/-- The adapter of a staking contract. The call data is a target, a value and bytes. -/
structure StakingAdapter where
  getSpenderAddress : Address → Address
  getStakeCallData : Address → Nat → Address × Nat × Bytes
  getUnstakeCallData : Address → Nat → Address × Nat × Bytes

/-- The integration registry and the staking adapters as one call finds them. -/
structure StakingAdapters extends IntegrationRegistry where
  stakingAdapter : Address → StakingAdapter

/-- The adapter is recorded by the hash of its name, taken to identify the name. -/
structure StakingPosition where
  adapterHash : String
  componentPositionUnits : Nat

/-- The module's storage for one Set, by component. -/
structure StakingModule where
  address : Address
  stakingContracts : Address → List Address
  positions : Address → Address → StakingPosition

namespace StakingModule

variable {Ledger : Type}

def hasStakingPosition (module : StakingModule) (component stakeContract : Address) : Bool :=
  AddressArrayUtils.contains (module.stakingContracts component) stakeContract

def getStakingPositionUnit (module : StakingModule) (component stakeContract : Address) : Nat :=
  (module.positions component stakeContract).componentPositionUnits

def getAdapter (module : StakingModule) (adapters : StakingAdapters) (adapterName : String) :
    Outcome StakingAdapter := do
  let adapter ← ModuleBase.getAndValidateAdapter module.address
    adapters.toIntegrationRegistry adapterName
  pure (adapters.stakingAdapter adapter)

/-! ### Calling the staking contract -/

/-- `_stake`: approve and stake the notional quantity of the units. -/
def invokeStake (module : StakingModule) (protocols : Protocols Ledger)
    (stakeContract component : Address) (adapter : StakingAdapter)
    (componentPositionUnits setTokenStakeQuantity : Nat) (execution : Execution Ledger) :
    Outcome (Execution Ledger) := do
  let notionalStakeQuantity ←
    Position.getDefaultTotalNotional setTokenStakeQuantity componentPositionUnits
  let spender := adapter.getSpenderAddress stakeContract
  let approved ←
    execution.invokeApprove module.address component spender notionalStakeQuantity
  let (target, callValue, methodData) :=
    adapter.getStakeCallData stakeContract notionalStakeQuantity
  approved.carryOut
    (.operated ⟨.stake, module.address, component, stakeContract, notionalStakeQuantity⟩)
    (Execution.invokeUnchecked protocols module.address ⟨target, callValue, .raw methodData⟩)

/-- `_unstake`: the Set must receive at least the notional quantity of the units. -/
def invokeUnstake (module : StakingModule) (protocols : Protocols Ledger)
    (stakeContract component : Address) (adapter : StakingAdapter)
    (componentPositionUnits setTokenUnstakeQuantity : Nat) (execution : Execution Ledger) :
    Outcome (Execution Ledger) := do
  let preActionBalance := execution.world.held component
  let notionalUnstakeQuantity ←
    Position.getDefaultTotalNotional setTokenUnstakeQuantity componentPositionUnits
  let (target, callValue, methodData) :=
    adapter.getUnstakeCallData stakeContract notionalUnstakeQuantity
  let unstaked ← execution.carryOut
    (.operated ⟨.unstake, module.address, component, stakeContract, notionalUnstakeQuantity⟩)
    (Execution.invokeUnchecked protocols module.address ⟨target, callValue, .raw methodData⟩)
  let postActionBalance := unstaked.world.held component
  let expected ← SafeMath.add preActionBalance notionalUnstakeQuantity
  require (expected ≤ postActionBalance) "Not enough tokens returned from stake contract"
  pure unstaked

/-! ### Staking and unstaking by the manager -/

/-- The units recorded for a staking contract as units are staked on it. -/
def recordStake (module : StakingModule) (stakeContract component : Address)
    (adapterName : String) (componentPositionUnits : Nat) : Outcome StakingModule :=
  if module.hasStakingPosition component stakeContract = true then do
    let units ← SafeMath.add componentPositionUnits
      (module.getStakingPositionUnit component stakeContract)
    pure { module with
      positions := Function.update module.positions component
        (Function.update (module.positions component) stakeContract
          { module.positions component stakeContract with componentPositionUnits := units }) }
  else
    pure { module with
      stakingContracts := Function.update module.stakingContracts component
        (module.stakingContracts component ++ [stakeContract])
      positions := Function.update module.positions component
        (Function.update (module.positions component) stakeContract
          ⟨adapterName, componentPositionUnits⟩) }

/-- The units recorded for a staking contract as units are taken back from it. -/
def recordUnstake (module : StakingModule) (stakeContract component : Address)
    (componentPositionUnits : Nat) : Outcome StakingModule := do
  let remainingPositionUnits ← SafeMath.sub
    (module.getStakingPositionUnit component stakeContract) componentPositionUnits
  if 0 < remainingPositionUnits then
    pure { module with
      positions := Function.update module.positions component
        (Function.update (module.positions component) stakeContract
          { module.positions component stakeContract with
            componentPositionUnits := remainingPositionUnits }) }
  else do
    let contracts ← AddressArrayUtils.remove (module.stakingContracts component) stakeContract
    pure { module with
      stakingContracts := Function.update module.stakingContracts component contracts
      positions := Function.update module.positions component
        (Function.update (module.positions component) stakeContract ⟨"", 0⟩) }

/-- Write the default and the external position of a component, in this order. -/
def editPositions (module : StakingModule) (component : Address) (newDefaultTokenUnit : Nat)
    (newExternalUnit : SetToken → Outcome Int) (world : World) : Outcome World := do
  let edited ← world.callSetToken
    (Position.editDefaultPosition ⟨world.controller, module.address⟩ component
      newDefaultTokenUnit)
  let newExternalTokenUnit ← newExternalUnit edited.setToken
  edited.callSetToken
    (Position.editExternalPosition ⟨edited.controller, module.address⟩ component
      module.address newExternalTokenUnit [])

/-- `_updateStakeState`. -/
def updateStakeState (module : StakingModule) (stakeContract component : Address)
    (adapterName : String) (componentPositionUnits : Nat) (world : World) :
    Outcome (StakingModule × World) := do
  let recorded ← module.recordStake stakeContract component adapterName componentPositionUnits
  let defaultUnit ← world.setToken.getDefaultPositionRealUnit component
  let defaultTokenUnit ← SafeCast.toUint256 defaultUnit
  let newDefaultTokenUnit ← SafeMath.sub defaultTokenUnit componentPositionUnits
  let edited ← recorded.editPositions component newDefaultTokenUnit
    (fun setToken => do
      let externalUnit ← setToken.getExternalPositionRealUnit component recorded.address
      let units ← SafeCast.toInt256 componentPositionUnits
      SignedSafeMath.add externalUnit units) world
  pure (recorded, edited)

/-- `_updateUnstakeState`. -/
def updateUnstakeState (module : StakingModule) (stakeContract component : Address)
    (componentPositionUnits : Nat) (world : World) : Outcome (StakingModule × World) := do
  let recorded ← module.recordUnstake stakeContract component componentPositionUnits
  let defaultUnit ← world.setToken.getDefaultPositionRealUnit component
  let defaultTokenUnit ← SafeCast.toUint256 defaultUnit
  let newTokenUnit ← SafeMath.add defaultTokenUnit componentPositionUnits
  let edited ← recorded.editPositions component newTokenUnit
    (fun setToken => do
      let externalUnit ← setToken.getExternalPositionRealUnit component recorded.address
      let units ← SafeCast.toInt256 componentPositionUnits
      SignedSafeMath.sub externalUnit units) world
  pure (recorded, edited)

def stake (module : StakingModule) (protocols : Protocols Ledger) (adapters : StakingAdapters)
    (msgSender stakeContract component : Address) (adapterName : String)
    (componentPositionUnits : Nat) (execution : Execution Ledger) :
    Outcome (StakingModule × Execution Ledger) := do
  ModuleBase.validateOnlyManagerAndValidSet module.address msgSender execution.world
  let defaultUnit ← execution.world.setToken.getDefaultPositionRealUnit component
  let units ← SafeCast.toInt256 componentPositionUnits
  require (units ≤ defaultUnit) "Not enough component to stake"
  let adapter ← module.getAdapter adapters adapterName
  let staked ← module.invokeStake protocols stakeContract component adapter
    componentPositionUnits execution.world.setToken.totalSupply execution
  let (recorded, world) ← module.updateStakeState stakeContract component adapterName
    componentPositionUnits staked.world
  pure (recorded, { staked with world := world })

def unstake (module : StakingModule) (protocols : Protocols Ledger) (adapters : StakingAdapters)
    (msgSender stakeContract component : Address) (adapterName : String)
    (componentPositionUnits : Nat) (execution : Execution Ledger) :
    Outcome (StakingModule × Execution Ledger) := do
  ModuleBase.validateOnlyManagerAndValidSet module.address msgSender execution.world
  require (componentPositionUnits ≤ module.getStakingPositionUnit component stakeContract)
    "Not enough component tokens staked"
  let adapter ← module.getAdapter adapters adapterName
  let unstaked ← module.invokeUnstake protocols stakeContract component adapter
    componentPositionUnits execution.world.setToken.totalSupply execution
  let (recorded, world) ← module.updateUnstakeState stakeContract component
    componentPositionUnits unstaked.world
  pure (recorded, { unstaked with world := world })

/-! ### Component hooks -/

/-- The component is assumed to have been transferred to the Set by the calling module. -/
def stakeForIssue (module : StakingModule) (protocols : Protocols Ledger)
    (adapters : StakingAdapters) (setTokenQuantity : Nat) (component : Address)
    (execution : Execution Ledger) (stakeContract : Address) :
    Outcome (Execution Ledger) := do
  let stakingPosition := module.positions component stakeContract
  let adapter ← module.getAdapter adapters stakingPosition.adapterHash
  module.invokeStake protocols stakeContract component adapter
    stakingPosition.componentPositionUnits setTokenQuantity execution

def unstakeForRedeem (module : StakingModule) (protocols : Protocols Ledger)
    (adapters : StakingAdapters) (setTokenQuantity : Nat) (component : Address)
    (execution : Execution Ledger) (stakeContract : Address) :
    Outcome (Execution Ledger) := do
  let stakingPosition := module.positions component stakeContract
  let adapter ← module.getAdapter adapters stakingPosition.adapterHash
  module.invokeUnstake protocols stakeContract component adapter
    stakingPosition.componentPositionUnits setTokenQuantity execution

/-- The flag that tells the equity pass from the debt pass is ignored. -/
def componentIssueHook (module : StakingModule) (protocols : Protocols Ledger)
    (adapters : StakingAdapters) (msgSender : Address) (setTokenQuantity : Nat)
    (component : Address) (_isEquity : Bool) (execution : Execution Ledger) :
    Outcome (Execution Ledger) := do
  ModuleBase.validateOnlyModule msgSender execution.world
  (module.stakingContracts component).foldlM
    (module.stakeForIssue protocols adapters setTokenQuantity component) execution

def componentRedeemHook (module : StakingModule) (protocols : Protocols Ledger)
    (adapters : StakingAdapters) (msgSender : Address) (setTokenQuantity : Nat)
    (component : Address) (_isEquity : Bool) (execution : Execution Ledger) :
    Outcome (Execution Ledger) := do
  ModuleBase.validateOnlyModule msgSender execution.world
  (module.stakingContracts component).foldlM
    (module.unstakeForRedeem protocols adapters setTokenQuantity component) execution

/-! ### What the hooks do -/

/-- The operation on one staking contract. -/
def replicate (module : StakingModule) (isIssue : Bool) (quantity : Nat)
    (component stakeContract : Address) : PositionOperation :=
  ⟨if isIssue then .stake else .unstake, module.address, component, stakeContract,
    Rounding.mulFloor preciseUnit quantity
      (module.getStakingPositionUnit component stakeContract)⟩

/-- The operations that replicate the module's position of a component. -/
def replication (module : StakingModule) (isIssue : Bool) (quantity : Nat)
    (component : Address) : List PositionOperation :=
  (module.stakingContracts component).map (module.replicate isIssue quantity component)

section Effects

variable {module : StakingModule} {protocols : Protocols Ledger} {adapters : StakingAdapters}
  {msgSender component stakeContract : Address} {adapter : StakingAdapter}
  {units quantity : Nat} {isEquity : Bool} {before after : Execution Ledger}

theorem invokeStake_emits
    (returned : module.invokeStake protocols stakeContract component adapter units quantity
      before = .ok after) :
    Execution.Emits [.operated ⟨.stake, module.address, component, stakeContract,
      Rounding.mulFloor preciseUnit quantity units⟩] before after := by
  simp only [invokeStake, Position.getDefaultTotalNotional, bind_eq_ok,
    preciseMul_eq_ok] at returned
  obtain ⟨_, ⟨_, rfl⟩, _, approving, staking⟩ := returned
  exact (Execution.invokeApprove_emits approving).after_silent
    (Execution.carryOut_emits (fun _ => Execution.invokeUnchecked_emits) staking)

theorem invokeUnstake_emits
    (returned : module.invokeUnstake protocols stakeContract component adapter units quantity
      before = .ok after) :
    Execution.Emits [.operated ⟨.unstake, module.address, component, stakeContract,
      Rounding.mulFloor preciseUnit quantity units⟩] before after := by
  simp only [invokeUnstake, Position.getDefaultTotalNotional, bind_eq_ok, preciseMul_eq_ok,
    pure_eq_ok] at returned
  obtain ⟨_, ⟨_, rfl⟩, _, unstaking, _, _, _, _, rfl⟩ := returned
  exact Execution.carryOut_emits (fun _ => Execution.invokeUnchecked_emits) unstaking

theorem componentIssueHook_emits
    (returned : module.componentIssueHook protocols adapters msgSender quantity component
      isEquity before = .ok after) :
    Execution.Emits ((module.replication true quantity component).map .operated)
      before after := by
  simp only [componentIssueHook, bind_eq_ok] at returned
  obtain ⟨_, _, looped⟩ := returned
  rw [replication, List.map_map, List.map_eq_flatMap]
  refine Execution.foldlM_emits _ (fun state contract next _ _ called => ?_) looped
  simp only [stakeForIssue, bind_eq_ok] at called
  obtain ⟨_, _, staked⟩ := called
  simp only [Function.comp_apply, replicate, if_true]
  exact invokeStake_emits staked

theorem componentRedeemHook_emits
    (returned : module.componentRedeemHook protocols adapters msgSender quantity component
      isEquity before = .ok after) :
    Execution.Emits ((module.replication false quantity component).map .operated)
      before after := by
  simp only [componentRedeemHook, bind_eq_ok] at returned
  obtain ⟨_, _, looped⟩ := returned
  rw [replication, List.map_map, List.map_eq_flatMap]
  refine Execution.foldlM_emits _ (fun state contract next _ _ called => ?_) looped
  simp only [unstakeForRedeem, bind_eq_ok] at called
  obtain ⟨_, _, unstaked⟩ := called
  simp only [Function.comp_apply, replicate, Bool.false_eq_true, if_false]
  exact invokeUnstake_emits unstaked

end Effects

end StakingModule

end IndexProtocol

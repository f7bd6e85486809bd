/-
This file compares the units that the staking module records for its staking
contracts with the external position that it writes for their sum. The record is
exact, while the position is rounded when it is written and again when it is
read. So the two agree exactly as long as the multiplier divides what is written
and a new multiplier reads the stored units back as the units staked; where it
does not, the last unstake leaves a negative position behind.
-/

import IndexProtocol.Lib.AbiCoder
import IndexProtocol.Library.Accounts
import IndexProtocol.Modules.StakingModule

namespace IndexProtocol

open Revert PreciseUnitMath

namespace StakingModule

variable {Ledger : Type}

/-! ### The record of the module -/

/-- The units of a component that are staked on all of its staking contracts. -/
def stakedUnits (module : StakingModule) (component : Address) : Nat :=
  ((module.stakingContracts component).map (module.getStakingPositionUnit component)).sum

/-- The contracts with units staked are listed, each once. -/
def RecordKept (module : StakingModule) : Prop :=
  ∀ component, Accounts.Kept (module.stakingContracts component)
    (module.getStakingPositionUnit component)

/-- The record after the units staked of one component have become the given ones. -/
structure Records (module : StakingModule) (component : Address) (units : Nat)
    (recorded : StakingModule) : Prop where
  address : recorded.address = module.address
  kept : recorded.RecordKept
  staked : recorded.stakedUnits component = units
  others : ∀ other, other ≠ component → recorded.stakedUnits other = module.stakedUnits other

/-- Store the contracts of a component and the position on one of them. -/
def store (module : StakingModule) (component stakeContract : Address)
    (contracts : List Address) (position : StakingPosition) : StakingModule :=
  { module with
    stakingContracts := Function.update module.stakingContracts component contracts
    positions := Function.update module.positions component
      (Function.update (module.positions component) stakeContract position) }

section Record

variable {module recorded : StakingModule} {component stakeContract : Address}
  {contracts : List Address} {position : StakingPosition} {units : Nat}

theorem store_getStakingPositionUnit :
    (module.store component stakeContract contracts position).getStakingPositionUnit component =
      Function.update (module.getStakingPositionUnit component) stakeContract
        position.componentPositionUnits := by
  have stored : (module.store component stakeContract contracts position).positions component =
      Function.update (module.positions component) stakeContract position :=
    Function.update_self _ _ _
  funext other
  unfold getStakingPositionUnit
  rw [stored]
  by_cases same : other = stakeContract
  · rw [same, Function.update_self, Function.update_self]
  · rw [Function.update_of_ne same, Function.update_of_ne same]

/-- What is stored for one component leaves the record of the others as it was. -/
theorem store_records (kept : module.RecordKept) (contracts : List Address)
    (position : StakingPosition) (units : Nat)
    (accounts : Accounts.Kept contracts (Function.update (module.getStakingPositionUnit component)
      stakeContract position.componentPositionUnits))
    (sum : (contracts.map (Function.update (module.getStakingPositionUnit component)
      stakeContract position.componentPositionUnits)).sum = units) :
    module.Records component units (module.store component stakeContract contracts position) := by
  have listed : (module.store component stakeContract contracts position).stakingContracts
      component = contracts := Function.update_self _ _ _
  have unlisted : ∀ other, other ≠ component →
      (module.store component stakeContract contracts position).stakingContracts other =
        module.stakingContracts other ∧
      (module.store component stakeContract contracts position).getStakingPositionUnit other =
        module.getStakingPositionUnit other := by
    intro other different
    have stored : (module.store component stakeContract contracts position).positions other =
        module.positions other := Function.update_of_ne different _ _
    refine ⟨Function.update_of_ne different _ _, ?_⟩
    unfold getStakingPositionUnit
    rw [stored]
  refine ⟨rfl, fun other => ?_, ?_, fun other different => ?_⟩
  · by_cases same : other = component
    · rw [same, listed, store_getStakingPositionUnit]
      exact accounts
    · rw [(unlisted other same).1, (unlisted other same).2]
      exact kept other
  · unfold stakedUnits
    rw [listed, store_getStakingPositionUnit]
    exact sum
  · unfold stakedUnits
    rw [(unlisted other different).1, (unlisted other different).2]

theorem recordStake_eq_ok {adapterName : String} (kept : module.RecordKept)
    (returned : module.recordStake stakeContract component adapterName units = .ok recorded) :
    module.Records component (module.stakedUnits component + units) recorded := by
  have accounts := kept component
  unfold recordStake at returned
  split at returned
  · rename_i listed
    rw [hasStakingPosition, AddressArrayUtils.contains_eq_true] at listed
    simp only [bind_eq_ok, SafeMath.add_eq_ok, pure_eq_ok] at returned
    obtain ⟨_, ⟨_, rfl⟩, rfl⟩ := returned
    have sum := accounts.add_sum_set listed
      (units + module.getStakingPositionUnit component stakeContract)
    have stored := store_records kept (module.stakingContracts component)
      ⟨(module.positions component stakeContract).adapterHash,
        units + module.getStakingPositionUnit component stakeContract⟩
      (module.stakedUnits component + units) (accounts.set listed _) ?_
    · unfold store at stored
      rwa [Function.update_eq_self] at stored
    · dsimp only [stakedUnits]
      omega
  · rename_i unlisted
    rw [hasStakingPosition, AddressArrayUtils.contains_eq_true] at unlisted
    obtain rfl := (pure_eq_ok _ _).mp returned
    exact store_records kept _ ⟨adapterName, units⟩ _ (accounts.push unlisted _)
      (Accounts.sum_push unlisted _)

theorem recordUnstake_eq_ok (kept : module.RecordKept)
    (returned : module.recordUnstake stakeContract component units = .ok recorded) :
    units ≤ module.stakedUnits component ∧
      module.Records component (module.stakedUnits component - units) recorded := by
  have accounts := kept component
  simp only [recordUnstake, bind_eq_ok, SafeMath.sub_eq_ok] at returned
  obtain ⟨_, ⟨enough, rfl⟩, returned⟩ := returned
  split at returned
  · rename_i remaining
    obtain rfl := (pure_eq_ok _ _).mp returned
    have listed : stakeContract ∈ module.stakingContracts component :=
      accounts.mem_of_ne_zero (by omega)
    have sum := accounts.add_sum_set listed
      (module.getStakingPositionUnit component stakeContract - units)
    have stored := store_records kept (module.stakingContracts component)
      ⟨(module.positions component stakeContract).adapterHash,
        module.getStakingPositionUnit component stakeContract - units⟩
      (module.stakedUnits component - units) (accounts.set listed _) ?_
    · unfold store at stored
      rw [Function.update_eq_self] at stored
      refine ⟨?_, stored⟩
      unfold stakedUnits
      omega
    · dsimp only [stakedUnits]
      omega
  · rename_i spent
    simp only [bind_eq_ok, pure_eq_ok] at returned
    obtain ⟨remaining, removed, rfl⟩ := returned
    obtain ⟨listed, rfl⟩ := AddressArrayUtils.remove_eq_ok removed
    have sum := accounts.add_sum_erase listed 0
    have whole : units = module.getStakingPositionUnit component stakeContract := by omega
    refine ⟨?_, store_records kept _ ⟨"", 0⟩ _ accounts.erase ?_⟩
    · unfold stakedUnits
      omega
    · unfold stakedUnits
      rw [← sum, whole, Nat.add_sub_cancel_left]

end Record

/-! ### The external position -/

/-- The Set after a module has written its external position of one component: the unit is
rounded to a virtual one, and the module's other positions stay as they were. -/
structure Repositioned (module component : Address) (unit : Int) (setToken next : SetToken) :
    Prop where
  bookkeeping : PositionBookkeeping next
  positionMultiplier : next.positionMultiplier = setToken.positionMultiplier
  written : next.externalPositionVirtualUnit component module =
    unit * preciseUnit / setToken.positionMultiplier
  others : ∀ other, other ≠ component → next.externalPositionVirtualUnit other module =
    setToken.externalPositionVirtualUnit other module

section Position

variable {module recorded : StakingModule} {component stakeContract msgSender : Address}
  {adapterName : String} {units : Nat} {world next : World} {protocols : Protocols Ledger}
  {adapters : StakingAdapters} {before after : Execution Ledger}

/-- What is written is the unit that is read after the edit of the default position, and that
edit leaves it alone. -/
theorem editPositions_eq_ok {newDefaultTokenUnit : Nat} {change : Int}
    {newExternalUnit : SetToken → Outcome Int} (kept : PositionBookkeeping world.setToken)
    (reads : ∀ edited unit, newExternalUnit edited = .ok unit →
      unit = edited.externalRealUnit component module.address + change)
    (returned : module.editPositions component newDefaultTokenUnit newExternalUnit world =
      .ok next) :
    Repositioned module.address component
      (world.setToken.externalRealUnit component module.address + change) world.setToken
      next.setToken := by
  simp only [editPositions, bind_eq_ok] at returned
  obtain ⟨edited, defaultEdit, unit, read, externalEdit⟩ := returned
  obtain ⟨defaultEdit, _⟩ := World.callSetToken_eq_ok defaultEdit
  obtain ⟨externalEdit, _⟩ := World.callSetToken_eq_ok externalEdit
  have editedKept := kept.editDefaultPosition defaultEdit
  obtain ⟨multiplier, external⟩ := editDefaultPosition_external defaultEdit
  obtain ⟨multiplierAgain, written, others⟩ := editExternalPosition_unit editedKept externalEdit
  have sameUnit : edited.setToken.externalRealUnit component module.address =
      world.setToken.externalRealUnit component module.address := by
    unfold SetToken.externalRealUnit SetToken.realUnit
    rw [external, multiplier]
  obtain rfl := reads _ _ read
  rw [sameUnit, multiplier] at written
  refine ⟨editedKept.editExternalPosition externalEdit, multiplierAgain.trans multiplier,
    written, fun other different => ?_⟩
  rw [others other different, external]

theorem updateStakeState_eq_ok (records : module.RecordKept)
    (kept : PositionBookkeeping world.setToken)
    (returned : module.updateStakeState stakeContract component adapterName units world =
      .ok (recorded, next)) :
    module.Records component (module.stakedUnits component + units) recorded ∧
      Repositioned module.address component
        (world.setToken.externalRealUnit component module.address + units) world.setToken
        next.setToken := by
  simp only [updateStakeState, bind_eq_ok, pure_eq_ok, Prod.mk.injEq] at returned
  obtain ⟨_, recording, _, _, _, _, _, _, _, edited, rfl, rfl⟩ := returned
  have stored := recordStake_eq_ok records recording
  refine ⟨stored, ?_⟩
  rw [← stored.address]
  refine editPositions_eq_ok kept (fun edited unit read => ?_) edited
  simp only [bind_eq_ok, SetToken.getExternalPositionRealUnit_eq_ok, SafeCast.toInt256_eq_ok,
    SignedSafeMath.add_eq_ok] at read
  obtain ⟨_, ⟨_, rfl⟩, _, ⟨_, rfl⟩, _, rfl⟩ := read
  rfl

theorem updateUnstakeState_eq_ok (records : module.RecordKept)
    (kept : PositionBookkeeping world.setToken)
    (returned : module.updateUnstakeState stakeContract component units world =
      .ok (recorded, next)) :
    units ≤ module.stakedUnits component ∧
    module.Records component (module.stakedUnits component - units) recorded ∧
      Repositioned module.address component
        (world.setToken.externalRealUnit component module.address + -units) world.setToken
        next.setToken := by
  simp only [updateUnstakeState, bind_eq_ok, pure_eq_ok, Prod.mk.injEq] at returned
  obtain ⟨_, recording, _, _, _, _, _, _, _, edited, rfl, rfl⟩ := returned
  obtain ⟨enough, stored⟩ := recordUnstake_eq_ok records recording
  refine ⟨enough, stored, ?_⟩
  rw [← stored.address]
  refine editPositions_eq_ok kept (fun edited unit read => ?_) edited
  simp only [bind_eq_ok, SetToken.getExternalPositionRealUnit_eq_ok, SafeCast.toInt256_eq_ok,
    SignedSafeMath.sub_eq_ok] at read
  obtain ⟨_, ⟨_, rfl⟩, _, ⟨_, rfl⟩, _, rfl⟩ := read
  exact sub_eq_add_neg _ _

/-- Changes of balances before the position is written do not matter. -/
theorem Repositioned.after_onlyBalances {middle : World} {address : Address} {change : Int}
    (only : World.OnlyBalances world middle)
    (repositioned : Repositioned address component
      (middle.setToken.externalRealUnit component address + change) middle.setToken
      next.setToken) :
    Repositioned address component (world.setToken.externalRealUnit component address + change)
      world.setToken next.setToken where
  bookkeeping := repositioned.bookkeeping
  positionMultiplier := repositioned.positionMultiplier.trans only.positionMultiplier
  written := by
    rw [← only.positionMultiplier, ← only.samePositions.externalRealUnit]
    exact repositioned.written
  others other different := by
    rw [repositioned.others other different]
    unfold SetToken.externalPositionVirtualUnit
    rw [only.samePositions.componentPositions]

theorem stake_eq_ok (records : module.RecordKept)
    (kept : PositionBookkeeping before.world.setToken)
    (returned : module.stake protocols adapters msgSender stakeContract component adapterName
      units before = .ok (recorded, after)) :
    module.Records component (module.stakedUnits component + units) recorded ∧
      Repositioned module.address component
        (before.world.setToken.externalRealUnit component module.address + units)
        before.world.setToken after.world.setToken := by
  simp only [stake, bind_eq_ok, pure_eq_ok, Prod.exists, Prod.mk.injEq] at returned
  obtain ⟨_, _, _, _, _, _, _, _, _, _, staked, staking, _, world, updating, rfl, rfl⟩ := returned
  have only := (invokeStake_emits staking).onlyBalances
  obtain ⟨stored, repositioned⟩ := updateStakeState_eq_ok records
    (kept.congr only.samePositions) updating
  exact ⟨stored, repositioned.after_onlyBalances only⟩

theorem unstake_eq_ok (records : module.RecordKept)
    (kept : PositionBookkeeping before.world.setToken)
    (returned : module.unstake protocols adapters msgSender stakeContract component adapterName
      units before = .ok (recorded, after)) :
    units ≤ module.stakedUnits component ∧
    module.Records component (module.stakedUnits component - units) recorded ∧
      Repositioned module.address component
        (before.world.setToken.externalRealUnit component module.address + -units)
        before.world.setToken after.world.setToken := by
  simp only [unstake, bind_eq_ok, pure_eq_ok, Prod.exists, Prod.mk.injEq] at returned
  obtain ⟨_, _, _, _, _, _, unstaked, unstaking, _, world, updating, rfl, rfl⟩ := returned
  have only := (invokeUnstake_emits unstaking).onlyBalances
  obtain ⟨enough, stored, repositioned⟩ := updateUnstakeState_eq_ok records
    (kept.congr only.samePositions) updating
  exact ⟨enough, stored, repositioned.after_onlyBalances only⟩

end Position

end StakingModule

/-! ### Runs -/

/-- The calls that change the staking positions of the Set or read them, and the edits of the
multiplier they are stored with. -/
inductive StakingCall
  | stake (adapters : StakingAdapters) (msgSender stakeContract component : Address)
      (adapterName : String) (componentPositionUnits : Nat)
  | unstake (adapters : StakingAdapters) (msgSender stakeContract component : Address)
      (adapterName : String) (componentPositionUnits : Nat)
  | componentIssueHook (adapters : StakingAdapters) (msgSender : Address)
      (setTokenQuantity : Nat) (component : Address) (isEquity : Bool)
  | componentRedeemHook (adapters : StakingAdapters) (msgSender : Address)
      (setTokenQuantity : Nat) (component : Address) (isEquity : Bool)
  | editPositionMultiplier (msgSender : Address) (newMultiplier : Int)

namespace StakingCall

variable {Ledger : Type}

def apply (protocols : Protocols Ledger) (state : StakingModule × Execution Ledger) :
    StakingCall → Outcome (StakingModule × Execution Ledger)
  | .stake adapters msgSender stakeContract component adapterName componentPositionUnits =>
    state.1.stake protocols adapters msgSender stakeContract component adapterName
      componentPositionUnits state.2
  | .unstake adapters msgSender stakeContract component adapterName componentPositionUnits =>
    state.1.unstake protocols adapters msgSender stakeContract component adapterName
      componentPositionUnits state.2
  | .componentIssueHook adapters msgSender setTokenQuantity component isEquity => do
    let execution ← state.1.componentIssueHook protocols adapters msgSender setTokenQuantity
      component isEquity state.2
    pure (state.1, execution)
  | .componentRedeemHook adapters msgSender setTokenQuantity component isEquity => do
    let execution ← state.1.componentRedeemHook protocols adapters msgSender setTokenQuantity
      component isEquity state.2
    pure (state.1, execution)
  | .editPositionMultiplier msgSender newMultiplier => do
    let execution ← state.2.onWorld (World.callSetToken
      (SetToken.editPositionMultiplier ⟨state.2.world.controller, msgSender⟩ newMultiplier))
    pure (state.1, execution)

/-- For every component the external unit of the module is the sum of the units it records, and
without a staking contract the component has no external position of the module. -/
def Agrees (state : StakingModule × Execution Ledger) : Prop :=
  ∀ component,
    state.2.world.setToken.externalRealUnit component state.1.address =
      state.1.stakedUnits component ∧
    (state.1.stakingContracts component = [] →
      state.1.address ∉ state.2.world.setToken.externalPositionModules component)

/-- Nothing is lost by a call: the multiplier divides the sum that a stake or an unstake writes,
and a new multiplier reads every stored unit back as the units staked. -/
def Exact (state : StakingModule × Execution Ledger) : StakingCall → Prop
  | .stake _ _ _ component _ componentPositionUnits =>
    state.2.world.setToken.positionMultiplier ∣
      ((state.1.stakedUnits component + componentPositionUnits : Nat) : Int) * preciseUnit
  | .unstake _ _ _ component _ componentPositionUnits =>
    state.2.world.setToken.positionMultiplier ∣
      ((state.1.stakedUnits component - componentPositionUnits : Nat) : Int) * preciseUnit
  | .componentIssueHook _ _ _ _ _ => True
  | .componentRedeemHook _ _ _ _ _ => True
  | .editPositionMultiplier _ newMultiplier => ∀ component,
    (state.1.stakedUnits component : Int) * preciseUnit ≤
      state.2.world.setToken.externalPositionVirtualUnit component state.1.address *
        newMultiplier ∧
    state.2.world.setToken.externalPositionVirtualUnit component state.1.address *
      newMultiplier < (state.1.stakedUnits component + 1) * preciseUnit

/-- The record lists the contracts with units staked, and the positions of the Set are kept. -/
structure Sound (state : StakingModule × Execution Ledger) : Prop where
  records : state.1.RecordKept
  bookkeeping : PositionBookkeeping state.2.world.setToken

section Step

variable {protocols : Protocols Ledger} {state next : StakingModule × Execution Ledger}
  {call : StakingCall}

/-- What a call does: it writes the units staked of one component, changes nothing but balances,
or replaces the multiplier. -/
inductive Effect (state : StakingModule × Execution Ledger) (call : StakingCall)
    (next : StakingModule × Execution Ledger) : Prop
  | wrote (component : Address) (units : Nat)
      (records : state.1.Records component units next.1)
      (repositioned : StakingModule.Repositioned state.1.address component
        (state.2.world.setToken.externalRealUnit component state.1.address +
          (units - state.1.stakedUnits component))
        state.2.world.setToken next.2.world.setToken)
      (exactly : call.Exact state ↔
        state.2.world.setToken.positionMultiplier ∣ (units : Int) * preciseUnit)
  | quiet (record : next.1 = state.1)
      (only : World.OnlyBalances state.2.world next.2.world) (exactly : call.Exact state)
  | multiplied (newMultiplier : Int) (record : next.1 = state.1)
      (setToken : next.2.world.setToken =
        { state.2.world.setToken with positionMultiplier := newMultiplier })
      (bookkeeping : PositionBookkeeping next.2.world.setToken)
      (exactly : call.Exact state ↔ ∀ component,
        (state.1.stakedUnits component : Int) * preciseUnit ≤
          state.2.world.setToken.externalPositionVirtualUnit component state.1.address *
            newMultiplier ∧
        state.2.world.setToken.externalPositionVirtualUnit component state.1.address *
          newMultiplier < (state.1.stakedUnits component + 1) * preciseUnit)

theorem apply_effect (sound : Sound state) (returned : apply protocols state call = .ok next) :
    Effect state call next := by
  obtain ⟨records, kept⟩ := sound
  cases call with
  | stake adapters msgSender stakeContract component adapterName units =>
    obtain ⟨stored, repositioned⟩ := StakingModule.stake_eq_ok records kept returned
    refine .wrote component _ stored ?_ Iff.rfl
    rwa [Nat.cast_add, add_sub_cancel_left]
  | unstake adapters msgSender stakeContract component adapterName units =>
    obtain ⟨enough, stored, repositioned⟩ := StakingModule.unstake_eq_ok records kept returned
    refine .wrote component _ stored ?_ Iff.rfl
    rwa [Nat.cast_sub enough, sub_sub_cancel_left]
  | componentIssueHook adapters msgSender quantity component isEquity =>
    simp only [apply, bind_eq_ok, pure_eq_ok] at returned
    obtain ⟨execution, hook, rfl⟩ := returned
    exact .quiet rfl (StakingModule.componentIssueHook_emits hook).onlyBalances trivial
  | componentRedeemHook adapters msgSender quantity component isEquity =>
    simp only [apply, bind_eq_ok, pure_eq_ok] at returned
    obtain ⟨execution, hook, rfl⟩ := returned
    exact .quiet rfl (StakingModule.componentRedeemHook_emits hook).onlyBalances trivial
  | editPositionMultiplier msgSender newMultiplier =>
    simp only [apply, bind_eq_ok, pure_eq_ok] at returned
    obtain ⟨execution, edited, rfl⟩ := returned
    obtain ⟨edited, _⟩ := Execution.onWorld_eq_ok edited
    obtain ⟨edited, _⟩ := World.callSetToken_eq_ok edited
    exact .multiplied newMultiplier rfl (SetToken.editPositionMultiplier_eq_ok edited).2.2
      (kept.editPositionMultiplier edited) Iff.rfl

theorem Sound.apply (sound : Sound state) (returned : apply protocols state call = .ok next) :
    Sound next := by
  cases apply_effect sound returned with
  | wrote component units records repositioned exactly =>
    exact ⟨records.kept, repositioned.bookkeeping⟩
  | quiet record only exactly =>
    exact ⟨record ▸ sound.records, sound.bookkeeping.congr only.samePositions⟩
  | multiplied newMultiplier record setToken bookkeeping exactly =>
    exact ⟨record ▸ sound.records, bookkeeping⟩

/-- Where the external unit is the sum, no contract means no unit, and so no position. -/
theorem Sound.agrees_iff (sound : Sound state) :
    Agrees state ↔ ∀ component,
      state.2.world.setToken.externalRealUnit component state.1.address =
        state.1.stakedUnits component := by
  refine ⟨fun agrees component => (agrees component).1, fun sums component =>
    ⟨sums component, fun none => ?_⟩⟩
  have position := sound.bookkeeping.positions component
  have nothing : state.1.stakedUnits component = 0 := by
    unfold StakingModule.stakedUnits
    rw [none, List.map_nil, List.sum_nil]
  have unread : state.2.world.setToken.externalRealUnit component state.1.address = 0 := by
    rw [sums, nothing, Nat.cast_zero]
  have absent := position.externalReal state.1.address unread
  exact fun listed => (position.modules.mem_iff state.1.address).mp listed absent

/-- From a state in which they agree, a call leaves the record and the position in agreement
exactly when it is exact. -/
theorem Sound.agrees_iff_exact (sound : Sound state) (agrees : Agrees state)
    (returned : StakingCall.apply protocols state call = .ok next) :
    Agrees next ↔ call.Exact state := by
  have sums := sound.agrees_iff.mp agrees
  rw [(sound.apply returned).agrees_iff]
  cases apply_effect sound returned with
  | wrote component units records repositioned exactly =>
    rw [exactly, ← Rounding.ediv_mul_ediv_eq_iff preciseUnit_int_pos
      sound.bookkeeping.multiplierPositive, records.address]
    have written : next.2.world.setToken.externalRealUnit component state.1.address =
        (units : Int) * preciseUnit / state.2.world.setToken.positionMultiplier *
          state.2.world.setToken.positionMultiplier / preciseUnit := by
      unfold SetToken.externalRealUnit SetToken.realUnit
      rw [repositioned.written, repositioned.positionMultiplier, sums, add_sub_cancel]
    constructor
    · intro after
      rw [← written, after, records.staked]
    · intro restored other
      by_cases same : other = component
      · rw [same, written, restored, records.staked]
      · rw [records.others other same, ← sums]
        unfold SetToken.externalRealUnit SetToken.realUnit
        rw [repositioned.others other same, repositioned.positionMultiplier]
  | quiet record only exactly =>
    refine iff_of_true (fun component => ?_) exactly
    rw [record, only.samePositions.externalRealUnit, sums]
  | multiplied newMultiplier record setToken bookkeeping exactly =>
    rw [exactly]
    refine forall_congr' fun component => ?_
    have read : next.2.world.setToken.externalRealUnit component state.1.address =
        state.2.world.setToken.externalPositionVirtualUnit component state.1.address *
          newMultiplier / preciseUnit := by
      rw [setToken]
      rfl
    rw [record, read, Int.ediv_eq_iff_of_pos preciseUnit_int_pos, add_mul, one_mul]

end Step

/-- The module has not been used for the Set. -/
structure Unused (state : StakingModule × Execution Ledger) : Prop where
  contracts : ∀ component, state.1.stakingContracts component = []
  units : ∀ component stakeContract, state.1.getStakingPositionUnit component stakeContract = 0
  positions : ∀ component,
    state.1.address ∉ state.2.world.setToken.externalPositionModules component

/-- Nothing is recorded or stored for an unused module. -/
theorem Unused.nothing {state : StakingModule × Execution Ledger} (unused : Unused state)
    (kept : PositionBookkeeping state.2.world.setToken) (component : Address) :
    state.1.stakedUnits component = 0 ∧
      state.2.world.setToken.externalPositionVirtualUnit component state.1.address = 0 := by
  have position := kept.positions component
  have absent := mt (position.modules.mem_iff state.1.address).mpr (unused.positions component)
  rw [Set.mem_ofPred_eq, not_not] at absent
  refine ⟨?_, absent⟩
  unfold StakingModule.stakedUnits
  rw [unused.contracts component, List.map_nil, List.sum_nil]

/-- In every run from an unused module, the record and the external position agree in every
state reached exactly when every call that returns is exact in the state it finds. -/
theorem ledger_agrees_iff (protocols : Protocols Ledger)
    (start : StakingModule × Execution Ledger) (unused : Unused start)
    (kept : PositionBookkeeping start.2.world.setToken) (calls : List StakingCall) :
    (∀ front, front <+: calls → Agrees (run (apply protocols) start front)) ↔
      ∀ front call next, front ++ [call] <+: calls →
        apply protocols (run (apply protocols) start front) call = .ok next →
        call.Exact (run (apply protocols) start front) := by
  have soundStart : Sound start := by
    refine ⟨fun component => ?_, kept⟩
    rw [unused.contracts component]
    exact ⟨List.nodup_nil, fun stakeContract _ => unused.units component stakeContract⟩
  have agreesStart : Agrees start := by
    refine soundStart.agrees_iff.mpr fun component => ?_
    obtain ⟨staked, stored⟩ := unused.nothing kept component
    unfold SetToken.externalRealUnit SetToken.realUnit
    rw [stored, staked, zero_mul, Int.zero_ediv, Nat.cast_zero]
  exact run_keeps_iff (apply protocols) Sound Agrees (fun state call => call.Exact state)
    (fun _ _ _ sound returned => sound.apply returned)
    (fun _ _ _ sound agrees returned => sound.agrees_iff_exact agrees returned)
    soundStart agreesStart calls

/-! ### A sample Set with a staking contract -/

/-- A staking contract that takes token 3 from the Set, and gives it back. The first byte of the
call data tells the two apart. -/
def stakingExecute (invocation : Invocation) (world : World) (ledger : Unit) :
    Outcome (Nat × World × Unit) :=
  let moved (balance : Nat) : Outcome (Nat × World × Unit) :=
    pure (0, world.storeToken 3
      { world.token 3 with
        balanceOf := Function.update (world.token 3).balanceOf world.setToken.address balance },
      ledger)
  match invocation.callData with
  | .raw (1 :: quantity) => moved (world.held 3 - AbiCoder.uint256 quantity 0)
  | .raw (2 :: quantity) => moved (world.held 3 + AbiCoder.uint256 quantity 0)
  | _ => pure (0, world, ledger)

theorem stakingExecute_onlyBalances (invocation : Invocation) (world : World) (ledger : Unit)
    (word : Nat) (next : World) (nextLedger : Unit)
    (returned : stakingExecute invocation world ledger = .ok (word, next, nextLedger)) :
    World.OnlyBalances world next := by
  unfold stakingExecute at returned
  split at returned
  all_goals
    rw [pure_eq_ok, Prod.mk.injEq, Prod.mk.injEq] at returned
    obtain ⟨_, rfl, _⟩ := returned
    first
    | exact World.onlyBalances_storeToken _ _ rfl
    | exact World.OnlyBalances.refl _

def stakingProtocols : Protocols Unit where
  execute := stakingExecute
  onlyBalances := stakingExecute_onlyBalances
  borrowBalanceStored := fun _ _ _ => 0
  borrowBalanceCurrent := fun _ _ ledger => .ok (0, ledger)

def stakingAdapters : StakingAdapters where
  getIntegrationAdapter := fun _ _ => 40
  stakingAdapter := fun _ =>
    { getSpenderAddress := id
      getStakeCallData := fun stakeContract quantity =>
        (stakeContract, 0, 1 :: AbiCoder.encodeUint256 quantity)
      getUnstakeCallData := fun stakeContract quantity =>
        (stakeContract, 0, 2 :: AbiCoder.encodeUint256 quantity) }

/-- A Set of supply one with a default unit of one of token 3, an unused staking module at
address 4 and a module at address 6 that edits the multiplier. -/
def stakingStart : StakingModule × Execution Unit where
  fst := ⟨4, fun _ => [], fun _ _ => ⟨"", 0⟩⟩
  snd :=
    { world :=
        { timestamp := 1000
          controller :=
            { sampleController with
              isSet := fun account => account = 2
              isModule := fun account => account = 4 ∨ account = 6 }
          setToken :=
            { SetToken.construct 2 [3] [10 ^ 18] [4] 5 with
              totalSupply := 10 ^ 18
              moduleStates := fun account =>
                if account = 4 ∨ account = 6 then .initialized else .none }
          tokens := fun _ =>
            { totalSupply := 10 ^ 18
              balanceOf := fun account => if account = 2 then 10 ^ 18 else 0
              allowance := fun _ _ => 0 } }
      ledger := ()
      events := [] }

theorem stakingStart_unused : Unused stakingStart where
  contracts _ := rfl
  units _ _ := rfl
  positions component := by
    have positive : ∀ entry ∈ [((3 : Address), (10 ^ 18 : Int))], 0 < entry.2 := by
      intro entry member
      obtain rfl := List.mem_singleton.mp member
      decide
    obtain ⟨_, _, modules, _⟩ := storeUnits _ positive SetToken.emptyPositions component le_rfl
    have none : stakingStart.2.world.setToken.externalPositionModules component = [] := modules
    rw [none]
    exact List.not_mem_nil

theorem stakingStart_bookkeeping :
    PositionBookkeeping stakingStart.2.world.setToken :=
  (PositionBookkeeping.create sampleController_create).congr ⟨rfl, rfl, rfl⟩

/-- The manager stakes ten units on one contract and takes them back. -/
def stakeAndUnstake : List StakingCall :=
  [.stake stakingAdapters 5 50 3 "staking" 10, .unstake stakingAdapters 5 50 3 "staking" 10]

/-- At a multiplier of three tenths the ten units are read back as nine, and when they are
unstaked a negative position remains. -/
theorem ledger_disagrees :
    Unused stakingStart ∧ PositionBookkeeping stakingStart.2.world.setToken ∧
    let reached := run (apply stakingProtocols) stakingStart
      (.editPositionMultiplier 6 (3 * 10 ^ 17) :: stakeAndUnstake)
    reached.1.stakingContracts 3 = [] ∧
      reached.2.world.setToken.externalRealUnit 3 4 = -2 ∧
      4 ∈ reached.2.world.setToken.externalPositionModules 3 ∧ ¬ Agrees reached := by
  have closed : (run (apply stakingProtocols) stakingStart
      (.editPositionMultiplier 6 (3 * 10 ^ 17) :: stakeAndUnstake)).1.stakingContracts 3 = [] := by
    decide +kernel
  have listed : 4 ∈ (run (apply stakingProtocols) stakingStart
      (.editPositionMultiplier 6 (3 * 10 ^ 17) ::
        stakeAndUnstake)).2.world.setToken.externalPositionModules 3 := by
    decide +kernel
  have sameAddress : (run (apply stakingProtocols) stakingStart
      (.editPositionMultiplier 6 (3 * 10 ^ 17) :: stakeAndUnstake)).1.address = 4 := by
    decide +kernel
  refine ⟨stakingStart_unused, stakingStart_bookkeeping, closed, by decide +kernel, listed,
    fun agrees => ?_⟩
  exact (agrees 3).2 closed (sameAddress ▸ listed)

/-- At a multiplier of three tenths the manager stakes nine units on one contract and three on
another, and takes the nine back. -/
def stakeNine : List StakingCall :=
  [.editPositionMultiplier 6 (3 * 10 ^ 17), .stake stakingAdapters 5 50 3 "staking" 9,
    .stake stakingAdapters 5 51 3 "staking" 3, .unstake stakingAdapters 5 50 3 "staking" 9]

/-- The multiplier divides nine units, twelve and three, so nothing is lost. -/
theorem ledger_agrees_iff_nine :
    let reached := run (apply stakingProtocols) stakingStart stakeNine
    reached.2.world.setToken.positionMultiplier = 3 * 10 ^ 17 ∧
      reached.1.stakingContracts 3 = [51] ∧ Agrees reached := by
  refine ⟨by decide +kernel, by decide +kernel, ?_⟩
  refine (ledger_agrees_iff stakingProtocols stakingStart stakingStart_unused
    stakingStart_bookkeeping stakeNine).mpr ?_ stakeNine (List.prefix_refl _)
  refine met_cons (fun _ _ component => ?_) (met_cons (fun _ _ => ?_)
    (met_cons (fun _ _ => ?_) (met_cons (fun _ _ => ?_) met_nil)))
  · obtain ⟨staked, stored⟩ := stakingStart_unused.nothing stakingStart_bookkeeping component
    rw [run_nil, staked, stored]
    decide
  all_goals
    unfold Exact
    decide +kernel

end StakingCall

end IndexProtocol

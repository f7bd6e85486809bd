/-
This file proves exactly when an order makes every external position module
replicate its position of every component once. A component hook replicates the
whole position whenever the module answers the pass it is called from, so the
question is how many of the two passes reach a module that answers: a component
that is in both passes has its Compound debt borrowed or repaid twice, and its
stakes made or taken back twice.
-/

import IndexProtocol.System.OrderAccounting
import Mathlib.Algebra.Order.BigOperators.Group.List

namespace IndexProtocol

open Revert

/-! ### The operations of one module on one component -/

/-- An operation of a positive quantity by the module on the component. -/
def Event.operatedBy (module component : Address) : Event → Bool
  | .operated operation => operation.module = module ∧ operation.component = component ∧
      0 < operation.quantity
  | _ => false

/-- Every external position module of every component carries out exactly the operations that
replicate its position once, leaving out operations of nothing. -/
def ReplicatedOnce {Ledger : Type} (deployment : Deployment Ledger) (isIssue : Bool)
    (quantity : Nat) (setToken : SetToken) (events : List Event) : Prop :=
  ∀ component ∈ setToken.components, ∀ module ∈ setToken.externalPositionModules component,
    ∀ hook, deployment.hookModule module = some hook →
      events.filter (Event.operatedBy module component) =
        ((hook.replication isIssue quantity setToken component).map .operated).filter
          (Event.operatedBy module component)

namespace HookModule

/-- When the module's position of a component is replicated once. A Compound module is called
from both passes, so its debt must round to nothing or the component have no equity in the
order; an Aave module answers the debt pass only; a staking module must have nothing to stake
or the component be in exactly one pass. -/
def InOnePass (isIssue : Bool) (quantity : Nat) (setToken : SetToken) (component : Address) :
    HookModule → Prop
  | .compound module =>
    LeverageHooks.notionalDebt isIssue
      (LeverageHooks.debtUnit module.address component setToken) quantity = 0 ∨
    DebtIssuanceModule.equityQuantity isIssue
      (DebtIssuanceModule.equityUnit setToken component) quantity = 0
  | .aave _ => True
  | .staking module =>
    (∀ operation ∈ module.replication isIssue quantity component, operation.quantity = 0) ∨
    (0 < DebtIssuanceModule.equityQuantity isIssue
        (DebtIssuanceModule.equityUnit setToken component) quantity ↔
      ¬ 0 < LeverageHooks.notionalDebt isIssue
        (DebtIssuanceModule.debtUnit setToken component) quantity)

end HookModule

namespace DebtIssuanceModule

variable {Ledger : Type}

section Filtered

variable {deployment : Deployment Ledger} {isIssue isEquity : Bool} {quantity : Nat}
  {setToken : SetToken} {component module : Address} {hook : HookModule}

/-- The operations of one module among what the hooks of a component emit. -/
theorem filter_hookEvents (nodup : (setToken.externalPositionModules component).Nodup)
    (listed : module ∈ setToken.externalPositionModules component)
    (found : deployment.hookModule module = some hook) :
    (hookEvents deployment isIssue isEquity quantity setToken component).filter
      (Event.operatedBy module component) =
    ((hook.response isIssue isEquity quantity setToken component).map .operated).filter
      (Event.operatedBy module component) := by
  unfold hookEvents
  rw [Tracing.filter_flatMap_of_nodup nodup listed]
  · unfold Deployment.response
    rw [found]
  · intro other _ different
    refine List.filter_eq_nil_iff.mpr fun event member => ?_
    obtain ⟨operation, responded, rfl⟩ := List.mem_map.mp member
    obtain ⟨byOther, _⟩ := Deployment.operation_of_response responded
    simp [Event.operatedBy, byOther, different]

/-- The operations on a component among what a pass emits for a component. -/
theorem filter_positionEvents (other : Address) (componentQuantity : Nat) :
    (positionEvents deployment isIssue isEquity quantity setToken other
      componentQuantity).filter (Event.operatedBy module component) =
    if 0 < componentQuantity then
      (hookEvents deployment isIssue isEquity quantity setToken other).filter
        (Event.operatedBy module component)
    else [] := by
  unfold positionEvents
  split
  · split
    · rw [List.filter_cons_of_neg (by simp [Event.operatedBy])]
    · rw [List.filter_append, List.filter_cons_of_neg (by simp [Event.operatedBy]),
        List.filter_nil, List.append_nil]
  · rfl

/-- The quantity of a component in a pass. -/
def componentQuantity (isIssue isEquity : Bool) (quantity : Nat) (setToken : SetToken)
    (component : Address) : Nat :=
  passQuantity isIssue isEquity quantity
    (component, equityUnit setToken component, debtUnit setToken component)

/-- The operations of one module on one component in a pass: its response, if the component is
in the pass. -/
theorem filter_passEvents (computed : ∃ units, getTotalIssuanceUnits setToken = .ok units)
    (components : setToken.components.Nodup) (member : component ∈ setToken.components)
    (nodup : (setToken.externalPositionModules component).Nodup)
    (listed : module ∈ setToken.externalPositionModules component)
    (found : deployment.hookModule module = some hook) :
    (passEvents deployment isIssue isEquity quantity setToken).filter
      (Event.operatedBy module component) =
    if 0 < componentQuantity isIssue isEquity quantity setToken component then
      ((hook.response isIssue isEquity quantity setToken component).map .operated).filter
        (Event.operatedBy module component)
    else [] := by
  obtain ⟨units, computed⟩ := computed
  unfold passEvents
  rw [orderUnits_eq computed, getTotalIssuanceUnits_eq_ok computed, List.flatMap_map,
    Tracing.filter_flatMap_of_nodup components member, filter_positionEvents,
    filter_hookEvents nodup listed found]
  · rfl
  · intro other _ different
    rw [filter_positionEvents]
    split
    · refine List.filter_eq_nil_iff.mpr fun event emitted => ?_
      obtain ⟨_, _, responded⟩ := List.mem_flatMap.mp emitted
      obtain ⟨operation, answered, rfl⟩ := List.mem_map.mp responded
      obtain ⟨_, onOther⟩ := Deployment.operation_of_response answered
      simp [Event.operatedBy, onOther, different]
    · rfl

end Filtered

/-! ### Once, twice or not at all -/

/-- A list taken once for each of two conditions is the list exactly when it is empty or one
of the conditions holds. -/
theorem once_iff {Item : Type} (items : List Item) (first second : Prop) [Decidable first]
    [Decidable second] :
    ((if first then items else []) ++ (if second then items else []) = items) ↔
      items = [] ∨ (first ↔ ¬ second) := by
  by_cases inFirst : first <;> by_cases inSecond : second
  · simp [inFirst, inSecond]
  · simp [inFirst, inSecond]
  · simp [inFirst, inSecond]
  · simp [inFirst, inSecond, eq_comm]

section Once

variable {deployment : Deployment Ledger} {isIssue : Bool} {quantity : Nat}
  {setToken : SetToken} {component module : Address} {hook : HookModule}

/-- A module's share of the debt of a component is at most the whole. -/
theorem notionalDebt_mono (isIssue : Bool) (quantity : Nat) {first second : Nat}
    (order : first ≤ second) :
    LeverageHooks.notionalDebt isIssue first quantity ≤
      LeverageHooks.notionalDebt isIssue second quantity := by
  unfold LeverageHooks.notionalDebt
  cases isIssue with
  | true =>
    simp only [if_true]
    exact Nat.div_le_div_right (Nat.mul_le_mul_right _ order)
  | false =>
    simp only [Bool.false_eq_true, if_false]
    refine (Rounding.mulCeil_le_iff _ _ _ preciseUnit_pos _).mpr ?_
    exact (Nat.mul_le_mul_right _ order).trans
      (Rounding.le_mulCeil_mul _ _ _ preciseUnit_pos)

theorem debtUnit_le (listed : module ∈ setToken.externalPositionModules component) :
    LeverageHooks.debtUnit module component setToken ≤ debtUnit setToken component :=
  List.single_le_sum (fun _ _ => Nat.zero_le _) _ (List.mem_map.mpr ⟨module, listed, rfl⟩)

/-- The operations of a hook that replicate its position are all its own on the component, so
none is left if and only if all are of nothing. -/
theorem filter_replication_eq_nil (address : hook.address = module) :
    ((hook.replication isIssue quantity setToken component).map Event.operated).filter
      (Event.operatedBy module component) = [] ↔
    ∀ operation ∈ hook.replication isIssue quantity setToken component,
      operation.quantity = 0 := by
  rw [List.filter_eq_nil_iff]
  constructor
  · intro silent operation member
    obtain ⟨byHook, inComponent⟩ := HookModule.operation_of_replication member
    have quiet := silent _ (List.mem_map.mpr ⟨operation, member, rfl⟩)
    simp only [Event.operatedBy, byHook, inComponent, address, true_and,
      decide_eq_true_eq] at quiet
    omega
  · intro silent event member
    obtain ⟨operation, listed, rfl⟩ := List.mem_map.mp member
    simp [Event.operatedBy, silent operation listed]

/-- The two passes together replicate the position once exactly under the condition of the
module's kind. -/
theorem replicated_iff (listed : module ∈ setToken.externalPositionModules component)
    (found : deployment.hookModule module = some hook) :
    let replicated :=
      ((hook.replication isIssue quantity setToken component).map Event.operated).filter
        (Event.operatedBy module component)
    let response := fun isEquity =>
      ((hook.response isIssue isEquity quantity setToken component).map Event.operated).filter
        (Event.operatedBy module component)
    ((if 0 < componentQuantity isIssue isIssue quantity setToken component then
        response isIssue else []) ++
      (if 0 < componentQuantity isIssue (!isIssue) quantity setToken component then
        response (!isIssue) else []) = replicated) ↔
      hook.InOnePass isIssue quantity setToken component := by
  intro replicated response
  have address := deployment.hookModule_address module hook found
  have answered : ∀ isEquity, response isEquity =
      if hook.answers isEquity = true then replicated else [] := by
    intro isEquity
    simp only [response, replicated, HookModule.response]
    split <;> rfl
  have merged : ∀ isEquity : Bool,
      (if 0 < componentQuantity isIssue isEquity quantity setToken component then
        response isEquity else []) =
      if 0 < componentQuantity isIssue isEquity quantity setToken component ∧
        hook.answers isEquity = true then replicated else [] := by
    intro isEquity
    rw [answered, ite_and]
  rw [merged, merged, once_iff, filter_replication_eq_nil address]
  have swapped : ∀ first second : Prop, (first ↔ ¬ second) ↔ (second ↔ ¬ first) := by
    intro first second
    tauto
  have equityFirst :
      (0 < componentQuantity isIssue isIssue quantity setToken component ∧
          hook.answers isIssue = true ↔
        ¬ (0 < componentQuantity isIssue (!isIssue) quantity setToken component ∧
          hook.answers (!isIssue) = true)) ↔
      (0 < componentQuantity isIssue true quantity setToken component ∧
          hook.answers true = true ↔
        ¬ (0 < componentQuantity isIssue false quantity setToken component ∧
          hook.answers false = true)) := by
    cases isIssue with
    | true => exact Iff.rfl
    | false => exact swapped _ _
  rw [equityFirst]
  have owed := notionalDebt_mono isIssue quantity (debtUnit_le listed)
  simp only [componentQuantity, passQuantity, if_true, Bool.false_eq_true, if_false]
  cases hook with
  | compound module' =>
    obtain rfl := address
    simp only [HookModule.replication, CompoundLeverageModule.replication,
      HookModule.answers, HookModule.InOnePass, List.mem_singleton, forall_eq, and_true]
    simp only [HookModule.address] at owed
    omega
  | aave module' =>
    obtain rfl := address
    simp only [HookModule.replication, AaveLeverageModule.replication, HookModule.answers,
      HookModule.InOnePass, List.mem_singleton, forall_eq, Bool.not_true, Bool.not_false,
      Bool.false_eq_true, and_false, and_true, false_iff, not_not, iff_true]
    simp only [HookModule.address] at owed
    omega
  | staking module' =>
    simp only [HookModule.replication, HookModule.answers, HookModule.InOnePass, and_true]

end Once

/-! ### Whole orders -/

/-- The condition of its kind holds of every module's position of every component. -/
def AllInOnePass (deployment : Deployment Ledger) (isIssue : Bool) (quantity : Nat)
    (setToken : SetToken) : Prop :=
  ∀ component ∈ setToken.components, ∀ module ∈ setToken.externalPositionModules component,
    ∀ hook, deployment.hookModule module = some hook →
      hook.InOnePass isIssue quantity setToken component

section Whole

variable {module : DebtIssuanceModule} {deployment : Deployment Ledger} {isIssue : Bool}
  {quantity : Nat} {setToken : SetToken} {events : List Event}

/-- The trace of an order replicates every position once exactly when every position is in one
pass. -/
theorem replicatedOnce_iff (traced : Traced module deployment isIssue quantity setToken events) :
    ReplicatedOnce deployment isIssue (module.resolvedQuantity isIssue quantity) setToken
        events ↔
      AllInOnePass deployment isIssue (module.resolvedQuantity isIssue quantity) setToken := by
  obtain ⟨kept, computed, units, mints, rfl⟩ := traced
  unfold ReplicatedOnce AllInOnePass
  refine forall₂_congr fun component member => forall₂_congr fun module listed =>
    forall₂_congr fun hook found => ?_
  have nodup := (kept.positions component).modules.nodup
  have noMints : (mints.map fun mint => Event.minted mint.1 mint.2).filter
      (Event.operatedBy module component) = [] := by
    refine List.filter_eq_nil_iff.mpr fun event minted => ?_
    obtain ⟨_, _, rfl⟩ := List.mem_map.mp minted
    simp [Event.operatedBy]
  rw [List.filter_append, noMints, List.append_nil,
    List.filter_cons_of_neg (by simp [Event.operatedBy]), resolutionEvents, List.filter_append,
    filter_passEvents computed kept.components.nodup member nodup listed found,
    filter_passEvents computed kept.components.nodup member nodup listed found]
  exact replicated_iff listed found

end Whole

end DebtIssuanceModule

/-! ### A debt beside a default position -/

theorem sampleExecution_other {defaultUnit : Int} {external : List (Address × Int)}
    {component : Address} (unlisted : component ≠ 3) :
    (sampleExecution defaultUnit external 0).world.setToken.componentPositions component =
      ⟨0, [], fun _ => ⟨0, []⟩⟩ :=
  if_neg unlisted

/-- A module is listed with a unit that is not zero exactly when it is looked up as one. -/
theorem lookup_ne_zero_iff {external : List (Address × Int)}
    (owed : ∀ entry ∈ external, entry.2 ≠ 0) (module : Address) :
    module ∈ external.map Prod.fst ↔ (external.lookup module).getD 0 ≠ 0 := by
  induction external with
  | nil => simp
  | cons entry rest inductionHypothesis =>
    obtain ⟨account, unit⟩ := entry
    have others := inductionHypothesis fun other member =>
      owed other (List.mem_cons_of_mem _ member)
    rw [List.map_cons, List.mem_cons, List.lookup_cons, others]
    by_cases same : module = account
    · subst same
      simpa using owed _ List.mem_cons_self
    · simp [beq_eq_false_iff_ne.mpr same, same]

/-- The sample Set with external positions keeps the bookkeeping of its positions. -/
theorem sampleExecution_bookkeeping {defaultUnit : Int} {external : List (Address × Int)}
    (held : 0 < defaultUnit) (distinct : (external.map Prod.fst).Nodup)
    (owed : ∀ entry ∈ external, entry.2 ≠ 0) :
    PositionBookkeeping (sampleExecution defaultUnit external 0).world.setToken where
  multiplierPositive := preciseUnit_int_pos
  components := by
    refine ⟨List.nodup_singleton _, fun component => ?_⟩
    by_cases listed : component = 3
    · subst listed
      exact iff_of_true (List.mem_singleton.mpr rfl) (Or.inl held)
    · refine iff_of_false (fun member => listed (List.mem_singleton.mp member)) ?_
      rw [Set.mem_ofPred_eq, sampleExecution_other listed]
      exact not_or.mpr ⟨lt_irrefl _, not_not.mpr rfl⟩
  positions := by
    intro component
    by_cases listed : component = 3
    · subst listed
      have restored : ∀ virtualUnit : Int, virtualUnit * (10 ^ 18 : Int) / preciseUnit = 0 →
          virtualUnit = 0 := by
        intro virtualUnit real
        have scale : ((preciseUnit : Nat) : Int) = 10 ^ 18 := by decide
        rw [scale] at real
        omega
      exact ⟨held.le, restored _, ⟨distinct, lookup_ne_zero_iff owed⟩, fun other => restored _⟩
    · rw [sampleExecution_other listed]
      exact ⟨le_rfl, fun _ => rfl, ⟨List.nodup_nil, fun _ => by simp⟩, fun _ _ => rfl⟩

/-- A Set with a default unit of one and a debt of half a unit of the same token at one
module. -/
def sampleIndebted (module : Address) : Execution Unit :=
  sampleExecution (10 ^ 18) [(module, -(5 * 10 ^ 17))] 0

end IndexProtocol

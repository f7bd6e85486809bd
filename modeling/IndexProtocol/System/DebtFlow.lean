/-
This file compares, for one component, the debt that the lending modules borrow
or repay in an order with the debt that the order pays out or collects. The
modules round their own shares and the order rounds the share of their sum, so
the two differ by what the roundings leave together, and by the loans that a
Compound module takes out or pays down a second time in the equity pass. Where
they differ, the Set pays from its own balance or keeps a residue.
-/

import IndexProtocol.System.OrderBalances
import IndexProtocol.System.Replication

namespace IndexProtocol

open Revert

namespace DebtIssuanceModule

variable {Ledger : Type}

/-- Every external position of the component is held by a Compound or an Aave module. -/
def LendingOnly (deployment : Deployment Ledger) (setToken : SetToken) (component : Address) :
    Prop :=
  ∀ module ∈ setToken.externalPositionModules component,
    (∃ compound, deployment.hookModule module = some (.compound compound)) ∨
    ∃ aave, deployment.hookModule module = some (.aave aave)

/-- The debt units of a component, module by module. -/
def moduleDebts (setToken : SetToken) (component : Address) : List Nat :=
  (setToken.externalPositionModules component).map fun module =>
    LeverageHooks.debtUnit module component setToken

/-- The shares of a component's debt that its Compound modules take on or pay back when they
are called. -/
def compoundShares (deployment : Deployment Ledger) (isIssue : Bool) (quantity : Nat)
    (setToken : SetToken) (component : Address) : Nat :=
  ((setToken.externalPositionModules component).map fun module =>
    match deployment.hookModule module with
    | some (.compound _) => LeverageHooks.notionalDebt isIssue
        (LeverageHooks.debtUnit module component setToken) quantity
    | _ => 0).sum

/-- The loans taken out or paid down a second time: those of the Compound modules, if the
component has an equity quantity. -/
def repeatedLoans (deployment : Deployment Ledger) (isIssue : Bool) (quantity : Nat)
    (setToken : SetToken) (component : Address) : Nat :=
  if 0 < equityQuantity isIssue (equityUnit setToken component) quantity then
    compoundShares deployment isIssue quantity setToken component
  else 0

/-- What the shares of an issuance leave when they are rounded down one by one is what is borrowed
a second time. -/
def BorrowsWhole (deployment : Deployment Ledger) (quantity : Nat) (setToken : SetToken)
    (component : Address) : Prop :=
  ((moduleDebts setToken component).map (Rounding.remainder preciseUnit quantity)).sum /
    preciseUnit = repeatedLoans deployment true quantity setToken component

/-- Nothing is repaid a second time, and the shares of a redemption lack less than one when they
are rounded up one by one. -/
def RepaysWhole (deployment : Deployment Ledger) (quantity : Nat) (setToken : SetToken)
    (component : Address) : Prop :=
  repeatedLoans deployment false quantity setToken component = 0 ∧
    ((moduleDebts setToken component).map (Rounding.shortfall preciseUnit quantity)).sum <
      preciseUnit

section Flow

variable {deployment : Deployment Ledger} {isIssue isEquity : Bool} {quantity : Nat}
  {setToken : SetToken} {component module : Address}

/-- What a lending module's response to a pass moves. -/
theorem operationsOf_response {hook : HookModule} (address : hook.address = module)
    (lending : (∃ compound, hook = .compound compound) ∨ ∃ aave, hook = .aave aave) :
    total (Event.operationsOf (debtAction isIssue) component)
      ((hook.response isIssue isEquity quantity setToken component).map .operated) =
      if hook.answers isEquity = true then LeverageHooks.notionalDebt isIssue
        (LeverageHooks.debtUnit module component setToken) quantity else 0 := by
  obtain ⟨compound, rfl⟩ | ⟨aave, rfl⟩ := lending
  · obtain rfl := address
    simp [HookModule.response, HookModule.answers, HookModule.replication,
      CompoundLeverageModule.replication, Event.operationsOf, debtAction, HookModule.address]
  · obtain rfl := address
    cases isEquity <;>
      simp [HookModule.response, HookModule.answers, HookModule.replication,
        AaveLeverageModule.replication, Event.operationsOf, debtAction, HookModule.address]

/-- The debt pass moves every module's share, the equity pass those of the Compound modules. -/
theorem operationsOf_hookEvents (lending : LendingOnly deployment setToken component) :
    total (Event.operationsOf (debtAction isIssue) component)
      (hookEvents deployment isIssue isEquity quantity setToken component) =
      if isEquity = true then compoundShares deployment isIssue quantity setToken component
      else ((moduleDebts setToken component).map fun unit =>
        LeverageHooks.notionalDebt isIssue unit quantity).sum := by
  unfold hookEvents compoundShares moduleDebts
  rw [total_flatMap, List.map_map]
  have each : ∀ module ∈ setToken.externalPositionModules component,
      total (Event.operationsOf (debtAction isIssue) component)
        ((deployment.response isIssue isEquity quantity setToken component module).map
          .operated) =
      if isEquity = true then
        (match deployment.hookModule module with
          | some (.compound _) => LeverageHooks.notionalDebt isIssue
              (LeverageHooks.debtUnit module component setToken) quantity
          | _ => 0)
      else LeverageHooks.notionalDebt isIssue
        (LeverageHooks.debtUnit module component setToken) quantity := by
    intro module member
    obtain ⟨compound, found⟩ | ⟨aave, found⟩ := lending module member
    · rw [Deployment.response, found, operationsOf_response
        (deployment.hookModule_address _ _ found) (Or.inl ⟨compound, rfl⟩)]
      cases isEquity <;> simp [HookModule.answers]
    · rw [Deployment.response, found, operationsOf_response
        (deployment.hookModule_address _ _ found) (Or.inr ⟨aave, rfl⟩)]
      cases isEquity <;> simp [HookModule.answers]
  rw [List.map_congr_left each]
  cases isEquity <;> simp [Function.comp_def]

theorem operationsOf_positionEvents (other : Address) (componentQuantity : Nat)
    (action : PositionAction) :
    total (Event.operationsOf action component) (positionEvents deployment isIssue isEquity
      quantity setToken other componentQuantity) =
      if 0 < componentQuantity then total (Event.operationsOf action component)
        (hookEvents deployment isIssue isEquity quantity setToken other)
      else 0 := by
  unfold positionEvents
  split
  · split
    · rw [total_cons]
      exact Nat.zero_add _
    · rw [total_append, total_cons, total_nil]
      rfl
  · rfl

/-- In a pass, only the hooks of the component itself operate on it. -/
theorem operationsOf_passEvents (computed : ∃ units, getTotalIssuanceUnits setToken = .ok units)
    (components : setToken.components.Nodup) (member : component ∈ setToken.components)
    (action : PositionAction) :
    total (Event.operationsOf action component)
      (passEvents deployment isIssue isEquity quantity setToken) =
      if 0 < componentQuantity isIssue isEquity quantity setToken component then
        total (Event.operationsOf action component)
          (hookEvents deployment isIssue isEquity quantity setToken component)
      else 0 := by
  obtain ⟨units, computed⟩ := computed
  unfold passEvents
  rw [orderUnits_eq computed, getTotalIssuanceUnits_eq_ok computed, List.flatMap_map,
    total_flatMap, Tracing.sum_map_of_nodup components member, operationsOf_positionEvents]
  · rfl
  · intro other _ different
    rw [operationsOf_positionEvents]
    split
    · refine total_eq_zero _ fun event emitted => ?_
      obtain ⟨_, _, responded⟩ := List.mem_flatMap.mp emitted
      obtain ⟨operation, answered, rfl⟩ := List.mem_map.mp responded
      obtain ⟨_, onOther⟩ := Deployment.operation_of_response answered
      simp [Event.operationsOf, onOther, different]
    · rfl

/-- The share of the whole debt is zero only if every module's share is. -/
theorem sum_shares_eq_zero (none : LeverageHooks.notionalDebt isIssue
      (debtUnit setToken component) quantity = 0) :
    ((moduleDebts setToken component).map fun unit =>
      LeverageHooks.notionalDebt isIssue unit quantity).sum = 0 := by
  refine List.sum_eq_zero fun value member => ?_
  obtain ⟨unit, listed, rfl⟩ := List.mem_map.mp member
  have within : unit ≤ debtUnit setToken component :=
    List.single_le_sum (fun _ _ => Nat.zero_le _) _ listed
  exact Nat.le_zero.mp (none ▸ notionalDebt_mono isIssue quantity within)

/-- Over both passes the modules move every share once, and those of the Compound modules a
second time if the component has an equity quantity. -/
theorem operationsOf_resolutionEvents (isIssue : Bool) (quantity : Nat)
    (computed : ∃ units, getTotalIssuanceUnits setToken = .ok units)
    (components : setToken.components.Nodup) (member : component ∈ setToken.components)
    (lending : LendingOnly deployment setToken component) :
    total (Event.operationsOf (debtAction isIssue) component)
      (resolutionEvents deployment isIssue quantity setToken) =
      ((moduleDebts setToken component).map fun unit =>
        LeverageHooks.notionalDebt isIssue unit quantity).sum +
      repeatedLoans deployment isIssue quantity setToken component := by
  have debtPass : (if 0 < componentQuantity isIssue false quantity setToken component then
      total (Event.operationsOf (debtAction isIssue) component)
        (hookEvents deployment isIssue false quantity setToken component) else 0) =
      ((moduleDebts setToken component).map fun unit =>
        LeverageHooks.notionalDebt isIssue unit quantity).sum := by
    by_cases some : 0 < componentQuantity isIssue false quantity setToken component
    · rw [if_pos some, operationsOf_hookEvents lending, if_neg Bool.false_ne_true]
    · rw [if_neg some, sum_shares_eq_zero]
      simpa [componentQuantity, passQuantity] using some
  have equityPass : (if 0 < componentQuantity isIssue true quantity setToken component then
      total (Event.operationsOf (debtAction isIssue) component)
        (hookEvents deployment isIssue true quantity setToken component) else 0) =
      repeatedLoans deployment isIssue quantity setToken component := by
    rw [operationsOf_hookEvents lending, if_pos rfl]
    simp only [repeatedLoans, componentQuantity, passQuantity, if_true]
  unfold resolutionEvents
  rw [total_append, operationsOf_passEvents computed components member,
    operationsOf_passEvents computed components member]
  cases isIssue with
  | true => rw [Bool.not_true, debtPass, equityPass, Nat.add_comm]
  | false => rw [Bool.not_false, debtPass, equityPass]

/-- The order transfers the share of the whole debt. -/
theorem debtTransfers_resolutionEvents (deployment : Deployment Ledger) (isIssue : Bool)
    (quantity : Nat)
    (computed : ∃ units, getTotalIssuanceUnits setToken = .ok units)
    (components : setToken.components.Nodup) (member : component ∈ setToken.components) :
    total (Event.transfersOf isIssue false component)
      (resolutionEvents deployment isIssue quantity setToken) =
      LeverageHooks.notionalDebt isIssue (moduleDebts setToken component).sum quantity := by
  rw [componentTransfers_resolutionEvents computed components member]
  simp [passQuantity, debtUnit, moduleDebts]

/-- On an issuance the modules borrow what is paid out exactly when the loans taken out a
second time make up what the shares leave when they are rounded down one by one. -/
theorem borrowed_eq_iff (computed : ∃ units, getTotalIssuanceUnits setToken = .ok units)
    (components : setToken.components.Nodup) (member : component ∈ setToken.components)
    (lending : LendingOnly deployment setToken component) :
    total (Event.operationsOf .borrow component)
        (resolutionEvents deployment true quantity setToken) =
      total (Event.transfersOf true false component)
        (resolutionEvents deployment true quantity setToken) ↔
    BorrowsWhole deployment quantity setToken component := by
  have moved := operationsOf_resolutionEvents true quantity computed components member lending
  have paid := debtTransfers_resolutionEvents deployment true quantity computed components member
  have carry := Rounding.mulFloor_sum preciseUnit quantity preciseUnit_pos
    (moduleDebts setToken component)
  simp only [debtAction, LeverageHooks.notionalDebt, if_true] at moved paid
  rw [moved, paid, carry, BorrowsWhole]
  omega

/-- On a redemption the modules repay what is collected exactly when no loan is paid down a
second time and the shares lack less than one when they are rounded up one by one. -/
theorem repaid_eq_iff (computed : ∃ units, getTotalIssuanceUnits setToken = .ok units)
    (components : setToken.components.Nodup) (member : component ∈ setToken.components)
    (lending : LendingOnly deployment setToken component) :
    total (Event.operationsOf .repay component)
        (resolutionEvents deployment false quantity setToken) =
      total (Event.transfersOf false false component)
        (resolutionEvents deployment false quantity setToken) ↔
    RepaysWhole deployment quantity setToken component := by
  have moved := operationsOf_resolutionEvents false quantity computed components member lending
  have paid := debtTransfers_resolutionEvents deployment false quantity computed components member
  have lack := Rounding.sum_mulCeil preciseUnit quantity preciseUnit_pos
    (moduleDebts setToken component)
  simp only [debtAction, LeverageHooks.notionalDebt, Bool.false_eq_true, if_false] at moved paid
  rw [moved, paid, lack, Nat.add_assoc, Nat.add_eq_left, Nat.add_eq_zero_iff, and_comm,
    Nat.div_eq_zero_iff_lt preciseUnit_pos, RepaysWhole]

/-- In the trace of an issuance the loans are the debt paid out under the same condition. -/
theorem Traced.borrowed_eq_iff {module : DebtIssuanceModule} {events : List Event}
    (traced : Traced module deployment true quantity setToken events)
    (member : component ∈ setToken.components)
    (lending : LendingOnly deployment setToken component) :
    total (Event.operationsOf .borrow component) events =
        total (Event.transfersOf true false component) events ↔
      BorrowsWhole deployment (module.resolvedQuantity true quantity) setToken component := by
  rw [total_traced traced _ (fun _ => rfl) (fun _ _ => rfl),
    total_traced traced _ (fun _ => rfl) (fun _ _ => rfl)]
  exact DebtIssuanceModule.borrowed_eq_iff traced.computed traced.bookkeeping.components.nodup
    member lending

theorem Traced.repaid_eq_iff {module : DebtIssuanceModule} {events : List Event}
    (traced : Traced module deployment false quantity setToken events)
    (member : component ∈ setToken.components)
    (lending : LendingOnly deployment setToken component) :
    total (Event.operationsOf .repay component) events =
        total (Event.transfersOf false false component) events ↔
      RepaysWhole deployment (module.resolvedQuantity false quantity) setToken component := by
  rw [total_traced traced _ (fun _ => rfl) (fun _ _ => rfl),
    total_traced traced _ (fun _ => rfl) (fun _ _ => rfl)]
  exact DebtIssuanceModule.repaid_eq_iff traced.computed traced.bookkeeping.components.nodup
    member lending

end Flow

/-- For every component whose external positions are all at lending modules, with the quantity
plus the fee on issuance and without it on redemption, and the positions as they are after the
hooks before the order: an issuance pays out exactly what the modules borrow if and only if the
remainders of the shares add up to what the Compound modules borrow a second time; a redemption
collects exactly what the modules repay if and only if nothing is repaid a second time and the
shortfalls of the shares add up to less than one. With lending contracts that move exactly what
they are asked for, these are also the conditions under which the Set holds afterwards what it
held before the order and the equity collected, or less the equity returned. -/
theorem debt_flow_iff (module : DebtIssuanceModule) (deployment : Deployment Ledger)
    (msgSender : Address) (quantity : Nat) (recipient : Address) (start : Execution Ledger)
    (kept : PositionBookkeeping start.world.setToken) (empty : start.events = []) :
    (∀ prepared after,
      module.prepareIssue deployment msgSender quantity recipient start = .ok prepared →
      module.issue deployment msgSender quantity recipient start = .ok after →
      ∀ component ∈ prepared.world.setToken.components,
        LendingOnly deployment prepared.world.setToken component →
        (total (Event.operationsOf .borrow component) after.events =
            total (Event.transfersOf true false component) after.events ↔
          BorrowsWhole deployment (module.resolvedQuantity true quantity)
            prepared.world.setToken component) ∧
        ∀ underlying, LendsExactly deployment underlying component →
          component ≠ prepared.world.setToken.address →
          (after.world.held component = prepared.world.held component +
              total (Event.transfersOf true true component) after.events ↔
            BorrowsWhole deployment (module.resolvedQuantity true quantity)
              prepared.world.setToken component)) ∧
    (∀ prepared after,
      module.prepareRedeem deployment quantity start = .ok prepared →
      module.redeem deployment msgSender quantity recipient start = .ok after →
      ∀ component ∈ prepared.world.setToken.components,
        LendingOnly deployment prepared.world.setToken component →
        (total (Event.operationsOf .repay component) after.events =
            total (Event.transfersOf false false component) after.events ↔
          RepaysWhole deployment (module.resolvedQuantity false quantity)
            prepared.world.setToken component) ∧
        ∀ underlying, LendsExactly deployment underlying component →
          component ≠ prepared.world.setToken.address →
          (after.world.held component +
              total (Event.transfersOf false true component) after.events =
                prepared.world.held component ↔
            RepaysWhole deployment (module.resolvedQuantity false quantity)
              prepared.world.setToken component)) := by
  constructor
  · intro prepared after preparing issued component member lending
    have flows := (issue_traced kept empty preparing issued).borrowed_eq_iff member lending
    refine ⟨flows, fun underlying lends other => ?_⟩
    have held := issue_held kept empty lends other preparing issued
    rw [← flows]
    constructor <;> intro equal <;> omega
  · intro prepared after preparing redeemed component member lending
    have flows := (redeem_traced kept empty preparing redeemed).repaid_eq_iff member lending
    refine ⟨flows, fun underlying lends other => ?_⟩
    have held := redeem_held kept empty lends other preparing redeemed
    rw [← flows]
    constructor <;> intro equal <;> omega

end DebtIssuanceModule

/-! ### Two debts of half a unit -/

theorem samplePaid_inflow {token : Address} {quantity : Nat} {world next : World}
    (returned : samplePaid token quantity world = .ok next) (component : Address) :
    (next.held component : Int) =
      world.held component + if token = component then (quantity : Int) else 0 := by
  rw [(samplePaid_eq_ok returned).2]
  by_cases same : token = component
  · simp [same]
  · simp [same, Function.update_of_ne (Ne.symm same)]

theorem sampleTaken_inflow {token : Address} {quantity : Nat} {world next : World}
    (returned : sampleTaken token quantity world = .ok next) (component : Address) :
    (next.held component : Int) =
      world.held component + if token = component then -(quantity : Int) else 0 := by
  obtain ⟨_, enough, held⟩ := sampleTaken_eq_ok returned
  rw [held]
  by_cases same : token = component
  · subst same
    rw [Function.update_self, if_pos rfl]
    omega
  · simp [same, Function.update_of_ne (Ne.symm same)]

/-- The sample contracts lend token 3 exactly. -/
theorem sampleDeployment_lends :
    LendsExactly sampleDeployment (fun market => if market = 32 then some 3 else none) 3 where
  executed := by
    intro invocation world ledger word next nextLedger returned
    simp only [sampleDeployment, sampleExecute, bind_eq_ok, pure_eq_ok, Prod.mk.injEq] at returned
    obtain ⟨_, _, moved, called, rfl, rfl, _⟩ := returned
    obtain ⟨target, value, callData⟩ := invocation
    have other : pure world = Except.ok moved → (moved.held 3 : Int) = world.held 3 + 0 :=
      fun same => (pure_eq_ok _ _).mp same ▸ (Int.add_zero _).symm
    cases callData with
    | borrow quantity =>
      simp only [sampleCall] at called
      by_cases market : target = 32
      · rw [if_pos market] at called
        simpa [Invocation.inflow, market] using (samplePaid_inflow called (3 : Address))
      · rw [if_neg market] at called
        have silent : ¬ (if target = 32 then some (3 : Address) else none) = some 3 := by
          simpa using market
        exact (other called).trans (congrArg _ (if_neg fun both => silent both.1).symm)
    | repayBorrow quantity =>
      simp only [sampleCall] at called
      by_cases market : target = 32
      · rw [if_pos market] at called
        simpa [Invocation.inflow, market] using (sampleTaken_inflow called (3 : Address))
      · rw [if_neg market] at called
        have silent : ¬ (if target = 32 then some (3 : Address) else none) = some 3 := by
          simpa using market
        exact (other called).trans (congrArg _ (if_neg fun both => silent both.1).symm)
    | deposit => exact samplePaid_inflow called 3
    | withdraw quantity => exact sampleTaken_inflow called 3
    | borrowAsset asset quantity => exact samplePaid_inflow called 3
    | repayAsset asset quantity => exact sampleTaken_inflow called 3
    | repayBorrowEther => exact other called
    | enterMarkets _ => exact other called
    | exitMarket _ => exact other called
    | raw _ => exact other called
  noContract := by
    intro invocation world ledger result absent returned
    simp [sampleDeployment, sampleExecute, absent] at returned
  knowsMarkets := by
    intro address module found
    simp only [sampleDeployment, sampleHookModule] at found
    split at found
    · obtain rfl := HookModule.compound.inj (Option.some.inj found)
      refine ⟨by decide, fun token ether => ?_, fun token other => ?_⟩
      all_goals
        by_cases listed : token = 3 <;> by_cases wrapped : token = 31 <;>
          simp_all [sampleMarkets]
    · split at found <;> simp at found

/-- A Set with a default unit of one and a debt of half a unit of the same token at each of two
Aave modules. -/
def sampleTwoDebts : Execution Unit :=
  sampleExecution (10 ^ 18) [(22, -(5 * 10 ^ 17)), (23, -(5 * 10 ^ 17))] 0

theorem sampleTwoDebts_bookkeeping : PositionBookkeeping sampleTwoDebts.world.setToken :=
  sampleExecution_bookkeeping (by decide) (by decide) (by decide)

theorem sampleTwoDebts_lending :
    DebtIssuanceModule.LendingOnly sampleDeployment sampleTwoDebts.world.setToken 3 := by
  intro module member
  rcases List.mem_cons.mp member with rfl | member
  · exact Or.inr ⟨_, rfl⟩
  · obtain rfl := List.mem_singleton.mp member
    exact Or.inr ⟨_, rfl⟩

/-- Two debts of half a unit are paid out as they are borrowed when two Sets are issued, and
collected as they are repaid when two are redeemed, and the Set keeps its own balance. -/
theorem debt_flow_iff_double :
    (∃ after, (sampleIssuance 0).issue sampleDeployment 7 2 7 sampleTwoDebts = .ok after ∧
      total (Event.operationsOf .borrow 3) after.events = 2 ∧
      total (Event.operationsOf .borrow 3) after.events =
        total (Event.transfersOf true false 3) after.events ∧
      after.world.held 3 = sampleTwoDebts.world.held 3 +
        total (Event.transfersOf true true 3) after.events) ∧
    ∃ after, (sampleIssuance 0).redeem sampleDeployment 7 2 7 sampleTwoDebts = .ok after ∧
      total (Event.operationsOf .repay 3) after.events = 2 ∧
      total (Event.operationsOf .repay 3) after.events =
        total (Event.transfersOf false false 3) after.events ∧
      after.world.held 3 + total (Event.transfersOf false true 3) after.events =
        sampleTwoDebts.world.held 3 := by
  have issued : returns ((sampleIssuance 0).issue sampleDeployment 7 2 7 sampleTwoDebts)
      (fun after => decide (total (Event.operationsOf .borrow 3) after.events = 2)) = true := by
    decide +kernel
  have redeemed : returns ((sampleIssuance 0).redeem sampleDeployment 7 2 7 sampleTwoDebts)
      (fun after => decide (total (Event.operationsOf .repay 3) after.events = 2)) = true := by
    decide +kernel
  obtain ⟨afterIssue, issuing, borrowed⟩ := exists_of_returns issued
  obtain ⟨afterRedeem, redeeming, repaid⟩ := exists_of_returns redeemed
  obtain ⟨issues, redeems⟩ := DebtIssuanceModule.debt_flow_iff (sampleIssuance 0)
    sampleDeployment 7 2 7 sampleTwoDebts sampleTwoDebts_bookkeeping rfl
  obtain ⟨paid, kept⟩ := issues sampleTwoDebts afterIssue rfl issuing 3 List.mem_cons_self
    sampleTwoDebts_lending
  obtain ⟨collected, left⟩ := redeems sampleTwoDebts afterRedeem rfl redeeming 3
    List.mem_cons_self sampleTwoDebts_lending
  have borrows : DebtIssuanceModule.BorrowsWhole sampleDeployment
      ((sampleIssuance 0).resolvedQuantity true 2) sampleTwoDebts.world.setToken 3 := by
    unfold DebtIssuanceModule.BorrowsWhole
    decide +kernel
  have repays : DebtIssuanceModule.RepaysWhole sampleDeployment
      ((sampleIssuance 0).resolvedQuantity false 2) sampleTwoDebts.world.setToken 3 := by
    unfold DebtIssuanceModule.RepaysWhole
    decide +kernel
  exact ⟨⟨afterIssue, issuing, of_decide_eq_true borrowed, paid.mpr borrows,
      (kept _ sampleDeployment_lends (by decide)).mpr borrows⟩,
    afterRedeem, redeeming, of_decide_eq_true repaid, collected.mpr repays,
      (left _ sampleDeployment_lends (by decide)).mpr repays⟩

/-- When one Set is issued nothing is borrowed of two debts of half a unit, and the Set pays one
out of its own balance. -/
theorem debt_paid_out_unborrowed :
    ∃ after, (sampleIssuance 0).issue sampleDeployment 7 1 7 sampleTwoDebts = .ok after ∧
      ¬ total (Event.operationsOf .borrow 3) after.events =
        total (Event.transfersOf true false 3) after.events ∧
      after.world.held 3 + 1 = sampleTwoDebts.world.held 3 +
        total (Event.transfersOf true true 3) after.events := by
  have issued : returns ((sampleIssuance 0).issue sampleDeployment 7 1 7 sampleTwoDebts)
      (fun after => decide (total (Event.operationsOf .borrow 3) after.events = 0 ∧
        total (Event.transfersOf true false 3) after.events = 1 ∧
        after.world.held 3 + 1 = sampleTwoDebts.world.held 3 +
          total (Event.transfersOf true true 3) after.events)) = true := by
    decide +kernel
  obtain ⟨after, returned, moved⟩ := exists_of_returns issued
  obtain ⟨borrowed, paidOut, consumed⟩ := of_decide_eq_true moved
  refine ⟨after, returned, ?_, consumed⟩
  rw [borrowed, paidOut]
  exact zero_ne_one

end IndexProtocol

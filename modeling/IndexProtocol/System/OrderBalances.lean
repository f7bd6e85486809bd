/-
This file accounts for what the Set holds of a component during an order. Every
transfer and every loan is entered in the trace by the call that carries it out,
and with lending contracts that move exactly what they are asked for nothing else
moves the component. So what the Set would hold without the movements of the
trace, its baseline, is the same before and after every step of an order.
-/

import IndexProtocol.System.OrderAccounting

namespace IndexProtocol

open Revert

/-! ### What a trace brings the Set -/

/-- The quantity of an operation of the kind on the component. -/
def Event.operationsOf (action : PositionAction) (component : Address) : Event → Nat
  | .operated operation =>
    if operation.action = action ∧ operation.component = component then operation.quantity else 0
  | _ => 0

/-- How debt is taken on or paid back in an order. -/
def debtAction (isIssue : Bool) : PositionAction := if isIssue then .borrow else .repay

/-- What the events bring the Set of a component, less what they take from it: equity that is
collected and returned, debt that is collected and paid out, loans taken out and paid down. -/
def netInflow (component : Address) (events : List Event) : Int :=
  ((total (Event.transfersOf true true component) events +
      total (Event.transfersOf false false component) events +
      total (Event.operationsOf .borrow component) events : Nat) : Int) -
    ((total (Event.transfersOf false true component) events +
      total (Event.transfersOf true false component) events +
      total (Event.operationsOf .repay component) events : Nat) : Int)

@[simp] theorem netInflow_nil (component : Address) : netInflow component [] = 0 := rfl

theorem netInflow_append (component : Address) (first second : List Event) :
    netInflow component (first ++ second) =
      netInflow component first + netInflow component second := by
  simp only [netInflow, total_append]
  omega

theorem netInflow_transferred (component : Address) (transfer : Transfer) :
    netInflow component [.transferred transfer] =
      if transfer.component = component then
        if transfer.isIssue = transfer.isEquity then (transfer.quantity : Int)
        else -(transfer.quantity : Int)
      else 0 := by
  obtain ⟨isIssue, isEquity, token, quantity⟩ := transfer
  by_cases same : token = component
  · cases isIssue <;> cases isEquity <;>
      simp [netInflow, Event.transfersOf, Event.operationsOf, same]
  · simp [netInflow, Event.transfersOf, Event.operationsOf, same]

theorem netInflow_operated (component : Address) (operation : PositionOperation) :
    netInflow component [.operated operation] =
      if operation.component = component then
        match operation.action with
        | .borrow => (operation.quantity : Int)
        | .repay => -(operation.quantity : Int)
        | _ => 0
      else 0 := by
  obtain ⟨action, module, token, counterparty, quantity⟩ := operation
  by_cases same : token = component
  · cases action <;> simp [netInflow, Event.transfersOf, Event.operationsOf, same]
  · simp [netInflow, Event.transfersOf, Event.operationsOf, same]

/-! ### Lending contracts that move what they are asked for -/

/-- What a call of an outside contract brings the Set of a token, by the word it returns. A market
of Compound pays out and takes back its underlying token, unless it answers with an error; the
market for ether pays out and takes back ether, which the wrapped ether token wraps and unwraps;
the pool of Aave pays out and takes back the asset it is called for. -/
def Invocation.inflow (underlying : Address → Option Address) (token : Address)
    (invocation : Invocation) (word : Nat) : Int :=
  match invocation.callData with
  | .borrow quantity =>
    if underlying invocation.target = some token ∧ word = 0 then quantity else 0
  | .repayBorrow quantity =>
    if underlying invocation.target = some token ∧ word = 0 then -quantity else 0
  | .deposit => if invocation.target = token then invocation.value else 0
  | .withdraw quantity => if invocation.target = token then -quantity else 0
  | .borrowAsset asset quantity _ _ _ => if asset = token then quantity else 0
  | .repayAsset asset quantity _ _ => if asset = token then -quantity else 0
  | _ => 0

/-- A Compound module has recorded for each token it has a market of the one whose underlying
token that is, and for wrapped ether the market for ether. -/
structure CompoundLeverageModule.KnowsMarkets (module : CompoundLeverageModule)
    (underlying : Address → Option Address) : Prop where
  etherMarket : underlying module.cEther = none
  wrapped : ∀ token, module.underlyingToCToken token = module.cEther → token = module.weth
  market : ∀ token, module.underlyingToCToken token ≠ module.cEther →
    module.underlyingToCToken token = 0 ∨
      underlying (module.underlyingToCToken token) = some token

/-- The lending contracts move of a token exactly what they are asked for, the other contracts
leave it where it is, and where no contract is a call reverts. -/
structure LendsExactly {Ledger : Type} (deployment : Deployment Ledger)
    (underlying : Address → Option Address) (token : Address) : Prop where
  executed : ∀ invocation world ledger word next nextLedger,
    deployment.protocols.execute invocation world ledger = .ok (word, next, nextLedger) →
      (next.held token : Int) = world.held token + invocation.inflow underlying token word
  noContract : ∀ invocation world ledger result, invocation.target = 0 →
    deployment.protocols.execute invocation world ledger ≠ .ok result
  knowsMarkets : ∀ address module, deployment.hookModule address = some (.compound module) →
    module.KnowsMarkets underlying

namespace Execution

variable {Ledger : Type}

/-- What the Set would hold of a component without the movements of the trace. -/
def baseline (component : Address) (execution : Execution Ledger) : Int :=
  execution.world.held component - netInflow component execution.events

/-- A call that enters nothing in the trace and brings the Set an amount of a component. -/
structure Brings (component : Address) (amount : Int) (before after : Execution Ledger) :
    Prop where
  held : (after.world.held component : Int) = before.world.held component + amount
  silent : after.events = before.events

section Brought

variable {component : Address} {first second amount : Int}
  {before middle after : Execution Ledger}

theorem Brings.nothing (execution : Execution Ledger) :
    Brings component 0 execution execution :=
  ⟨(Int.add_zero _).symm, rfl⟩

theorem Brings.trans (start : Brings component first before middle)
    (rest : Brings component second middle after) :
    Brings component (first + second) before after :=
  ⟨by rw [rest.held, start.held, Int.add_assoc], rest.silent.trans start.silent⟩

theorem Brings.baseline (brought : Brings component 0 before after) :
    after.baseline component = before.baseline component := by
  rw [Execution.baseline, Execution.baseline, brought.held, brought.silent, Int.add_zero]

/-- What is entered for a call is what it brings: the baseline stays. -/
theorem baseline_carryOut {event : Event}
    {call : Execution Ledger → Outcome (Execution Ledger)}
    (brings : ∀ done, call before = .ok done →
      Brings component (netInflow component [event]) before done)
    (returned : before.carryOut event call = .ok after) :
    after.baseline component = before.baseline component := by
  obtain ⟨done, called, rfl⟩ := carryOut_eq_ok.mp returned
  obtain ⟨held, silent⟩ := brings done called
  have entered : (done.record event).events = before.events ++ [event] := congrArg (· ++ [event]) silent
  have moved : (done.record event).world.held component = done.world.held component := rfl
  unfold Execution.baseline
  rw [entered, moved, netInflow_append, held]
  omega

theorem onWorld_brings {call : World → Outcome World}
    (held : ∀ next, call before.world = .ok next →
      (next.held component : Int) = before.world.held component + amount)
    (returned : before.onWorld call = .ok after) : Brings component amount before after := by
  obtain ⟨called, stored⟩ := onWorld_eq_ok returned
  refine ⟨held _ called, ?_⟩
  rw [stored]

theorem invokeApprove_brings {module token spender : Address} {quantity : Nat}
    (returned : before.invokeApprove module token spender quantity = .ok after) :
    Brings component 0 before after := by
  refine onWorld_brings (fun next approving => ?_) returned
  rw [World.held_invokeApprove approving, Int.add_zero]

end Brought

/-! ### Calls of the lending contracts -/

section Lending

variable {deployment : Deployment Ledger} {underlying : Address → Option Address}
  {component module : Address} {invocation : Invocation} {word : Nat}
  {before after : Execution Ledger}

theorem invoke_brings (lends : LendsExactly deployment underlying component)
    (returned : before.invoke deployment.protocols module invocation = .ok (word, after)) :
    Brings component (invocation.inflow underlying component word) before after ∧
      invocation.target ≠ 0 := by
  simp only [invoke, bind_eq_ok, pure_eq_ok, Prod.exists, Prod.mk.injEq] at returned
  obtain ⟨_, _, _, _, _, executed, rfl, rfl⟩ := returned
  exact ⟨⟨lends.executed _ _ _ _ _ _ executed, rfl⟩,
    fun absent => lends.noContract _ _ _ _ absent executed⟩

theorem invokeUnchecked_brings (lends : LendsExactly deployment underlying component)
    (returned : before.invokeUnchecked deployment.protocols module invocation = .ok after) :
    ∃ word, Brings component (invocation.inflow underlying component word) before after := by
  simp only [invokeUnchecked, bind_eq_ok, pure_eq_ok, Prod.exists] at returned
  obtain ⟨word, _, invoked, rfl⟩ := returned
  exact ⟨word, (invoke_brings lends invoked).1⟩

theorem invokeExpectingZero_brings {reason : String}
    (lends : LendsExactly deployment underlying component)
    (returned : before.invokeExpectingZero deployment.protocols module invocation reason =
      .ok after) :
    Brings component (invocation.inflow underlying component 0) before after ∧
      invocation.target ≠ 0 := by
  simp only [invokeExpectingZero, bind_eq_ok, pure_eq_ok, require_eq_ok, Prod.exists] at returned
  obtain ⟨_, _, invoked, _, rfl, rfl⟩ := returned
  exact invoke_brings lends invoked

end Lending

end Execution

/-! ### Hooks -/

section Hooks

variable {Ledger : Type} {deployment : Deployment Ledger}
  {underlying : Address → Option Address} {component token msgSender : Address}
  {quantity : Nat} {isIssue isEquity : Bool} {before after : Execution Ledger}

namespace CompoundLeverageModule

variable {module : CompoundLeverageModule}

/-- A loan from the market of a token brings the Set the token, ether wrapped. -/
theorem borrow_brings (lends : LendsExactly deployment underlying component)
    (knows : module.KnowsMarkets underlying)
    (returned : module.borrow deployment.protocols (module.underlyingToCToken token) quantity
      before = .ok after) :
    Execution.Brings component (if token = component then (quantity : Int) else 0) before
      after := by
  simp only [borrow, bind_eq_ok] at returned
  obtain ⟨borrowed, borrowing, wrapping⟩ := returned
  obtain ⟨lent, contract⟩ := Execution.invokeExpectingZero_brings lends borrowing
  split at wrapping
  · rename_i ether
    obtain ⟨_, wrapped⟩ := Execution.invokeUnchecked_brings lends wrapping
    have both := lent.trans wrapped
    rw [ether] at both
    simpa [Invocation.inflow, knows.etherMarket, knows.wrapped token ether] using both
  · rename_i other
    obtain rfl := (pure_eq_ok _ _).mp wrapping
    rcases knows.market token other with absent | market
    · exact absurd absent contract
    · simpa [Invocation.inflow, market] using lent

/-- A repayment to the market of a token takes the token, wrapped ether unwrapped. -/
theorem repayBorrow_brings {underlyingToken : Address}
    (lends : LendsExactly deployment underlying component)
    (knows : module.KnowsMarkets underlying)
    (returned : module.repayBorrow deployment.protocols (module.underlyingToCToken token)
      underlyingToken quantity before = .ok after) :
    Execution.Brings component (if token = component then -(quantity : Int) else 0) before
      after := by
  unfold repayBorrow at returned
  split at returned
  · rename_i ether
    rw [bind_eq_ok] at returned
    obtain ⟨_, unwrapping, repaying⟩ := returned
    obtain ⟨_, unwrapped⟩ := Execution.invokeUnchecked_brings lends unwrapping
    obtain ⟨_, repaid⟩ := Execution.invokeUnchecked_brings lends repaying
    simpa [Invocation.inflow, knows.wrapped token ether] using unwrapped.trans repaid
  · rename_i other
    rw [bind_eq_ok] at returned
    obtain ⟨_, approving, repaying⟩ := returned
    obtain ⟨repaid, contract⟩ := Execution.invokeExpectingZero_brings lends repaying
    rcases knows.market token other with absent | market
    · exact absurd absent contract
    · simpa [Invocation.inflow, market] using
        (Execution.invokeApprove_brings approving).trans repaid

theorem componentIssueHook_baseline (lends : LendsExactly deployment underlying component)
    (knows : module.KnowsMarkets underlying)
    (returned : module.componentIssueHook deployment.protocols msgSender quantity token isEquity
      before = .ok after) : after.baseline component = before.baseline component := by
  simp only [componentIssueHook, bind_eq_ok] at returned
  obtain ⟨_, _, _, _, _, _, borrowing⟩ := returned
  refine Execution.baseline_carryOut (fun _ called => ?_) borrowing
  rw [netInflow_operated]
  exact borrow_brings lends knows called

theorem componentRedeemHook_baseline (lends : LendsExactly deployment underlying component)
    (knows : module.KnowsMarkets underlying)
    (returned : module.componentRedeemHook deployment.protocols msgSender quantity token isEquity
      before = .ok after) : after.baseline component = before.baseline component := by
  simp only [componentRedeemHook, bind_eq_ok] at returned
  obtain ⟨_, _, _, _, _, _, repaying⟩ := returned
  refine Execution.baseline_carryOut (fun _ called => ?_) repaying
  rw [netInflow_operated]
  exact repayBorrow_brings lends knows called

end CompoundLeverageModule

namespace AaveLeverageModule

variable {module : AaveLeverageModule}

theorem componentIssueHook_baseline (lends : LendsExactly deployment underlying component)
    (returned : module.componentIssueHook deployment.protocols msgSender quantity token isEquity
      before = .ok after) : after.baseline component = before.baseline component := by
  simp only [componentIssueHook, bind_eq_ok] at returned
  obtain ⟨_, _, hooked⟩ := returned
  split at hooked
  · simp only [bind_eq_ok] at hooked
    obtain ⟨_, _, _, _, borrowing⟩ := hooked
    refine Execution.baseline_carryOut (fun _ called => ?_) borrowing
    obtain ⟨_, borrowed⟩ := Execution.invokeUnchecked_brings lends called
    rw [netInflow_operated]
    exact borrowed
  · exact (pure_eq_ok _ _).mp hooked ▸ rfl

theorem componentRedeemHook_baseline (lends : LendsExactly deployment underlying component)
    (returned : module.componentRedeemHook deployment.protocols msgSender quantity token isEquity
      before = .ok after) : after.baseline component = before.baseline component := by
  simp only [componentRedeemHook, bind_eq_ok] at returned
  obtain ⟨_, _, hooked⟩ := returned
  split at hooked
  · simp only [repayBorrowForHook, bind_eq_ok] at hooked
    obtain ⟨_, _, _, _, _, approving, repaying⟩ := hooked
    refine (Execution.baseline_carryOut (fun _ called => ?_) repaying).trans
      (Execution.invokeApprove_brings approving).baseline
    obtain ⟨_, repaid⟩ := Execution.invokeUnchecked_brings lends called
    rw [netInflow_operated]
    exact repaid
  · exact (pure_eq_ok _ _).mp hooked ▸ rfl

end AaveLeverageModule

namespace StakingModule

variable {module : StakingModule} {adapters : StakingAdapters} {stakeContract : Address}
  {adapter : StakingAdapter} {units : Nat}

/-- The staking contracts leave the component where it is. -/
theorem invokeStake_baseline (lends : LendsExactly deployment underlying component)
    (returned : module.invokeStake deployment.protocols stakeContract token adapter units quantity
      before = .ok after) : after.baseline component = before.baseline component := by
  simp only [invokeStake, bind_eq_ok] at returned
  obtain ⟨_, _, _, approving, staking⟩ := returned
  refine (Execution.baseline_carryOut (fun _ called => ?_) staking).trans
    (Execution.invokeApprove_brings approving).baseline
  obtain ⟨_, staked⟩ := Execution.invokeUnchecked_brings lends called
  rw [netInflow_operated, ite_self]
  exact staked

theorem invokeUnstake_baseline (lends : LendsExactly deployment underlying component)
    (returned : module.invokeUnstake deployment.protocols stakeContract token adapter units
      quantity before = .ok after) : after.baseline component = before.baseline component := by
  simp only [invokeUnstake, bind_eq_ok, pure_eq_ok] at returned
  obtain ⟨_, _, _, unstaking, _, _, _, _, rfl⟩ := returned
  refine Execution.baseline_carryOut (fun _ called => ?_) unstaking
  obtain ⟨_, unstaked⟩ := Execution.invokeUnchecked_brings lends called
  rw [netInflow_operated, ite_self]
  exact unstaked

theorem componentIssueHook_baseline (lends : LendsExactly deployment underlying component)
    (returned : module.componentIssueHook deployment.protocols adapters msgSender quantity token
      isEquity before = .ok after) : after.baseline component = before.baseline component := by
  simp only [componentIssueHook, bind_eq_ok] at returned
  obtain ⟨_, _, looped⟩ := returned
  refine foldlM_invariant _ (fun state => state.baseline component = before.baseline component) _
    (fun state contract next _ same called => ?_) _ _ rfl looped
  simp only [stakeForIssue, bind_eq_ok] at called
  obtain ⟨_, _, staked⟩ := called
  exact (invokeStake_baseline lends staked).trans same

theorem componentRedeemHook_baseline (lends : LendsExactly deployment underlying component)
    (returned : module.componentRedeemHook deployment.protocols adapters msgSender quantity token
      isEquity before = .ok after) : after.baseline component = before.baseline component := by
  simp only [componentRedeemHook, bind_eq_ok] at returned
  obtain ⟨_, _, looped⟩ := returned
  refine foldlM_invariant _ (fun state => state.baseline component = before.baseline component) _
    (fun state contract next _ same called => ?_) _ _ rfl looped
  simp only [unstakeForRedeem, bind_eq_ok] at called
  obtain ⟨_, _, unstaked⟩ := called
  exact (invokeUnstake_baseline lends unstaked).trans same

end StakingModule

/-- Whatever module is called for whatever component, what it moves of a component it enters. -/
theorem Deployment.callComponentHook_baseline {module : Address}
    (lends : LendsExactly deployment underlying component)
    (returned : deployment.callComponentHook msgSender isIssue isEquity quantity token before
      module = .ok after) : after.baseline component = before.baseline component := by
  unfold callComponentHook at returned
  split at returned
  · rename_i hook found
    cases hook with
    | compound compound =>
      have knows := lends.knowsMarkets module compound found
      cases isIssue with
      | true =>
        simp only [HookModule.componentHook, if_true] at returned
        exact CompoundLeverageModule.componentIssueHook_baseline lends knows returned
      | false =>
        simp only [HookModule.componentHook, Bool.false_eq_true, if_false] at returned
        exact CompoundLeverageModule.componentRedeemHook_baseline lends knows returned
    | aave aave =>
      cases isIssue with
      | true => exact AaveLeverageModule.componentIssueHook_baseline lends returned
      | false => exact AaveLeverageModule.componentRedeemHook_baseline lends returned
    | staking staking =>
      cases isIssue with
      | true =>
        simp only [HookModule.componentHook, if_true] at returned
        exact StakingModule.componentIssueHook_baseline lends returned
      | false =>
        simp only [HookModule.componentHook, Bool.false_eq_true, if_false] at returned
        exact StakingModule.componentRedeemHook_baseline lends returned
  · exact absurd returned (by simp)

end Hooks

/-! ### Whole orders -/

namespace DebtIssuanceModule

section Orders

variable {Ledger : Type} {module : DebtIssuanceModule} {deployment : Deployment Ledger}
  {underlying : Address → Option Address} {component token msgSender recipient : Address}
  {quantity componentQuantity : Nat} {isIssue isEquity : Bool} {required : ComponentValues}
  {before prepared after : Execution Ledger}

/-- A transfer into the Set is entered as what the Set receives. -/
theorem transferIn_baseline {transfer : Transfer}
    (inward : transfer.isIssue = transfer.isEquity)
    (returned : (module.exactMovement msgSender recipient).transferIn transfer before =
      .ok after) : after.baseline component = before.baseline component := by
  refine Execution.baseline_carryOut (fun _ called => Execution.onWorld_brings
    (fun next moving => ?_) called) returned
  obtain ⟨_, received⟩ := World.explicitTransferFrom_eq_ok moving
  rw [received, netInflow_transferred, if_pos inward]
  by_cases same : transfer.component = component
  · rw [if_pos same, ← same, Function.update_self]
    push_cast
    rfl
  · rw [if_neg same, Function.update_of_ne (Ne.symm same), Int.add_zero]

theorem transferOut_baseline {transfer : Transfer}
    (outward : ¬ transfer.isIssue = transfer.isEquity)
    (returned : (module.exactMovement msgSender recipient).transferOut transfer before =
      .ok after) : after.baseline component = before.baseline component := by
  refine Execution.baseline_carryOut (fun _ called => Execution.onWorld_brings
    (fun next moving => ?_) called) returned
  obtain ⟨_, enough, sent⟩ := World.strictInvokeTransfer_eq_ok moving
  rw [sent, netInflow_transferred, if_neg outward]
  by_cases same : transfer.component = component
  · rw [if_pos same, ← same, Function.update_self]
    omega
  · rw [if_neg same, Function.update_of_ne (Ne.symm same), Int.add_zero]

theorem executeExternalPositionHooks_baseline
    (lends : LendsExactly deployment underlying component)
    (returned : module.executeExternalPositionHooks deployment quantity token isIssue isEquity
      before = .ok after) : after.baseline component = before.baseline component :=
  foldlM_invariant _ (fun state => state.baseline component = before.baseline component) _
    (fun _ _ _ _ same called => (Deployment.callComponentHook_baseline lends called).trans same)
    _ _ rfl returned

theorem resolvePosition_baseline (lends : LendsExactly deployment underlying component)
    (returned : module.resolvePosition deployment (module.exactMovement msgSender recipient)
      quantity isIssue isEquity token componentQuantity before = .ok after) :
    after.baseline component = before.baseline component := by
  unfold resolvePosition at returned
  split at returned
  · split at returned
    · rename_i inward
      rw [bind_eq_ok] at returned
      obtain ⟨_, collecting, hooking⟩ := returned
      exact (executeExternalPositionHooks_baseline lends hooking).trans
        (transferIn_baseline inward collecting)
    · rename_i outward
      rw [bind_eq_ok] at returned
      obtain ⟨_, hooking, sending⟩ := returned
      exact (transferOut_baseline outward sending).trans
        (executeExternalPositionHooks_baseline lends hooking)
  · exact (pure_eq_ok _ _).mp returned ▸ rfl

theorem resolvePass_baseline (lends : LendsExactly deployment underlying component)
    (returned : module.resolvePass deployment (module.exactMovement msgSender recipient) quantity
      isIssue isEquity required before = .ok after) :
    after.baseline component = before.baseline component :=
  foldlM_invariant _ (fun state => state.baseline component = before.baseline component) _
    (fun _ _ _ _ same called => (resolvePosition_baseline lends called).trans same)
    _ _ rfl returned

/-- Of another token than itself the Set holds the same when its own is minted. -/
theorem Mints.baseline {mints : List (Address × Nat)} (minted : Mints mints before after)
    (other : component ≠ before.world.setToken.address) :
    after.baseline component = before.baseline component := by
  obtain ⟨_, _, stored⟩ := minted.frame
  have held : after.world.held component = before.world.held component := by
    rw [stored]
    exact World.held_of_tokens other rfl rfl
  have entered : netInflow component (mints.map fun mint => Event.minted mint.1 mint.2) = 0 := by
    have silent : ∀ measure : Event → Nat,
        (∀ recipient quantity, measure (.minted recipient quantity) = 0) →
          total measure (mints.map fun mint => Event.minted mint.1 mint.2) = 0 := by
      intro measure zero
      refine total_eq_zero _ fun event member => ?_
      obtain ⟨mint, _, rfl⟩ := List.mem_map.mp member
      exact zero mint.1 mint.2
    unfold netInflow
    rw [silent _ fun _ _ => rfl, silent _ fun _ _ => rfl, silent _ fun _ _ => rfl,
      silent _ fun _ _ => rfl, silent _ fun _ _ => rfl, silent _ fun _ _ => rfl]
    rfl
  unfold Execution.baseline
  rw [minted.trace, netInflow_append, entered, held, Int.add_zero]

theorem Burns.baseline (burned : Burns quantity before after)
    (other : component ≠ before.world.setToken.address) :
    after.baseline component = before.baseline component := by
  obtain ⟨_, _, stored⟩ := burned
  rw [stored]
  exact congrArg (fun held : Nat => (held : Int) - netInflow component before.events)
    (World.held_of_tokens other rfl rfl)

theorem baseline_ordered (order : Order) :
    (before.record (.ordered order)).baseline component = before.baseline component := by
  unfold Execution.baseline Execution.record
  rw [netInflow_append]
  exact congrArg _ (Int.add_zero _)

/-- What follows the hooks before an order keeps the baseline. -/
theorem completeIssue_baseline (lends : LendsExactly deployment underlying component)
    (other : component ≠ before.world.setToken.address)
    (returned : module.completeIssue deployment msgSender quantity recipient before =
      .ok after) : after.baseline component = before.baseline component := by
  simp only [completeIssue, bind_eq_ok] at returned
  obtain ⟨_, _, _, _, _, collecting, resolved, resolving, _, paying, minting⟩ := returned
  have only := (resolvePass_onlyBalances (exactMovement_onlyBalances _ _) collecting).trans
    (resolvePass_onlyBalances (exactMovement_onlyBalances _ _) resolving)
  have minted := ((resolveFees_eq_ok paying).trans (mint_eq_ok minting)).baseline
    (fun same => other (same.trans only.address))
  exact minted.trans ((resolvePass_baseline lends resolving).trans
    ((resolvePass_baseline lends collecting).trans (baseline_ordered _)))

theorem completeRedeem_baseline (lends : LendsExactly deployment underlying component)
    (other : component ≠ before.world.setToken.address)
    (returned : module.completeRedeem deployment msgSender quantity recipient before =
      .ok after) : after.baseline component = before.baseline component := by
  simp only [completeRedeem, bind_eq_ok] at returned
  obtain ⟨burned, burning, _, _, _, _, _, collecting, _, resolving, paying⟩ := returned
  have burns := burn_eq_ok burning
  have address : burned.world.setToken.address = before.world.setToken.address := by
    obtain ⟨_, _, stored⟩ := burns
    rw [stored]
  have only := (resolvePass_onlyBalances (exactMovement_onlyBalances _ _) collecting).trans
    (resolvePass_onlyBalances (exactMovement_onlyBalances _ _) resolving)
  have minted := (resolveFees_eq_ok paying).baseline
    (fun same => other (same.trans (only.address.trans address)))
  exact minted.trans ((resolvePass_baseline lends resolving).trans
    ((resolvePass_baseline lends collecting).trans
      ((baseline_ordered _).trans (burns.baseline other))))

/-- No hook of an order undoes what the order is for. -/
theorem action_of_replication {hook : HookModule} {setToken : SetToken}
    {operation : PositionOperation}
    (member : operation ∈ hook.replication isIssue quantity setToken token) :
    operation.action ≠ debtAction (!isIssue) := by
  cases hook with
  | compound _ =>
    obtain rfl := List.mem_singleton.mp member
    cases isIssue <;> exact PositionAction.noConfusion
  | aave _ =>
    obtain rfl := List.mem_singleton.mp member
    cases isIssue <;> exact PositionAction.noConfusion
  | staking _ =>
    obtain ⟨_, _, rfl⟩ := List.mem_map.mp member
    cases isIssue <;> exact PositionAction.noConfusion

theorem action_of_resolutionEvents {setToken : SetToken} {operation : PositionOperation}
    (member : .operated operation ∈ resolutionEvents deployment isIssue quantity setToken) :
    operation.action ≠ debtAction (!isIssue) := by
  have inPass : ∃ isEquity, .operated operation ∈
      passEvents deployment isIssue isEquity quantity setToken :=
    (List.mem_append.mp member).elim (fun first => ⟨_, first⟩) fun second => ⟨_, second⟩
  obtain ⟨isEquity, listed⟩ := inPass
  obtain ⟨unit, _, emitted⟩ := List.mem_flatMap.mp listed
  have hooked : .operated operation ∈
      hookEvents deployment isIssue isEquity quantity setToken unit.1 := by
    unfold positionEvents at emitted
    split at emitted
    · split at emitted
      · exact (List.mem_cons.mp emitted).resolve_left Event.noConfusion
      · exact (List.mem_append.mp emitted).resolve_right fun last =>
          Event.noConfusion (List.mem_singleton.mp last)
    · exact absurd emitted List.not_mem_nil
  obtain ⟨positionModule, _, responded⟩ := List.mem_flatMap.mp hooked
  obtain ⟨_, answered, same⟩ := List.mem_map.mp responded
  obtain rfl := Event.operated.inj same
  unfold Deployment.response at answered
  split at answered
  · unfold HookModule.response at answered
    split at answered
    · exact action_of_replication answered
    · exact absurd answered List.not_mem_nil
  · exact absurd answered List.not_mem_nil

/-- In the trace of an order, debt moves one way only. -/
theorem Traced.operationsOf_opposite {setToken : SetToken} {events : List Event}
    (traced : Traced module deployment isIssue quantity setToken events) :
    total (Event.operationsOf (debtAction !isIssue) component) events = 0 := by
  rw [total_traced traced _ (fun _ => rfl) (fun _ _ => rfl)]
  refine total_eq_zero _ fun event member => ?_
  rcases silent_resolutionEvents member with ⟨operation, rfl⟩ | ⟨_, rfl⟩
  · exact if_neg fun matched => action_of_resolutionEvents member matched.1
  · rfl

theorem Traced.transfersOf_opposite {setToken : SetToken} {events : List Event}
    (traced : Traced module deployment isIssue quantity setToken events) (isEquity : Bool) :
    total (Event.transfersOf (!isIssue) isEquity component) events = 0 := by
  rw [total_traced traced _ (fun _ => rfl) (fun _ _ => rfl), transfersOf_resolutionEvents,
    if_neg (by cases isIssue <;> exact Bool.noConfusion)]

/-- An issuance adds to what the Set holds what it collects and what its modules borrow, and
takes from it what it pays out. -/
theorem issue_held {start : Execution Ledger} (kept : PositionBookkeeping start.world.setToken)
    (empty : start.events = []) (lends : LendsExactly deployment underlying component)
    (other : component ≠ prepared.world.setToken.address)
    (preparing : module.prepareIssue deployment msgSender quantity recipient start =
      .ok prepared)
    (issued : module.issue deployment msgSender quantity recipient start = .ok after) :
    after.world.held component + total (Event.transfersOf true false component) after.events =
      prepared.world.held component +
        total (Event.transfersOf true true component) after.events +
        total (Event.operationsOf .borrow component) after.events := by
  have traced := issue_traced kept empty preparing issued
  have silent := (prepareIssue_eq_ok preparing).2.trace
  rw [issue, preparing] at issued
  have same := completeIssue_baseline lends other issued
  have repaid : total (Event.operationsOf .repay component) after.events = 0 :=
    traced.operationsOf_opposite
  have returned : total (Event.transfersOf false true component) after.events = 0 :=
    traced.transfersOf_opposite true
  have collected : total (Event.transfersOf false false component) after.events = 0 :=
    traced.transfersOf_opposite false
  unfold Execution.baseline at same
  rw [silent, empty, netInflow_nil, netInflow, repaid, returned, collected] at same
  omega

/-- A redemption takes from what the Set holds what it returns and what its modules repay, and
adds to it what it collects. -/
theorem redeem_held {start : Execution Ledger} (kept : PositionBookkeeping start.world.setToken)
    (empty : start.events = []) (lends : LendsExactly deployment underlying component)
    (other : component ≠ prepared.world.setToken.address)
    (preparing : module.prepareRedeem deployment quantity start = .ok prepared)
    (redeemed : module.redeem deployment msgSender quantity recipient start = .ok after) :
    after.world.held component + total (Event.transfersOf false true component) after.events +
        total (Event.operationsOf .repay component) after.events =
      prepared.world.held component +
        total (Event.transfersOf false false component) after.events := by
  have traced := redeem_traced kept empty preparing redeemed
  have silent := (prepareRedeem_eq_ok preparing).2.trace
  rw [redeem, preparing] at redeemed
  have same := completeRedeem_baseline lends other redeemed
  have borrowed : total (Event.operationsOf .borrow component) after.events = 0 :=
    traced.operationsOf_opposite
  have collected : total (Event.transfersOf true true component) after.events = 0 :=
    traced.transfersOf_opposite true
  have paidOut : total (Event.transfersOf true false component) after.events = 0 :=
    traced.transfersOf_opposite false
  unfold Execution.baseline at same
  rw [silent, empty, netInflow_nil, netInflow, borrowed, collected, paidOut] at same
  omega

end Orders

end DebtIssuanceModule

end IndexProtocol

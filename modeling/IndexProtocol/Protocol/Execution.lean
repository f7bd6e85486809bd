/-
This file models a call during which the Set calls outside contracts: lending
protocols, staking contracts and the wrapped ether token. Their own state is a
ledger the model leaves open, and what they do to token balances is a parameter;
they change nothing else of the Set. The execution keeps a trace of the orders
that are computed, the component transfers, the operations on external positions
and the tokens minted, in the order they are carried out.
-/

import IndexProtocol.Library.Tracing
import IndexProtocol.Protocol.ModuleBase

namespace IndexProtocol

open Revert

/-! ### The trace -/

inductive PositionAction
  | borrow
  | repay
  | stake
  | unstake
  deriving DecidableEq

/-- A module changes an external position of the Set in a component, at a lending market or a
staking contract. -/
structure PositionOperation where
  action : PositionAction
  module : Address
  component : Address
  counterparty : Address
  quantity : Nat
  deriving DecidableEq

/-- A transfer of a component between the Set and the account that issues or redeems. -/
structure Transfer where
  isIssue : Bool
  isEquity : Bool
  component : Address
  quantity : Nat
  deriving DecidableEq

/-- An order, with the equity and debt units of each component it is computed from. -/
structure Order where
  isIssue : Bool
  quantity : Nat
  units : List (Address × Nat × Nat)
  deriving DecidableEq

inductive Event
  | ordered (order : Order)
  | transferred (transfer : Transfer)
  | operated (operation : PositionOperation)
  | minted (recipient : Address) (quantity : Nat)
  deriving DecidableEq

/-! ### Outside contracts -/

/-- The call data of the functions the Set calls. -/
inductive CallData
  | borrow (quantity : Nat)
  | repayBorrow (quantity : Nat)
  | repayBorrowEther
  | deposit
  | withdraw (quantity : Nat)
  | borrowAsset (asset : Address) (quantity interestRateMode referralCode : Nat)
      (onBehalfOf : Address)
  | repayAsset (asset : Address) (quantity interestRateMode : Nat) (onBehalfOf : Address)
  | enterMarkets (cTokens : List Address)
  | exitMarket (cToken : Address)
  | raw (data : Bytes)

structure Invocation where
  target : Address
  value : Nat
  callData : CallData

/-- The outside contracts. A call returns one word; the borrow balance of an account is stored
by its market, and is brought up to date as interest accrues. -/
structure Protocols (Ledger : Type) where
  execute : Invocation → World → Ledger → Outcome (Nat × World × Ledger)
  onlyBalances : ∀ invocation world ledger word next nextLedger,
    execute invocation world ledger = .ok (word, next, nextLedger) →
      World.OnlyBalances world next
  borrowBalanceStored : Address → Address → Ledger → Nat
  borrowBalanceCurrent : Address → Address → Ledger → Outcome (Nat × Ledger)

/-- `SetToken.invoke` with the call data of an approval. -/
def World.invokeApprove (module token spender : Address) (quantity : Nat) (world : World) :
    Outcome World := do
  world.setToken.validatePrivileged ⟨world.controller, module⟩
  world.callToken token fun token => token.approve world.setToken.address spender quantity

theorem World.invokeApprove_eq_ok {world next : World} {module token spender : Address}
    {quantity : Nat} (returned : world.invokeApprove module token spender quantity = .ok next) :
    OnlyBalances world next := by
  simp only [invokeApprove, bind_eq_ok] at returned
  obtain ⟨_, _, approved⟩ := returned
  obtain ⟨_, called, rfl⟩ := callToken_eq_ok approved
  exact onlyBalances_storeToken _ _ (ERC20.approve_eq_ok called).1

theorem World.held_invokeApprove {world next : World} {module token spender : Address}
    {quantity : Nat} (returned : world.invokeApprove module token spender quantity = .ok next) :
    next.held = world.held := by
  simp only [invokeApprove, bind_eq_ok] at returned
  obtain ⟨_, _, approved⟩ := returned
  obtain ⟨_, called, rfl⟩ := callToken_eq_ok approved
  rw [held_storeToken, (ERC20.approve_eq_ok called).2]
  exact Function.update_eq_self token world.held

structure Execution (Ledger : Type) where
  world : World
  ledger : Ledger
  events : List Event

namespace Execution

variable {Ledger : Type}

def record (event : Event) (execution : Execution Ledger) : Execution Ledger :=
  { execution with events := execution.events ++ [event] }

/-- Carry out a call and enter it in the trace. -/
def carryOut (event : Event) (call : Execution Ledger → Outcome (Execution Ledger))
    (execution : Execution Ledger) : Outcome (Execution Ledger) := do
  let done ← call execution
  pure (done.record event)

/-- A call that involves no outside contract. -/
def onWorld (call : World → Outcome World) (execution : Execution Ledger) :
    Outcome (Execution Ledger) := do
  let world ← call execution.world
  pure { execution with world := world }

/-- `SetToken.invoke`, called by a module. Returns the word the contract returns. -/
def invoke (protocols : Protocols Ledger) (module : Address) (invocation : Invocation)
    (execution : Execution Ledger) : Outcome (Nat × Execution Ledger) := do
  execution.world.setToken.validatePrivileged ⟨execution.world.controller, module⟩
  let (word, world, ledger) ←
    protocols.execute invocation execution.world execution.ledger
  pure (word, { execution with world := world, ledger := ledger })

/-! ### The library calls -/

def invokeApprove (module token spender : Address) (quantity : Nat) :
    Execution Ledger → Outcome (Execution Ledger) :=
  onWorld (World.invokeApprove module token spender quantity)

/-- A call whose returned word is not looked at. -/
def invokeUnchecked (protocols : Protocols Ledger) (module : Address) (invocation : Invocation)
    (execution : Execution Ledger) : Outcome (Execution Ledger) := do
  let (_, invoked) ← execution.invoke protocols module invocation
  pure invoked

/-- A call that must return zero. -/
def invokeExpectingZero (protocols : Protocols Ledger) (module : Address)
    (invocation : Invocation) (reason : String) (execution : Execution Ledger) :
    Outcome (Execution Ledger) := do
  let (word, invoked) ← execution.invoke protocols module invocation
  require (word = 0) reason
  pure invoked

def invokeBorrow (protocols : Protocols Ledger) (module cToken : Address) (quantity : Nat) :
    Execution Ledger → Outcome (Execution Ledger) :=
  invokeExpectingZero protocols module ⟨cToken, 0, .borrow quantity⟩ "Borrow failed"

def invokeRepayBorrowCToken (protocols : Protocols Ledger) (module cToken : Address)
    (quantity : Nat) : Execution Ledger → Outcome (Execution Ledger) :=
  invokeExpectingZero protocols module ⟨cToken, 0, .repayBorrow quantity⟩ "Repay failed"

def invokeRepayBorrowCEther (protocols : Protocols Ledger) (module cEther : Address)
    (quantity : Nat) : Execution Ledger → Outcome (Execution Ledger) :=
  invokeUnchecked protocols module ⟨cEther, quantity, .repayBorrowEther⟩

def invokeUnwrapWETH (protocols : Protocols Ledger) (module weth : Address) (quantity : Nat) :
    Execution Ledger → Outcome (Execution Ledger) :=
  invokeUnchecked protocols module ⟨weth, 0, .withdraw quantity⟩

def invokeWrapWETH (protocols : Protocols Ledger) (module weth : Address) (quantity : Nat) :
    Execution Ledger → Outcome (Execution Ledger) :=
  invokeUnchecked protocols module ⟨weth, quantity, .deposit⟩

/-- Enters one market; the word read is the comptroller's answer for it. -/
def invokeEnterMarkets (protocols : Protocols Ledger) (module cToken comptroller : Address) :
    Execution Ledger → Outcome (Execution Ledger) :=
  invokeExpectingZero protocols module ⟨comptroller, 0, .enterMarkets [cToken]⟩
    "Entering failed"

def invokeExitMarket (protocols : Protocols Ledger) (module cToken comptroller : Address) :
    Execution Ledger → Outcome (Execution Ledger) :=
  invokeExpectingZero protocols module ⟨comptroller, 0, .exitMarket cToken⟩ "Exiting failed"

/-- `AaveV2.invokeBorrow`, on behalf of the Set. -/
def invokeBorrowAsset (protocols : Protocols Ledger) (module lendingPool asset : Address)
    (quantity interestRateMode : Nat) (execution : Execution Ledger) :
    Outcome (Execution Ledger) :=
  execution.invokeUnchecked protocols module ⟨lendingPool, 0,
    .borrowAsset asset quantity interestRateMode 0 execution.world.setToken.address⟩

/-- `AaveV2.invokeRepay`, on behalf of the Set. -/
def invokeRepayAsset (protocols : Protocols Ledger) (module lendingPool asset : Address)
    (quantity interestRateMode : Nat) (execution : Execution Ledger) :
    Outcome (Execution Ledger) :=
  execution.invokeUnchecked protocols module ⟨lendingPool, 0,
    .repayAsset asset quantity interestRateMode execution.world.setToken.address⟩

/-! ### What a call emits -/

/-- The second execution comes from the first by changes of balances alone, with the events
added to the trace. -/
structure Emits (events : List Event) (before after : Execution Ledger) : Prop where
  onlyBalances : World.OnlyBalances before.world after.world
  trace : after.events = before.events ++ events

section Emissions

variable {before middle after : Execution Ledger} {first second : List Event}
  {protocols : Protocols Ledger} {module : Address} {invocation : Invocation} {word : Nat}

theorem Emits.refl (execution : Execution Ledger) : Emits [] execution execution :=
  ⟨World.OnlyBalances.refl _, (List.append_nil _).symm⟩

theorem Emits.trans (start : Emits first before middle) (rest : Emits second middle after) :
    Emits (first ++ second) before after where
  onlyBalances := start.onlyBalances.trans rest.onlyBalances
  trace := by rw [rest.trace, start.trace, List.append_assoc]

/-- A silent call before another one emits nothing of its own. -/
theorem Emits.after_silent (start : Emits [] before middle) (rest : Emits second middle after) :
    Emits second before after :=
  start.trans rest

/-- A silent call after another one emits nothing of its own. -/
theorem Emits.then_silent (start : Emits first before middle) (rest : Emits [] middle after) :
    Emits first before after := by
  have both := start.trans rest
  rwa [List.append_nil] at both

/-- A loop emits what its body emits at each item, which may depend on the positions of the
Set, as no item changes them. -/
theorem foldlM_emits {Item : Type}
    {body : Execution Ledger → Item → Outcome (Execution Ledger)} {items : List Item}
    (emit : Item → List Event)
    (each : ∀ state item next, item ∈ items → World.OnlyBalances before.world state.world →
      body state item = .ok next → Emits (emit item) state next)
    (returned : items.foldlM body before = .ok after) :
    Emits (items.flatMap emit) before after := by
  obtain ⟨only, appended⟩ := Tracing.foldlM_appends Execution.events
    (fun state => World.OnlyBalances before.world state.world) body emit items
    (fun state item next member holds called =>
      have emitted := each state item next member holds called
      ⟨holds.trans emitted.onlyBalances, emitted.trace⟩)
    before after (World.OnlyBalances.refl _) returned
  exact ⟨only, appended⟩

theorem emits_record (event : Event) (execution : Execution Ledger) :
    Emits [event] execution (execution.record event) :=
  ⟨World.OnlyBalances.refl _, rfl⟩

theorem carryOut_eq_ok {event : Event} {call : Execution Ledger → Outcome (Execution Ledger)} :
    before.carryOut event call = .ok after ↔
      ∃ done, call before = .ok done ∧ done.record event = after := by
  simp only [carryOut, bind_eq_ok, pure_eq_ok]

/-- A call that is silent itself emits what is entered for it. -/
theorem carryOut_emits {event : Event} {call : Execution Ledger → Outcome (Execution Ledger)}
    (silent : ∀ done, call before = .ok done → Emits [] before done)
    (returned : before.carryOut event call = .ok after) : Emits [event] before after := by
  obtain ⟨done, called, rfl⟩ := carryOut_eq_ok.mp returned
  exact (silent done called).after_silent (emits_record event done)

theorem onWorld_eq_ok {call : World → Outcome World}
    (returned : before.onWorld call = .ok after) :
    call before.world = .ok after.world ∧ after = { before with world := after.world } := by
  simp only [onWorld, bind_eq_ok, pure_eq_ok] at returned
  obtain ⟨_, called, rfl⟩ := returned
  exact ⟨called, rfl⟩

theorem onWorld_emits {call : World → Outcome World}
    (only : ∀ next, call before.world = .ok next → World.OnlyBalances before.world next)
    (returned : before.onWorld call = .ok after) : Emits [] before after := by
  obtain ⟨called, stored⟩ := onWorld_eq_ok returned
  refine ⟨only _ called, ?_⟩
  rw [stored]
  exact (List.append_nil _).symm

theorem invoke_emits (returned : before.invoke protocols module invocation = .ok (word, after)) :
    Emits [] before after := by
  simp only [invoke, bind_eq_ok, pure_eq_ok, Prod.exists, Prod.mk.injEq] at returned
  obtain ⟨_, _, _, next, ledger, executed, _, rfl⟩ := returned
  exact ⟨protocols.onlyBalances _ _ _ _ _ _ executed, (List.append_nil _).symm⟩

theorem invokeApprove_emits {token spender : Address} {quantity : Nat}
    (returned : before.invokeApprove module token spender quantity = .ok after) :
    Emits [] before after :=
  onWorld_emits (fun _ approved => World.invokeApprove_eq_ok approved) returned

theorem invokeUnchecked_emits
    (returned : before.invokeUnchecked protocols module invocation = .ok after) :
    Emits [] before after := by
  simp only [invokeUnchecked, bind_eq_ok, pure_eq_ok, Prod.exists] at returned
  obtain ⟨_, _, invoked, rfl⟩ := returned
  exact invoke_emits invoked

theorem invokeExpectingZero_emits {reason : String}
    (returned : before.invokeExpectingZero protocols module invocation reason = .ok after) :
    Emits [] before after := by
  simp only [invokeExpectingZero, bind_eq_ok, pure_eq_ok, Prod.exists] at returned
  obtain ⟨_, _, invoked, _, _, rfl⟩ := returned
  exact invoke_emits invoked

end Emissions

end Execution

end IndexProtocol

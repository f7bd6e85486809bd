/-
This file models how a Set uses the Perpetual protocol. The protocol's own
contracts keep a ledger the model leaves open: what their getters report is
arbitrary, and a trade, a deposit or a withdrawal may change the ledger in any
way, but of the chain only token balances. A trade and a withdrawal settle the
account's pending funding; what was pending is kept in a trace.
-/

import IndexProtocol.Lib.UnitConversionUtils
import IndexProtocol.Protocol.Execution

namespace IndexProtocol

open Revert PreciseUnitMath

/-! ### The protocol -/

structure OpenPositionParams where
  baseToken : Address
  isBaseToQuote : Bool
  isExactInput : Bool
  amount : Nat
  oppositeAmountBound : Nat
  deadline : Nat
  sqrtPriceLimitX96 : Nat
  referralCode : Nat

structure SwapParams where
  baseToken : Address
  isBaseToQuote : Bool
  isExactInput : Bool
  amount : Nat
  sqrtPriceLimitX96 : Nat

/-- The contracts of the protocol, as the Set's account sees them. The getters take the account
first. The calls that change the ledger are made by the Set. -/
structure PerpV2 (Ledger : Type) where
  /-- The account and the base token. -/
  getBase : Address → Address → Ledger → Int
  /-- The account and the base token. -/
  getQuote : Address → Address → Ledger → Int
  owedRealizedPnl : Address → Ledger → Int
  getBalance : Address → Ledger → Int
  /-- What the account owes; a negative amount is paid to it. -/
  getAllPendingFundingPayment : Address → Ledger → Int
  getAccountValue : Address → Ledger → Int
  hasPool : Address → Ledger → Bool
  /-- Returns the base and the quote that were exchanged. -/
  openPosition : OpenPositionParams → World → Ledger → Outcome (Nat × Nat × World × Ledger)
  /-- The quoter undoes the trade it simulates. -/
  swap : SwapParams → World → Ledger → Outcome (Nat × Nat)
  deposit : Address → Nat → World → Ledger → Outcome (World × Ledger)
  withdraw : Address → Nat → World → Ledger → Outcome (World × Ledger)
  openPosition_onlyBalances : ∀ params world ledger base quote next nextLedger,
    openPosition params world ledger = .ok (base, quote, next, nextLedger) →
      World.OnlyBalances world next
  deposit_onlyBalances : ∀ asset quantity world ledger next nextLedger,
    deposit asset quantity world ledger = .ok (next, nextLedger) →
      World.OnlyBalances world next
  withdraw_onlyBalances : ∀ asset quantity world ledger next nextLedger,
    withdraw asset quantity world ledger = .ok (next, nextLedger) →
      World.OnlyBalances world next

/-- What happens to the funding of the account: a payment to it is settled, or a part of what
was settled is withdrawn. Both are in precise units. -/
inductive FundingEvent
  | settled (payment : Int)
  | withdrawn (amount : Nat)
  deriving DecidableEq

/-- The chain, the ledger of the protocol, and the trace of the account's funding. -/
structure PerpExecution (Ledger : Type) where
  world : World
  ledger : Ledger
  events : List FundingEvent

namespace PerpExecution

variable {Ledger : Type} (perp : PerpV2 Ledger) (module : Address)

def onWorld (call : World → Outcome World) (execution : PerpExecution Ledger) :
    Outcome (PerpExecution Ledger) := do
  let world ← call execution.world
  pure { execution with world := world }

/-- The payment to the Set that the next settlement makes. -/
def pendingFunding (execution : PerpExecution Ledger) : Int :=
  -perp.getAllPendingFundingPayment execution.world.setToken.address execution.ledger

def settle (world : World) (ledger : Ledger) (execution : PerpExecution Ledger) :
    PerpExecution Ledger where
  world := world
  ledger := ledger
  events := execution.events ++ [.settled (execution.pendingFunding perp)]

/-- `SetToken.invoke` of the clearing house. -/
def invokeOpenPosition (params : OpenPositionParams) (execution : PerpExecution Ledger) :
    Outcome (Nat × Nat × PerpExecution Ledger) := do
  execution.world.setToken.validatePrivileged ⟨execution.world.controller, module⟩
  let (base, quote, world, ledger) ←
    perp.openPosition params execution.world execution.ledger
  pure (base, quote, execution.settle perp world ledger)

/-- `SetToken.invoke` of the quoter. -/
def invokeSwap (params : SwapParams) (execution : PerpExecution Ledger) :
    Outcome (Nat × Nat × PerpExecution Ledger) := do
  execution.world.setToken.validatePrivileged ⟨execution.world.controller, module⟩
  let (base, quote) ← perp.swap params execution.world execution.ledger
  pure (base, quote, execution)

def invokeDeposit (asset : Address) (amountNotional : Nat) (execution : PerpExecution Ledger) :
    Outcome (PerpExecution Ledger) := do
  execution.world.setToken.validatePrivileged ⟨execution.world.controller, module⟩
  let (world, ledger) ← perp.deposit asset amountNotional execution.world execution.ledger
  pure { execution with world := world, ledger := ledger }

def invokeWithdraw (asset : Address) (amountNotional : Nat) (execution : PerpExecution Ledger) :
    Outcome (PerpExecution Ledger) := do
  execution.world.setToken.validatePrivileged ⟨execution.world.controller, module⟩
  let (world, ledger) ← perp.withdraw asset amountNotional execution.world execution.ledger
  pure (execution.settle perp world ledger)

end PerpExecution

/-! ### Trades -/

namespace PerpV2LibraryV2

structure ActionInfo where
  baseToken : Address
  isBuy : Bool
  baseTokenAmount : Nat
  oppositeAmountBound : Nat

variable {Ledger : Type} (perp : PerpV2 Ledger) (module : Address)

def simulateTrade (actionInfo : ActionInfo) (execution : PerpExecution Ledger) :
    Outcome (Nat × Nat × PerpExecution Ledger) :=
  execution.invokeSwap perp module
    { baseToken := actionInfo.baseToken
      isBaseToQuote := !actionInfo.isBuy
      isExactInput := !actionInfo.isBuy
      amount := actionInfo.baseTokenAmount
      sqrtPriceLimitX96 := 0 }

def executeTrade (actionInfo : ActionInfo) (execution : PerpExecution Ledger) :
    Outcome (Nat × Nat × PerpExecution Ledger) :=
  execution.invokeOpenPosition perp module
    { baseToken := actionInfo.baseToken
      isBaseToQuote := !actionInfo.isBuy
      isExactInput := !actionInfo.isBuy
      amount := actionInfo.baseTokenAmount
      oppositeAmountBound := actionInfo.oppositeAmountBound
      deadline := 2 ^ 256 - 1
      sqrtPriceLimitX96 := 0
      referralCode := 0 }

end PerpV2LibraryV2

/-! ### Positions -/

namespace PerpV2Positions

structure PositionNotionalInfo where
  baseToken : Address
  baseBalance : Int
  quoteBalance : Int

variable {Ledger : Type} (perp : PerpV2 Ledger)

def getNetQuoteBalance (setToken : Address) (baseTokens : List Address) (ledger : Ledger) :
    Outcome Int :=
  baseTokens.foldlM (fun netQuoteBalance baseToken =>
    SignedSafeMath.add netQuoteBalance (perp.getQuote setToken baseToken ledger)) 0

def getPositionNotionalInfo (setToken : Address) (baseTokens : List Address) (ledger : Ledger) :
    List PositionNotionalInfo :=
  baseTokens.map fun baseToken =>
    { baseToken
      baseBalance := perp.getBase setToken baseToken ledger
      quoteBalance := perp.getQuote setToken baseToken ledger }

/-- Arrays parallel to the components: the change of the unit at the adjusted component, and no
change of debt. -/
def formatAdjustments (setToken : SetToken) (adjustComponent : Address)
    (currentExternalPositionUnit newExternalPositionUnit : Int) :
    Outcome (List Int × List Int) := do
  let unchanged := setToken.components.map fun _ => (0 : Int)
  match AddressArrayUtils.indexOf setToken.components adjustComponent with
  | some index =>
    let adjustment ←
      SignedSafeMath.sub newExternalPositionUnit currentExternalPositionUnit
    pure (unchanged.set index adjustment, unchanged)
  | none => pure (unchanged, unchanged)

end PerpV2Positions

/-! ### What the calls change -/

namespace PerpExecution

variable {Ledger : Type} {perp : PerpV2 Ledger} {module asset : Address}
  {execution next : PerpExecution Ledger} {base quote amount : Nat}

theorem onWorld_eq_ok {call : World → Outcome World}
    (returned : execution.onWorld call = .ok next) :
    call execution.world = .ok next.world ∧ next = { execution with world := next.world } := by
  simp only [onWorld, bind_eq_ok, pure_eq_ok] at returned
  obtain ⟨_, called, rfl⟩ := returned
  exact ⟨called, rfl⟩

theorem invokeOpenPosition_eq_ok {params : OpenPositionParams}
    (returned : execution.invokeOpenPosition perp module params = .ok (base, quote, next)) :
    perp.openPosition params execution.world execution.ledger =
        .ok (base, quote, next.world, next.ledger) ∧
      next = execution.settle perp next.world next.ledger := by
  simp only [invokeOpenPosition, bind_eq_ok, Prod.exists, pure_eq_ok, Prod.mk.injEq] at returned
  obtain ⟨_, _, _, _, _, _, opened, rfl, rfl, rfl⟩ := returned
  exact ⟨opened, rfl⟩

theorem invokeSwap_eq_ok {params : SwapParams}
    (returned : execution.invokeSwap perp module params = .ok (base, quote, next)) :
    perp.swap params execution.world execution.ledger = .ok (base, quote) ∧ next = execution := by
  simp only [invokeSwap, bind_eq_ok, Prod.exists, pure_eq_ok, Prod.mk.injEq] at returned
  obtain ⟨_, _, _, _, quoted, rfl, rfl, rfl⟩ := returned
  exact ⟨quoted, rfl⟩

theorem invokeDeposit_eq_ok
    (returned : execution.invokeDeposit perp module asset amount = .ok next) :
    perp.deposit asset amount execution.world execution.ledger = .ok (next.world, next.ledger) ∧
      next.events = execution.events := by
  simp only [invokeDeposit, bind_eq_ok, Prod.exists, pure_eq_ok] at returned
  obtain ⟨_, _, _, _, deposited, rfl⟩ := returned
  exact ⟨deposited, rfl⟩

theorem invokeWithdraw_eq_ok
    (returned : execution.invokeWithdraw perp module asset amount = .ok next) :
    perp.withdraw asset amount execution.world execution.ledger =
        .ok (next.world, next.ledger) ∧
      next = execution.settle perp next.world next.ledger := by
  simp only [invokeWithdraw, bind_eq_ok, Prod.exists, pure_eq_ok] at returned
  obtain ⟨_, _, _, _, withdrawn, rfl⟩ := returned
  exact ⟨withdrawn, rfl⟩

end PerpExecution

end IndexProtocol

/-
This file models the issuance hooks of the Compound leverage module. Before an
order the module syncs its positions, on a redemption with the interest accrued.
For a component it borrows the position's share of the debt on issuance and
repays it on redemption, whichever pass the hook is called from.
-/

import IndexProtocol.Modules.LeverageHooks

namespace IndexProtocol

open Revert PreciseUnitMath

/-- The module's storage that its hooks read. -/
structure CompoundLeverageModule where
  address : Address
  cEther : Address
  weth : Address
  underlyingToCToken : Address → Address
  collateralCTokens : List Address
  borrowCTokens : List Address
  borrowAssets : List Address

namespace CompoundLeverageModule

variable {Ledger : Type}

/-! ### Sync -/

/-- The borrow balance of the Set, and the execution once it is read. -/
def borrowBalance (protocols : Protocols Ledger) (shouldAccrueInterest : Bool)
    (cToken : Address) (execution : Execution Ledger) : Outcome (Nat × Execution Ledger) :=
  let account := execution.world.setToken.address
  if shouldAccrueInterest then do
    let (balance, ledger) ← protocols.borrowBalanceCurrent cToken account execution.ledger
    pure (balance, { execution with ledger := ledger })
  else pure (protocols.borrowBalanceStored cToken account execution.ledger, execution)

def syncBorrow (module : CompoundLeverageModule) (protocols : Protocols Ledger)
    (setTotalSupply : Nat) (shouldAccrueInterest : Bool) (execution : Execution Ledger)
    (borrow : Address × Address) : Outcome (Execution Ledger) := do
  let (borrowNotionalBalance, accrued) ←
    borrowBalance protocols shouldAccrueInterest borrow.1 execution
  accrued.onWorld
    (LeverageHooks.syncBorrow module.address borrow.2 borrowNotionalBalance setTotalSupply)

/-- The two arrays of borrow assets are written together and have one length. -/
def sync (module : CompoundLeverageModule) (protocols : Protocols Ledger)
    (shouldAccrueInterest : Bool) (execution : Execution Ledger) :
    Outcome (Execution Ledger) := do
  ModuleBase.validateOnlyValidAndInitializedSet module.address execution.world
  let setTotalSupply := execution.world.setToken.totalSupply
  if 0 < setTotalSupply then do
    let synced ← execution.onWorld fun world =>
      module.collateralCTokens.foldlM
        (LeverageHooks.syncCollateral module.address setTotalSupply) world
    (module.borrowCTokens.zip module.borrowAssets).foldlM
      (module.syncBorrow protocols setTotalSupply shouldAccrueInterest) synced
  else pure execution

def moduleIssueHook (module : CompoundLeverageModule) (protocols : Protocols Ledger)
    (msgSender : Address) (execution : Execution Ledger) : Outcome (Execution Ledger) := do
  ModuleBase.validateOnlyModule msgSender execution.world
  module.sync protocols false execution

def moduleRedeemHook (module : CompoundLeverageModule) (protocols : Protocols Ledger)
    (msgSender : Address) (execution : Execution Ledger) : Outcome (Execution Ledger) := do
  ModuleBase.validateOnlyModule msgSender execution.world
  module.sync protocols true execution

/-! ### Component hooks -/

/-- Compound pays the wrapped ether token's debt out in ether. -/
def borrow (module : CompoundLeverageModule) (protocols : Protocols Ledger) (cToken : Address)
    (notionalBorrowQuantity : Nat) (execution : Execution Ledger) :
    Outcome (Execution Ledger) := do
  let borrowed ←
    execution.invokeBorrow protocols module.address cToken notionalBorrowQuantity
  if cToken = module.cEther then
    borrowed.invokeWrapWETH protocols module.address module.weth notionalBorrowQuantity
  else pure borrowed

def repayBorrow (module : CompoundLeverageModule) (protocols : Protocols Ledger)
    (cToken underlyingToken : Address) (repayNotional : Nat) (execution : Execution Ledger) :
    Outcome (Execution Ledger) :=
  if cToken = module.cEther then do
    let unwrapped ←
      execution.invokeUnwrapWETH protocols module.address module.weth repayNotional
    unwrapped.invokeRepayBorrowCEther protocols module.address cToken repayNotional
  else do
    let approved ←
      execution.invokeApprove module.address underlyingToken cToken repayNotional
    approved.invokeRepayBorrowCToken protocols module.address cToken repayNotional

/-- The flag that tells the equity pass from the debt pass is ignored. -/
def componentIssueHook (module : CompoundLeverageModule) (protocols : Protocols Ledger)
    (msgSender : Address) (setTokenQuantity : Nat) (component : Address) (_isEquity : Bool)
    (execution : Execution Ledger) : Outcome (Execution Ledger) := do
  ModuleBase.validateOnlyModule msgSender execution.world
  let debt ← LeverageHooks.componentDebt module.address component execution.world.setToken
  let notionalDebt ← preciseMul debt setTokenQuantity
  let cToken := module.underlyingToCToken component
  execution.carryOut (.operated ⟨.borrow, module.address, component, cToken, notionalDebt⟩)
    (module.borrow protocols cToken notionalDebt)

def componentRedeemHook (module : CompoundLeverageModule) (protocols : Protocols Ledger)
    (msgSender : Address) (setTokenQuantity : Nat) (component : Address) (_isEquity : Bool)
    (execution : Execution Ledger) : Outcome (Execution Ledger) := do
  ModuleBase.validateOnlyModule msgSender execution.world
  let debt ← LeverageHooks.componentDebt module.address component execution.world.setToken
  let notionalDebt ← preciseMulCeil debt setTokenQuantity
  let cToken := module.underlyingToCToken component
  execution.carryOut (.operated ⟨.repay, module.address, component, cToken, notionalDebt⟩)
    (module.repayBorrow protocols cToken component notionalDebt)

/-! ### What the hooks do -/

/-- The operation that replicates the module's position of a component. -/
def replication (module : CompoundLeverageModule) (isIssue : Bool) (quantity : Nat)
    (setToken : SetToken) (component : Address) : List PositionOperation :=
  [⟨if isIssue then .borrow else .repay, module.address, component,
    module.underlyingToCToken component,
    LeverageHooks.notionalDebt isIssue
      (LeverageHooks.debtUnit module.address component setToken) quantity⟩]

section Effects

variable {module : CompoundLeverageModule} {protocols : Protocols Ledger}
  {msgSender cToken component : Address} {quantity : Nat} {isEquity accrue : Bool}
  {before after : Execution Ledger}

theorem borrow_emits
    (returned : module.borrow protocols cToken quantity before = .ok after) :
    Execution.Emits [] before after := by
  simp only [borrow, bind_eq_ok] at returned
  obtain ⟨borrowed, borrowing, wrapping⟩ := returned
  have first := Execution.invokeExpectingZero_emits borrowing
  split at wrapping
  · exact first.then_silent (Execution.invokeUnchecked_emits wrapping)
  · exact (pure_eq_ok _ _).mp wrapping ▸ first

theorem repayBorrow_emits
    (returned : module.repayBorrow protocols cToken component quantity before = .ok after) :
    Execution.Emits [] before after := by
  unfold repayBorrow at returned
  split at returned
  · simp only [bind_eq_ok] at returned
    obtain ⟨_, unwrapping, repaying⟩ := returned
    exact (Execution.invokeUnchecked_emits unwrapping).then_silent
      (Execution.invokeUnchecked_emits repaying)
  · simp only [bind_eq_ok] at returned
    obtain ⟨_, approving, repaying⟩ := returned
    exact (Execution.invokeApprove_emits approving).then_silent
      (Execution.invokeExpectingZero_emits repaying)

theorem componentIssueHook_emits
    (returned : module.componentIssueHook protocols msgSender quantity component isEquity
      before = .ok after) :
    Execution.Emits
      ((module.replication true quantity before.world.setToken component).map .operated)
      before after := by
  simp only [componentIssueHook, bind_eq_ok, preciseMul_eq_ok] at returned
  obtain ⟨_, _, debt, read, notional, ⟨_, rfl⟩, borrowing⟩ := returned
  obtain rfl := LeverageHooks.componentDebt_eq_ok read
  simp only [replication, LeverageHooks.notionalDebt, if_true, List.map_cons, List.map_nil]
  exact Execution.carryOut_emits (fun _ => borrow_emits) borrowing

theorem componentRedeemHook_emits
    (returned : module.componentRedeemHook protocols msgSender quantity component isEquity
      before = .ok after) :
    Execution.Emits
      ((module.replication false quantity before.world.setToken component).map .operated)
      before after := by
  simp only [componentRedeemHook, bind_eq_ok, preciseMulCeil_eq_ok] at returned
  obtain ⟨_, _, debt, read, notional, ⟨_, rfl⟩, repaying⟩ := returned
  obtain rfl := LeverageHooks.componentDebt_eq_ok read
  simp only [replication, LeverageHooks.notionalDebt, Bool.false_eq_true, if_false,
    List.map_cons, List.map_nil]
  exact Execution.carryOut_emits (fun _ => repayBorrow_emits) repaying

theorem borrowBalance_prepares {balance : Nat}
    (returned : borrowBalance protocols accrue cToken before = .ok (balance, after)) :
    Execution.Prepares before after := by
  unfold borrowBalance at returned
  split at returned
  · simp only [bind_eq_ok, pure_eq_ok, Prod.exists, Prod.mk.injEq] at returned
    obtain ⟨_, _, _, _, rfl⟩ := returned
    exact ⟨rfl, id⟩
  · rw [pure_eq_ok, Prod.mk.injEq] at returned
    exact returned.2 ▸ Execution.Prepares.refl _

/-- Without a supply nothing is written; with one, the collateral assets and then the borrow
assets. -/
theorem sync_cases (returned : module.sync protocols accrue before = .ok after) :
    before.world.setToken.totalSupply = 0 ∧ after = before ∨
      0 < before.world.setToken.totalSupply ∧ ∃ middle,
        (before.onWorld fun world => module.collateralCTokens.foldlM
          (LeverageHooks.syncCollateral module.address before.world.setToken.totalSupply) world) =
            .ok middle ∧
        (module.borrowCTokens.zip module.borrowAssets).foldlM
          (module.syncBorrow protocols before.world.setToken.totalSupply accrue) middle =
            .ok after := by
  simp only [sync, bind_eq_ok] at returned
  obtain ⟨_, _, synced⟩ := returned
  split at synced
  · rename_i supplied
    exact Or.inr ⟨supplied, (bind_eq_ok _ _ _).mp synced⟩
  · rename_i none
    exact Or.inl ⟨Nat.eq_zero_of_not_pos none, ((pure_eq_ok _ _).mp synced).symm⟩

theorem sync_prepares (returned : module.sync protocols accrue before = .ok after) :
    Execution.Prepares before after := by
  rcases sync_cases returned with ⟨_, rfl⟩ | ⟨_, middle, collateral, borrows⟩
  · exact Execution.Prepares.refl _
  · have first : Execution.Prepares before middle := by
      refine Execution.onWorld_prepares (fun next looped kept => ?_) collateral
      exact foldlM_invariant _ (fun world => PositionBookkeeping world.setToken) _
        (fun _ _ _ _ => LeverageHooks.syncCollateral_bookkeeping) _ _ kept looped
    refine first.trans (Execution.foldlM_prepares (fun state borrow next called => ?_) borrows)
    simp only [syncBorrow, bind_eq_ok, Prod.exists] at called
    obtain ⟨_, _, reading, edited⟩ := called
    exact (borrowBalance_prepares reading).trans (Execution.onWorld_prepares
      (fun _ called kept => LeverageHooks.syncBorrow_bookkeeping kept called) edited)

end Effects

end CompoundLeverageModule

end IndexProtocol

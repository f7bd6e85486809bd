/-
This file models the issuance hooks of the Aave leverage module. Before an order
the module syncs its positions with the balances of the aTokens and of the
variable debt tokens. For a component it borrows the position's share of the
debt on issuance and repays it on redemption, from the debt pass only.
-/

import IndexProtocol.Modules.LeverageHooks

namespace IndexProtocol

open Revert PreciseUnitMath

structure ReserveTokens where
  aToken : Address
  variableDebtToken : Address

/-- The module's storage that its hooks read, and the lending pool it finds. -/
structure AaveLeverageModule where
  address : Address
  lendingPool : Address
  underlyingToReserveTokens : Address → ReserveTokens
  collateralAssets : List Address
  borrowAssets : List Address

namespace AaveLeverageModule

variable {Ledger : Type}

/-- Variable rate borrows. -/
def borrowRateMode : Nat := 2

/-! ### Sync -/

def syncCollateral (module : AaveLeverageModule) (setTotalSupply : Nat) (world : World)
    (collateralAsset : Address) : Outcome World :=
  LeverageHooks.syncCollateral module.address setTotalSupply world
    (module.underlyingToReserveTokens collateralAsset).aToken

def syncBorrow (module : AaveLeverageModule) (setTotalSupply : Nat) (world : World)
    (borrowAsset : Address) : Outcome World :=
  LeverageHooks.syncBorrow module.address borrowAsset
    (world.held (module.underlyingToReserveTokens borrowAsset).variableDebtToken)
    setTotalSupply world

def sync (module : AaveLeverageModule) (world : World) : Outcome World := do
  ModuleBase.validateOnlyValidAndInitializedSet module.address world
  let setTotalSupply := world.setToken.totalSupply
  if 0 < setTotalSupply then do
    let synced ← module.collateralAssets.foldlM (module.syncCollateral setTotalSupply) world
    module.borrowAssets.foldlM (module.syncBorrow setTotalSupply) synced
  else pure world

/-- The hooks before an issuance and before a redemption are the same. -/
def moduleHook (module : AaveLeverageModule) (msgSender : Address)
    (execution : Execution Ledger) : Outcome (Execution Ledger) := do
  ModuleBase.validateOnlyModule msgSender execution.world
  execution.onWorld module.sync

def moduleIssueHook (module : AaveLeverageModule) (msgSender : Address) :
    Execution Ledger → Outcome (Execution Ledger) :=
  module.moduleHook msgSender

def moduleRedeemHook (module : AaveLeverageModule) (msgSender : Address) :
    Execution Ledger → Outcome (Execution Ledger) :=
  module.moduleHook msgSender

/-! ### Component hooks -/

def borrowForHook (module : AaveLeverageModule) (protocols : Protocols Ledger) (asset : Address)
    (notionalQuantity : Nat) : Execution Ledger → Outcome (Execution Ledger) :=
  Execution.carryOut (.operated ⟨.borrow, module.address, asset, module.lendingPool,
      notionalQuantity⟩)
    (Execution.invokeBorrowAsset protocols module.address module.lendingPool asset
      notionalQuantity borrowRateMode)

def repayBorrowForHook (module : AaveLeverageModule) (protocols : Protocols Ledger)
    (asset : Address) (notionalQuantity : Nat) (execution : Execution Ledger) :
    Outcome (Execution Ledger) := do
  let approved ←
    execution.invokeApprove module.address asset module.lendingPool notionalQuantity
  approved.carryOut (.operated ⟨.repay, module.address, asset, module.lendingPool,
      notionalQuantity⟩)
    (Execution.invokeRepayAsset protocols module.address module.lendingPool asset
      notionalQuantity borrowRateMode)

/-- Called for an equity position the hook does nothing, as the loan would be taken out
twice. -/
def componentIssueHook (module : AaveLeverageModule) (protocols : Protocols Ledger)
    (msgSender : Address) (setTokenQuantity : Nat) (component : Address) (isEquity : Bool)
    (execution : Execution Ledger) : Outcome (Execution Ledger) := do
  ModuleBase.validateOnlyModule msgSender execution.world
  if isEquity = false then do
    let debt ← LeverageHooks.componentDebt module.address component execution.world.setToken
    let notionalDebt ← preciseMul debt setTokenQuantity
    module.borrowForHook protocols component notionalDebt execution
  else pure execution

/-- Called for an equity position the hook does nothing, as the loan would be paid down
twice. -/
def componentRedeemHook (module : AaveLeverageModule) (protocols : Protocols Ledger)
    (msgSender : Address) (setTokenQuantity : Nat) (component : Address) (isEquity : Bool)
    (execution : Execution Ledger) : Outcome (Execution Ledger) := do
  ModuleBase.validateOnlyModule msgSender execution.world
  if isEquity = false then do
    let debt ← LeverageHooks.componentDebt module.address component execution.world.setToken
    let notionalDebt ← preciseMulCeil debt setTokenQuantity
    module.repayBorrowForHook protocols component notionalDebt execution
  else pure execution

/-! ### What the hooks do -/

/-- The operation that replicates the module's position of a component. -/
def replication (module : AaveLeverageModule) (isIssue : Bool) (quantity : Nat)
    (setToken : SetToken) (component : Address) : List PositionOperation :=
  [⟨if isIssue then .borrow else .repay, module.address, component, module.lendingPool,
    LeverageHooks.notionalDebt isIssue
      (LeverageHooks.debtUnit module.address component setToken) quantity⟩]

section Effects

variable {module : AaveLeverageModule} {protocols : Protocols Ledger}
  {msgSender component : Address} {quantity : Nat} {isEquity : Bool}
  {before after : Execution Ledger}

theorem borrowForHook_emits
    (returned : module.borrowForHook protocols component quantity before = .ok after) :
    Execution.Emits [.operated ⟨.borrow, module.address, component, module.lendingPool, quantity⟩]
      before after :=
  Execution.carryOut_emits (fun _ => Execution.invokeUnchecked_emits) returned

theorem repayBorrowForHook_emits
    (returned : module.repayBorrowForHook protocols component quantity before = .ok after) :
    Execution.Emits [.operated ⟨.repay, module.address, component, module.lendingPool, quantity⟩]
      before after := by
  simp only [repayBorrowForHook, bind_eq_ok] at returned
  obtain ⟨_, approving, repaying⟩ := returned
  exact (Execution.invokeApprove_emits approving).after_silent
    (Execution.carryOut_emits (fun _ => Execution.invokeUnchecked_emits) repaying)

theorem componentIssueHook_emits
    (returned : module.componentIssueHook protocols msgSender quantity component isEquity
      before = .ok after) :
    Execution.Emits ((if isEquity = true then []
      else module.replication true quantity before.world.setToken component).map .operated)
      before after := by
  simp only [componentIssueHook, bind_eq_ok] at returned
  obtain ⟨_, _, hooked⟩ := returned
  cases isEquity with
  | true =>
    rw [if_neg (by simp), pure_eq_ok] at hooked
    rw [if_pos rfl]
    exact hooked ▸ Execution.Emits.refl _
  | false =>
    rw [if_pos rfl] at hooked
    simp only [bind_eq_ok, preciseMul_eq_ok] at hooked
    obtain ⟨debt, read, notional, ⟨_, rfl⟩, borrowing⟩ := hooked
    obtain rfl := LeverageHooks.componentDebt_eq_ok read
    simp only [replication, LeverageHooks.notionalDebt, Bool.false_eq_true, if_false, if_true,
      List.map_cons, List.map_nil]
    exact borrowForHook_emits borrowing

theorem componentRedeemHook_emits
    (returned : module.componentRedeemHook protocols msgSender quantity component isEquity
      before = .ok after) :
    Execution.Emits ((if isEquity = true then []
      else module.replication false quantity before.world.setToken component).map .operated)
      before after := by
  simp only [componentRedeemHook, bind_eq_ok] at returned
  obtain ⟨_, _, hooked⟩ := returned
  cases isEquity with
  | true =>
    rw [if_neg (by simp), pure_eq_ok] at hooked
    rw [if_pos rfl]
    exact hooked ▸ Execution.Emits.refl _
  | false =>
    rw [if_pos rfl] at hooked
    simp only [bind_eq_ok, preciseMulCeil_eq_ok] at hooked
    obtain ⟨debt, read, notional, ⟨_, rfl⟩, repaying⟩ := hooked
    obtain rfl := LeverageHooks.componentDebt_eq_ok read
    simp only [replication, LeverageHooks.notionalDebt, Bool.false_eq_true, if_false,
      List.map_cons, List.map_nil]
    exact repayBorrowForHook_emits repaying

/-- Without a supply nothing is written; with one, the collateral assets and then the borrow
assets. -/
theorem sync_cases {world next : World} (returned : module.sync world = .ok next) :
    world.setToken.totalSupply = 0 ∧ next = world ∨
      0 < world.setToken.totalSupply ∧ ∃ middle,
        module.collateralAssets.foldlM (module.syncCollateral world.setToken.totalSupply) world =
          .ok middle ∧
        module.borrowAssets.foldlM (module.syncBorrow world.setToken.totalSupply) middle =
          .ok next := by
  simp only [sync, bind_eq_ok] at returned
  obtain ⟨_, _, synced⟩ := returned
  split at synced
  · rename_i supplied
    exact Or.inr ⟨supplied, (bind_eq_ok _ _ _).mp synced⟩
  · rename_i none
    exact Or.inl ⟨Nat.eq_zero_of_not_pos none, ((pure_eq_ok _ _).mp synced).symm⟩

theorem sync_bookkeeping {world next : World} (kept : PositionBookkeeping world.setToken)
    (returned : module.sync world = .ok next) : PositionBookkeeping next.setToken := by
  rcases sync_cases returned with ⟨_, rfl⟩ | ⟨_, middle, collateral, borrows⟩
  · exact kept
  · have first : PositionBookkeeping middle.setToken :=
      foldlM_invariant _ (fun world => PositionBookkeeping world.setToken) _
        (fun _ _ _ _ => LeverageHooks.syncCollateral_bookkeeping) _ _ kept collateral
    exact foldlM_invariant _ (fun world => PositionBookkeeping world.setToken) _
      (fun _ _ _ _ => LeverageHooks.syncBorrow_bookkeeping) _ _ first borrows

theorem moduleHook_prepares (returned : module.moduleHook msgSender before = .ok after) :
    Execution.Prepares before after := by
  simp only [moduleHook, bind_eq_ok] at returned
  obtain ⟨_, _, synced⟩ := returned
  exact Execution.onWorld_prepares (fun _ called kept => sync_bookkeeping kept called) synced

end Effects

end AaveLeverageModule

end IndexProtocol

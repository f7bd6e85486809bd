/-
This file models what the Compound and Aave leverage modules share: the debt of
a component that a hook borrows or repays a share of, and the sync of the
recorded positions with the balances at the lending protocol. A debt is taken
on rounded down and paid back rounded up.
-/

import IndexProtocol.Protocol.Execution
import IndexProtocol.Protocol.PositionBookkeeping

namespace IndexProtocol

open Revert PreciseUnitMath

namespace LeverageHooks

/-! ### The debt of a component -/

/-- The unit of a module's debt position, which must be negative, as a positive unit. -/
def componentDebt (module component : Address) (setToken : SetToken) : Outcome Nat := do
  let componentDebt ← setToken.getExternalPositionRealUnit component module
  require (componentDebt < 0) "Component must be negative"
  let debt ← SignedSafeMath.mul componentDebt (-1)
  SafeCast.toUint256 debt

/-- The unit of debt a module has in a component: none if the position is not negative. -/
def debtUnit (module component : Address) (setToken : SetToken) : Nat :=
  (-setToken.externalRealUnit component module).toNat

theorem componentDebt_eq_ok {module component : Address} {setToken : SetToken} {debt : Nat}
    (returned : componentDebt module component setToken = .ok debt) :
    debt = debtUnit module component setToken := by
  simp only [componentDebt, bind_eq_ok, SetToken.getExternalPositionRealUnit_eq_ok,
    SignedSafeMath.mul_eq_ok, SafeCast.toUint256_eq_ok] at returned
  obtain ⟨_, ⟨_, rfl⟩, _, _, _, ⟨_, rfl⟩, cast⟩ := returned
  unfold debtUnit
  omega

/-- The share of a debt unit that an issuance borrows or a redemption repays. -/
def notionalDebt (isIssue : Bool) (unit quantity : Nat) : Nat :=
  if isIssue then Rounding.mulFloor preciseUnit unit quantity
  else Rounding.mulCeil preciseUnit unit quantity

@[simp] theorem notionalDebt_zero (isIssue : Bool) (quantity : Nat) :
    notionalDebt isIssue 0 quantity = 0 := by
  unfold notionalDebt Rounding.mulFloor Rounding.mulCeil
  simp

/-! ### Syncing a position -/

/-- The default position of a collateral token becomes its balance spread over the supply. -/
def syncCollateral (module : Address) (setTotalSupply : Nat) (world : World) (token : Address) :
    Outcome World := do
  let realUnit ← world.setToken.getDefaultPositionRealUnit token
  let previousPositionUnit ← SafeCast.toUint256 realUnit
  let newPositionUnit ← preciseDiv (world.held token) setTotalSupply
  if previousPositionUnit ≠ newPositionUnit then
    world.callSetToken
      (Position.editDefaultPosition ⟨world.controller, module⟩ token newPositionUnit)
  else pure world

/-- The negative unit of a borrow balance, rounded away from zero. -/
def borrowPosition (borrowNotionalBalance setTotalSupply : Nat) : Outcome Int := do
  let unit ← preciseDivCeil borrowNotionalBalance setTotalSupply
  let positionUnit ← SafeCast.toInt256 unit
  SignedSafeMath.mul positionUnit (-1)

/-- The external position of the module becomes its borrow balance spread over the supply. -/
def syncBorrow (module borrowAsset : Address) (borrowNotionalBalance setTotalSupply : Nat)
    (world : World) : Outcome World := do
  let previousPositionUnit ← world.setToken.getExternalPositionRealUnit borrowAsset module
  let newPositionUnit ← borrowPosition borrowNotionalBalance setTotalSupply
  if newPositionUnit ≠ previousPositionUnit then
    world.callSetToken
      (Position.editExternalPosition ⟨world.controller, module⟩ borrowAsset module
        newPositionUnit [])
  else pure world

/-! ### What a sync keeps -/

section Kept

variable {module token : Address} {supply balance : Nat} {world next : World}

theorem syncCollateral_bookkeeping (kept : PositionBookkeeping world.setToken)
    (returned : syncCollateral module supply world token = .ok next) :
    PositionBookkeeping next.setToken := by
  simp only [syncCollateral, bind_eq_ok] at returned
  obtain ⟨_, _, _, _, _, _, synced⟩ := returned
  split at synced
  · exact kept.editDefaultPosition (World.callSetToken_eq_ok synced).1
  · obtain rfl := (pure_eq_ok _ _).mp synced
    exact kept

theorem syncBorrow_bookkeeping (kept : PositionBookkeeping world.setToken)
    (returned : syncBorrow module token balance supply world = .ok next) :
    PositionBookkeeping next.setToken := by
  simp only [syncBorrow, bind_eq_ok] at returned
  obtain ⟨_, _, _, _, synced⟩ := returned
  split at synced
  · exact kept.editExternalPosition (World.callSetToken_eq_ok synced).1
  · obtain rfl := (pure_eq_ok _ _).mp synced
    exact kept

end Kept

end LeverageHooks

/-! ### Calls before an order -/

namespace Execution

variable {Ledger : Type} {before middle after : Execution Ledger}

/-- The positions may have been edited, their bookkeeping is kept, and nothing is emitted. -/
structure Prepares (before after : Execution Ledger) : Prop where
  trace : after.events = before.events
  bookkeeping : PositionBookkeeping before.world.setToken →
    PositionBookkeeping after.world.setToken

theorem Prepares.refl (execution : Execution Ledger) : Prepares execution execution :=
  ⟨rfl, id⟩

theorem Prepares.trans (first : Prepares before middle) (second : Prepares middle after) :
    Prepares before after :=
  ⟨second.trace.trans first.trace, fun kept => second.bookkeeping (first.bookkeeping kept)⟩

theorem onWorld_prepares {call : World → Outcome World}
    (keeps : ∀ next, call before.world = .ok next →
      PositionBookkeeping before.world.setToken → PositionBookkeeping next.setToken)
    (returned : before.onWorld call = .ok after) : Prepares before after := by
  obtain ⟨called, stored⟩ := onWorld_eq_ok returned
  refine ⟨?_, keeps _ called⟩
  rw [stored]

/-- A loop of calls that each prepare prepares. -/
theorem foldlM_prepares {Item : Type}
    {body : Execution Ledger → Item → Outcome (Execution Ledger)} {items : List Item}
    (each : ∀ state item next, body state item = .ok next → Prepares state next)
    (returned : items.foldlM body before = .ok after) : Prepares before after :=
  foldlM_invariant body (Prepares before) items
    (fun state item next _ prepared called => prepared.trans (each state item next called))
    before after (Prepares.refl before) returned

end Execution

end IndexProtocol

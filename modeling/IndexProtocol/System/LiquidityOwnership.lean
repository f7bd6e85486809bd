/-
This file proves when the ownership check of a removal of liquidity does what it
is for. The requested units are multiplied by the supply of the Set before they
are compared with the unit of the Set, so every request has a supply from which
on it is refused. The check is right for units that are owned below that supply,
and for units that are not owned from it on.
-/

import Mathlib.Algebra.Order.Floor.Div
import IndexProtocol.Modules.AmmModule
import IndexProtocol.Protocol.ModuleMoves
import IndexProtocol.Protocol.PositionBookkeeping

namespace IndexProtocol

open Revert PreciseUnitMath AmmModule

/-! ### The check -/

/-- What the two functions that remove liquidity compute of the requested units, in
`_getActionInfo` and in `_validateRemoveLiquidity`. -/
def ownershipCheck (setToken : SetToken) (liquidityToken : Address)
    (poolTokenPositionUnits : Nat) : Outcome Unit := do
  let liquidityQuantity ←
    Position.getDefaultTotalNotional setToken.totalSupply poolTokenPositionUnits
  requireLiquidityToken setToken liquidityToken liquidityQuantity

section Check

variable {setToken : SetToken} {liquidityToken : Address} {poolTokenPositionUnits : Nat}
variable {unit : Int} (done : Unit)

theorem requireLiquidityToken_eq_ok {liquidityQuantity : Nat}
    (read : setToken.getDefaultPositionRealUnit liquidityToken = .ok unit) :
    requireLiquidityToken setToken liquidityToken liquidityQuantity = .ok done ↔
      liquidityQuantity < 2 ^ 255 ∧ (liquidityQuantity : Int) ≤ unit := by
  simp only [requireLiquidityToken, Position.hasSufficientDefaultUnits, read, ok_bind,
    bind_eq_ok, SafeCast.toInt256_eq_ok, pure_eq_ok, require_eq_ok]
  constructor
  · rintro ⟨_, ⟨_, ⟨fits, rfl⟩, rfl⟩, enough⟩
    exact ⟨fits, of_decide_eq_true enough⟩
  · rintro ⟨fits, enough⟩
    exact ⟨_, ⟨_, ⟨fits, rfl⟩, rfl⟩, decide_eq_true enough⟩

/-- The check compares the product of supply and requested units with the unit. -/
theorem ownershipCheck_eq_ok
    (read : setToken.getDefaultPositionRealUnit liquidityToken = .ok unit) :
    ownershipCheck setToken liquidityToken poolTokenPositionUnits = .ok done ↔
      setToken.totalSupply * poolTokenPositionUnits < 2 ^ 256 ∧
        ((setToken.totalSupply * poolTokenPositionUnits : Nat) : Int) <
          (unit + 1) * 10 ^ 18 := by
  simp only [ownershipCheck, Position.getDefaultTotalNotional, bind_eq_ok, preciseMul_eq_ok,
    requireLiquidityToken_eq_ok done read, Rounding.mulFloor, preciseUnit]
  constructor
  · rintro ⟨_, ⟨bound, rfl⟩, _, enough⟩
    exact ⟨bound, by omega⟩
  · rintro ⟨bound, below⟩
    exact ⟨_, ⟨bound, rfl⟩, by omega, by omega⟩

end Check

/-! ### The functions that make it -/

section Functions

variable {Ledger : Type} {module : AmmModule} {protocols : Protocols Ledger}
variable {adapters : AmmAdapters Ledger} {msgSender ammPool : Address} {ammName : String}
variable {poolTokenPositionUnits : Nat} {execution : Execution Ledger}
variable {result : Execution Ledger × LiquidityChange}

theorem getActionInfo_eq_ok {components : List Address} {componentUnits : List Nat}
    {world : World} {actionInfo : LiquidityActionInfo Ledger}
    (returned : module.getActionInfo adapters ammName ammPool components componentUnits
      poolTokenPositionUnits world = .ok actionInfo) :
    Position.getDefaultTotalNotional world.setToken.totalSupply poolTokenPositionUnits =
        .ok actionInfo.liquidityQuantity ∧ actionInfo.liquidityToken = ammPool := by
  simp only [getActionInfo, bind_eq_ok, pure_eq_ok] at returned
  obtain ⟨_, _, _, quantity, _, _, rfl⟩ := returned
  exact ⟨quantity, rfl⟩

theorem performRemove_eq_ok
    {execute : LiquidityActionInfo Ledger → Execution Ledger → Outcome (Execution Ledger)}
    {actionInfo : LiquidityActionInfo Ledger}
    (returned : module.performRemove execute actionInfo execution = .ok result) :
    requireLiquidityToken execution.world.setToken actionInfo.liquidityToken
      actionInfo.liquidityQuantity = .ok () := by
  simp only [performRemove, validateRemoveLiquidity, bind_eq_ok] at returned
  obtain ⟨_, ⟨_, _, _, _, owned⟩, _⟩ := returned
  exact owned

/-- The check is passed by every removal that returns. -/
theorem ownershipCheck_of_action
    {execute : LiquidityActionInfo Ledger → Execution Ledger → Outcome (Execution Ledger)}
    {components : List Address} {componentUnits : List Nat}
    {actionInfo : LiquidityActionInfo Ledger}
    (informed : module.getActionInfo adapters ammName ammPool components componentUnits
      poolTokenPositionUnits execution.world = .ok actionInfo)
    (returned : module.performRemove execute actionInfo execution = .ok result) :
    ownershipCheck execution.world.setToken ammPool poolTokenPositionUnits = .ok () := by
  obtain ⟨quantity, rfl⟩ := getActionInfo_eq_ok informed
  unfold ownershipCheck
  rw [quantity, ok_bind]
  exact performRemove_eq_ok returned

theorem removeLiquidity_checks {components : List Address}
    {minComponentUnitsReceived : List Nat}
    (returned : module.removeLiquidity protocols adapters msgSender ammName ammPool
      poolTokenPositionUnits components minComponentUnitsReceived execution = .ok result) :
    ownershipCheck execution.world.setToken ammPool poolTokenPositionUnits = .ok () := by
  simp only [removeLiquidity, bind_eq_ok] at returned
  obtain ⟨_, _, _, informed, performed⟩ := returned
  exact ownershipCheck_of_action informed performed

theorem removeLiquiditySingleAsset_checks {component : Address}
    {minComponentUnitsReceived : Nat}
    (returned : module.removeLiquiditySingleAsset protocols adapters msgSender ammName ammPool
      poolTokenPositionUnits component minComponentUnitsReceived execution = .ok result) :
    ownershipCheck execution.world.setToken ammPool poolTokenPositionUnits = .ok () := by
  simp only [removeLiquiditySingleAsset, bind_eq_ok] at returned
  obtain ⟨_, _, _, informed, performed⟩ := returned
  exact ownershipCheck_of_action informed performed

end Functions

/-! ### Units and quantities -/

/-- The first supply at which the quantity of the requested units overflows or exceeds the
unit. -/
def refusingSupply (poolTokenPositionUnits unit : Nat) : Nat :=
  min (2 ^ 256) ((unit + 1) * 10 ^ 18) ⌈/⌉ poolTokenPositionUnits

/-- The supply is below the first one that refuses the request if the units are owned, and not
below it if they are not. -/
def SameSide (supply poolTokenPositionUnits : Nat) (unit : Int) : Prop :=
  unit < 0 ∨ poolTokenPositionUnits = 0 ∨
    if (poolTokenPositionUnits : Int) ≤ unit then
      supply < refusingSupply poolTokenPositionUnits unit.toNat
    else refusingSupply poolTokenPositionUnits unit.toNat ≤ supply

theorem lt_refusingSupply_iff {poolTokenPositionUnits : Nat} (supply unit : Nat)
    (positive : 0 < poolTokenPositionUnits) :
    supply < refusingSupply poolTokenPositionUnits unit ↔
      supply * poolTokenPositionUnits < 2 ^ 256 ∧
        supply * poolTokenPositionUnits < (unit + 1) * 10 ^ 18 := by
  unfold refusingSupply
  rw [← lt_min_iff, ← not_le, ← not_le, not_iff_not, ceilDiv_le_iff_le_mul positive, Nat.mul_comm supply]

/-- The check of both functions passes exactly for the owned units, if and only if the supply
is on their side of the first one that refuses them. -/
theorem ownership_check_iff {Ledger : Type} (module : AmmModule) (protocols : Protocols Ledger)
    (adapters : AmmAdapters Ledger) (msgSender : Address) (ammName : String)
    (ammPool : Address) (poolTokenPositionUnits : Nat) (execution : Execution Ledger)
    (unit : Int)
    (read : execution.world.setToken.getDefaultPositionRealUnit ammPool = .ok unit) :
    ((ownershipCheck execution.world.setToken ammPool poolTokenPositionUnits = .ok () ↔
        (poolTokenPositionUnits : Int) ≤ unit) ↔
      SameSide execution.world.setToken.totalSupply poolTokenPositionUnits unit) ∧
    (∀ components minComponentUnitsReceived result,
      module.removeLiquidity protocols adapters msgSender ammName ammPool
        poolTokenPositionUnits components minComponentUnitsReceived execution = .ok result →
      ownershipCheck execution.world.setToken ammPool poolTokenPositionUnits = .ok ()) ∧
    ∀ component minComponentUnitsReceived result,
      module.removeLiquiditySingleAsset protocols adapters msgSender ammName ammPool
        poolTokenPositionUnits component minComponentUnitsReceived execution = .ok result →
      ownershipCheck execution.world.setToken ammPool poolTokenPositionUnits = .ok () := by
  refine ⟨?_, fun _ _ _ returned => removeLiquidity_checks returned,
    fun _ _ _ returned => removeLiquiditySingleAsset_checks returned⟩
  rw [ownershipCheck_eq_ok () read]
  generalize execution.world.setToken.totalSupply = supply
  unfold SameSide
  rcases lt_or_ge unit 0 with negative | nonneg
  · exact iff_of_true (by omega) (Or.inl negative)
  · rcases Nat.eq_zero_or_pos poolTokenPositionUnits with rfl | positive
    · exact iff_of_true (by rw [Nat.mul_zero]; omega) (Or.inr (Or.inl rfl))
    · obtain ⟨unit, rfl⟩ := Int.eq_ofNat_of_zero_le nonneg
      have refused := lt_refusingSupply_iff supply unit positive
      rw [or_iff_right (not_lt.mpr nonneg), or_iff_right positive.ne', Int.toNat_natCast]
      have casted : ((supply * poolTokenPositionUnits : Nat) : Int) < (unit + 1) * 10 ^ 18 ↔
          supply * poolTokenPositionUnits < (unit + 1) * 10 ^ 18 := by
        norm_cast
      rw [casted, ← refused]
      split_ifs with owned
      · simp only [owned, iff_true]
      · simp only [owned, iff_false, not_lt]

/-! ### A sample pool -/

/-- A pool at address seven that takes pool tokens from the Set and pays it two of token nine. -/
def samplePool (taken : Nat) : Protocols Unit where
  execute := fun _ world ledger => do
    let sent ← world.callToken 8 fun token => token.move world.setToken.address 7 taken
    let received ← sent.callToken 9 fun token => token.move 7 sent.setToken.address 2
    pure (0, received, ledger)
  onlyBalances := by
    intro invocation world ledger word next nextLedger returned
    simp only [bind_eq_ok, pure_eq_ok, Prod.mk.injEq] at returned
    obtain ⟨sent, sending, received, receiving, _, rfl, _⟩ := returned
    exact (World.callToken_move_onlyBalances sending).trans
      (World.callToken_move_onlyBalances receiving)
  borrowBalanceStored := fun _ _ _ => 0
  borrowBalanceCurrent := fun _ _ ledger => pure (0, ledger)

def sampleAmmAdapters : AmmAdapters Unit where
  getIntegrationAdapter := fun _ _ => 6
  ammAdapter := fun _ =>
    { getProvideLiquidityCalldata := fun _ _ _ _ _ _ _ => pure (7, 0, [])
      getProvideLiquiditySingleAssetCalldata := fun _ _ _ _ _ _ _ => pure (7, 0, [])
      getRemoveLiquidityCalldata := fun _ _ _ _ _ _ _ => pure (7, 0, [])
      getRemoveLiquiditySingleAssetCalldata := fun _ _ _ _ _ _ _ => pure (7, 0, [])
      getSpenderAddress := fun _ => 7
      isValidPool := fun _ _ _ _ => pure true }

/-- A Set with five units of the pool token at address eight, which holds ten. -/
def sampleLiquidity (supply : Nat) : Execution Unit where
  world := {
    timestamp := 0
    controller := { sampleController with isSet := fun account => account = 2 }
    setToken := { SetToken.construct 2 [8] [5] [4] 5 with
      totalSupply := supply
      moduleStates := fun _ => .initialized }
    tokens := fun _ =>
      { totalSupply := 20
        balanceOf := fun account => if account = 2 ∨ account = 7 then 10 else 0
        allowance := fun _ _ => 0 } }
  ledger := ()
  events := []

/-- The manager removes units from a pool that takes the quantity, for token nine. -/
def sampleRemoval (supply poolTokenPositionUnits taken : Nat) :
    Outcome (Execution Unit × LiquidityChange) :=
  removeLiquidity ⟨4⟩ (samplePool taken) sampleAmmAdapters 5 "exchange" 8
    poolTokenPositionUnits [9] [1] (sampleLiquidity supply)

/-- At a supply of two the removal of two of the five units takes four and passes the check. -/
theorem ownership_check_two :
    ∃ result, sampleRemoval (2 * 10 ^ 18) 2 4 = .ok result ∧ result.1.world.held 8 = 6 ∧
      ownershipCheck (sampleLiquidity (2 * 10 ^ 18)).world.setToken 8 2 = .ok () := by
  have succeeds : returns (sampleRemoval (2 * 10 ^ 18) 2 4)
      (fun result => decide (result.1.world.held 8 = 6)) = true := by
    decide +kernel
  obtain ⟨result, returned, left⟩ := exists_of_returns succeeds
  have checks := ownership_check_iff ⟨4⟩ (samplePool 4) sampleAmmAdapters 5 "exchange" 8 2
    (sampleLiquidity (2 * 10 ^ 18)) 5 (by decide)
  have passes := checks.1.mpr (by unfold SameSide refusingSupply; decide)
  exact ⟨result, returned, of_decide_eq_true left, passes.mpr (by decide)⟩

/-- At a supply of two the five units that the Set owns are refused; at a supply of one half six
units that it does not own pass the check, and the removal reverts only as it edits the unit. -/
theorem ownership_check_wrong_unit :
    (sampleLiquidity (2 * 10 ^ 18)).world.setToken.getDefaultPositionRealUnit 8 = .ok 5 ∧
      ¬(ownershipCheck (sampleLiquidity (2 * 10 ^ 18)).world.setToken 8 5 = .ok () ↔
        (5 : Int) ≤ 5) ∧
      sampleRemoval (2 * 10 ^ 18) 5 10 = .error "SetToken must own enough liquidity token" ∧
      (sampleLiquidity (5 * 10 ^ 17)).world.setToken.getDefaultPositionRealUnit 8 = .ok 5 ∧
      ¬(ownershipCheck (sampleLiquidity (5 * 10 ^ 17)).world.setToken 8 6 = .ok () ↔
        (6 : Int) ≤ 5) ∧
      sampleRemoval (5 * 10 ^ 17) 6 3 = .error "SafeMath: subtraction overflow" :=
  ⟨by decide, by decide, rfl, by decide, by decide, rfl⟩

end IndexProtocol

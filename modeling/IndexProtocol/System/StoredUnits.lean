/-
This file follows a real unit through storage. A unit that is written is divided
by the position multiplier and multiplied by it again when it is read, both
rounded towards negative infinity, so what is read is never above what was
written and keeps its sign. On top of that it follows the unit that an action
leaves behind: the surplus a Set held before the action stays out of the
position, and what the position tracks stays in it, up to the roundings.
-/

import IndexProtocol.Protocol.PositionBookkeeping
import IndexProtocol.Protocol.World

namespace IndexProtocol

open Revert PreciseUnitMath

/-! ### Writing a unit and reading it back -/

/-- What is read of a real unit that was written under a position multiplier. -/
structure ReadsBack (multiplier unit read : Int) : Prop where
  atLeast : unit - (multiplier + preciseUnit - 1) / preciseUnit ≤ read
  atMost : read ≤ unit
  atMostOne : multiplier ≤ preciseUnit → read = unit ∨ read = unit - 1
  positive : 0 < unit → 0 < read
  negative : unit < 0 → read < 0
  zero : read = 0 → unit = 0

/-- A real unit that cannot be written: the precise product leaves `int256`, or the virtual
unit or the unit read back is zero. -/
def Unwritable (setToken : SetToken) (unit : Int) : Prop :=
  ¬FitsInt256 (unit * preciseUnit) ∨ unit * preciseUnit / setToken.positionMultiplier = 0 ∨
    setToken.realUnit (unit * preciseUnit / setToken.positionMultiplier) = 0

namespace SetToken

variable {setToken next : SetToken} {call : Call} {component module : Address}
  {unit virtualUnit : Int}

theorem readsBack_of_converted (positive : 0 < setToken.positionMultiplier)
    (converted : setToken.convertRealToVirtualUnit unit = .ok virtualUnit) :
    ReadsBack setToken.positionMultiplier unit (setToken.realUnit virtualUnit) := by
  obtain ⟨_, rfl, restored⟩ := convertRealToVirtualUnit_eq_ok positive converted
  have atMost : setToken.realUnit (unit * preciseUnit / setToken.positionMultiplier) ≤ unit :=
    Rounding.ediv_mul_ediv_le preciseUnit_int_pos positive unit
  have atLeast : unit - (setToken.positionMultiplier + preciseUnit - 1) / preciseUnit ≤
      setToken.realUnit (unit * preciseUnit / setToken.positionMultiplier) :=
    Rounding.le_ediv_mul_ediv_add preciseUnit_int_pos positive unit
  have negative : unit < 0 →
      setToken.realUnit (unit * preciseUnit / setToken.positionMultiplier) < 0 :=
    fun below => Rounding.ediv_mul_ediv_neg preciseUnit_int_pos positive below
  refine ⟨atLeast, atMost, fun bounded => ?_, restored, negative, fun zero => ?_⟩
  · have one : (setToken.positionMultiplier + preciseUnit - 1) / preciseUnit < 2 :=
      Int.ediv_lt_of_lt_mul preciseUnit_int_pos (by linarith)
    omega
  · rcases lt_trichotomy unit 0 with below | same | above
    · exact absurd zero (negative below).ne
    · exact same
    · exact absurd zero (restored above).ne'

/-- A positive unit is written unless its products leave `int256` or its virtual unit or the
unit read back is zero. -/
theorem convertRealToVirtualUnit_of_writable (positive : 0 < setToken.positionMultiplier)
    (some : 0 < unit) (writable : ¬Unwritable setToken unit) :
    setToken.convertRealToVirtualUnit unit =
      .ok (unit * preciseUnit / setToken.positionMultiplier) := by
  unfold Unwritable at writable
  rw [not_or, not_or, not_not] at writable
  obtain ⟨fits, virtual, restored⟩ := writable
  have product := fits_of_converted positive some.le fits
  simp only [convertRealToVirtualUnit, bind_eq_ok, require_eq_ok, exists_const]
  refine ⟨_, (conservativePreciseDiv_eq_ok _ _ _ positive).mpr ⟨fits, rfl⟩,
    fun refused => virtual refused.2, ?_⟩
  rw [if_pos some]
  simp only [bind_eq_ok, require_eq_ok, exists_const, pure_eq_ok]
  exact ⟨_, (convertVirtualToRealUnit_eq_ok _ _).mpr ⟨product, rfl⟩, restored, trivial⟩

/-- A write that stores the virtual unit reverts for a privileged caller only where the
conversion does. -/
theorem unwritable_of_reverted {written : Int → SetToken} {reason : String}
    (positive : 0 < setToken.positionMultiplier) (some : 0 < unit)
    (privileged : setToken.Privileged call)
    (reverted : (do
      setToken.validatePrivileged call
      let virtualUnit ← setToken.convertRealToVirtualUnit unit
      pure (written virtualUnit)) = Except.error reason) : Unwritable setToken unit := by
  by_contra writable
  have returned : (do
      setToken.validatePrivileged call
      let virtualUnit ← setToken.convertRealToVirtualUnit unit
      pure (written virtualUnit)) =
        Except.ok (written (unit * preciseUnit / setToken.positionMultiplier)) := by
    rw [bind_eq_ok]
    refine ⟨(), (validatePrivileged_eq_ok _ _ _).mpr privileged, ?_⟩
    rw [bind_eq_ok]
    exact ⟨_, convertRealToVirtualUnit_of_writable positive some writable, rfl⟩
  rw [reverted] at returned
  cases returned

theorem defaultRealUnit_of_edit
    (returned : setToken.editDefaultPositionUnit call component unit = .ok next) :
    next.positionMultiplier = setToken.positionMultiplier ∧
      setToken.convertRealToVirtualUnit unit = .ok (next.defaultPositionVirtualUnit component) := by
  obtain ⟨_, virtualUnit, converted, rfl⟩ := editDefaultPositionUnit_eq_ok returned
  refine ⟨rfl, ?_⟩
  rw [converted, defaultPositionVirtualUnit, editComponent_self]

theorem externalRealUnit_of_edit
    (returned : setToken.editExternalPositionUnit call component module unit = .ok next) :
    next.positionMultiplier = setToken.positionMultiplier ∧
      setToken.convertRealToVirtualUnit unit =
        .ok (next.externalPositionVirtualUnit component module) := by
  obtain ⟨_, virtualUnit, converted, rfl⟩ := editExternalPositionUnit_eq_ok returned
  refine ⟨rfl, ?_⟩
  rw [converted, externalPositionVirtualUnit, editComponent_self]
  simp only [Function.update_self]

/-- What the getter reads of a virtual unit that was written. -/
theorem readsBack_of_read {read : Int} (positive : 0 < setToken.positionMultiplier)
    (multiplier : next.positionMultiplier = setToken.positionMultiplier)
    (converted : setToken.convertRealToVirtualUnit unit = .ok virtualUnit)
    (returned : next.convertVirtualToRealUnit virtualUnit = .ok read) :
    ReadsBack setToken.positionMultiplier unit read := by
  obtain ⟨_, rfl⟩ := (convertVirtualToRealUnit_eq_ok _ _).mp returned
  have same : next.realUnit virtualUnit = setToken.realUnit virtualUnit := by
    unfold SetToken.realUnit
    rw [multiplier]
  exact same ▸ readsBack_of_converted positive converted

/-- A unit that is not negative can be read once it is written. -/
theorem read_of_converted (positive : 0 < setToken.positionMultiplier)
    (multiplier : next.positionMultiplier = setToken.positionMultiplier) (nonneg : 0 ≤ unit)
    (converted : setToken.convertRealToVirtualUnit unit = .ok virtualUnit) :
    ∃ read, next.convertVirtualToRealUnit virtualUnit = .ok read := by
  obtain ⟨fits, rfl, _⟩ := convertRealToVirtualUnit_eq_ok positive converted
  refine ⟨_, (convertVirtualToRealUnit_eq_ok _ _).mpr ⟨?_, rfl⟩⟩
  rw [multiplier]
  exact fits_of_converted positive nonneg fits

/-- Whichever position is written, the unit read back is at most the unit written and short of
it by at most the multiplier in precise units rounded up, it keeps the sign, and a privileged
caller's write of a positive unit reverts only if a product leaves `int256` or nothing would be
read back. -/
theorem editPositionUnit_readsBack (module : Address) (positive : 0 < setToken.positionMultiplier) :
    (∀ next, setToken.editDefaultPositionUnit call component unit = .ok next →
      (0 ≤ unit → ∃ read, next.getDefaultPositionRealUnit component = .ok read) ∧
      ∀ read, next.getDefaultPositionRealUnit component = .ok read →
        ReadsBack setToken.positionMultiplier unit read) ∧
    (∀ next, setToken.editExternalPositionUnit call component module unit = .ok next →
      (0 ≤ unit → ∃ read, next.getExternalPositionRealUnit component module = .ok read) ∧
      ∀ read, next.getExternalPositionRealUnit component module = .ok read →
        ReadsBack setToken.positionMultiplier unit read) ∧
    (0 < unit → setToken.Privileged call → ∀ reason,
      (setToken.editDefaultPositionUnit call component unit = .error reason →
        Unwritable setToken unit) ∧
      (setToken.editExternalPositionUnit call component module unit = .error reason →
        Unwritable setToken unit)) := by
  refine ⟨fun next returned => ?_, fun next returned => ?_, fun some privileged reason => ?_⟩
  · obtain ⟨multiplier, converted⟩ := defaultRealUnit_of_edit returned
    exact ⟨fun nonneg => read_of_converted positive multiplier nonneg converted,
      fun read => readsBack_of_read positive multiplier converted⟩
  · obtain ⟨multiplier, converted⟩ := externalRealUnit_of_edit returned
    exact ⟨fun nonneg => read_of_converted positive multiplier nonneg converted,
      fun read => readsBack_of_read positive multiplier converted⟩
  · exact ⟨unwritable_of_reverted positive some privileged,
      unwritable_of_reverted positive some privileged⟩

/-- A Set with one component whose position multiplier is seven tenths. -/
def sampleScaled : SetToken :=
  { SetToken.construct 2 [3] [10] [4] 5 with
    totalSupply := 3 * 10 ^ 18
    moduleStates := fun _ => .initialized
    positionMultiplier := 7 * 10 ^ 17 }

/-- A unit of ten is stored as fourteen and read back as nine. -/
theorem editPositionUnit_readsBack_sample :
    ∃ next, sampleScaled.editDefaultPositionUnit ⟨sampleController, 4⟩ 3 10 = .ok next ∧
      ReadsBack (7 * 10 ^ 17) 10 9 := by
  have succeeds : returns (sampleScaled.editDefaultPositionUnit ⟨sampleController, 4⟩ 3 10)
      (fun next => decide (next.getDefaultPositionRealUnit 3 = .ok 9)) = true := by
    decide
  obtain ⟨next, returned, read⟩ := exists_of_returns succeeds
  have positive : 0 < sampleScaled.positionMultiplier := by decide
  obtain ⟨readsBack, _⟩ := editPositionUnit_readsBack 4 positive
  exact ⟨next, returned, (readsBack next returned).2 9 (of_decide_eq_true read)⟩

end SetToken

/-! ### Surplus tokens and the position -/

namespace World

variable {world next : World} {module component : Address} {supply before unit newUnit : Nat}
  {balance : Nat}

/-- The unit computed from a balance is at most the share of the balance without the surplus,
and exceeds it by less than one when it is raised by one. -/
theorem newUnit_bounds
    (computed : Position.calculateDefaultEditPositionUnit supply before balance unit =
      .ok newUnit) :
    let surplus : Int := before - Rounding.mulFloor preciseUnit unit supply
    (newUnit : Int) * supply ≤ (balance - surplus) * preciseUnit ∧
      (balance - surplus) * preciseUnit < (newUnit + 1) * supply := by
  intro surplus
  obtain ⟨tracked, enough, supplied, rfl⟩ :=
    Position.calculateDefaultEditPositionUnit_eq_ok computed
  have remaining : (balance : Int) - surplus =
      (balance - (before - Rounding.mulFloor preciseUnit unit supply) : Nat) := by
    omega
  rw [remaining]
  generalize balance - (before - Rounding.mulFloor preciseUnit unit supply) = rest
  have most := Nat.div_mul_le_self (rest * preciseUnit) supply
  have least := Nat.lt_mul_div_succ (rest * preciseUnit) supplied
  rw [mul_comm supply] at least
  exact ⟨by exact_mod_cast most, by exact_mod_cast least⟩

/-- An edit from a balance leaves the surplus of before out of the stored position, and leaves
untracked at most that surplus, one, and two units for each Set. -/
theorem calculateAndEditDefaultPosition_surplus
    (positive : 0 < world.setToken.positionMultiplier)
    (bounded : world.setToken.positionMultiplier ≤ preciseUnit)
    (some : 0 < world.held component)
    (returned : world.calculateAndEditDefaultPosition module component supply before =
      .ok (next, balance, unit, newUnit)) :
    let surplus : Int := before - Rounding.mulFloor preciseUnit unit supply
    ∃ stored : Nat, next.setToken.getDefaultPositionRealUnit component = .ok (stored : Int) ∧
      (stored : Int) * supply ≤ (world.held component - surplus) * preciseUnit ∧
      (world.held component - Rounding.mulFloor preciseUnit stored supply - surplus - 1) *
        preciseUnit ≤ 2 * (supply : Int) := by
  intro surplus
  obtain ⟨_, edited, _, _, computed, _⟩ := calculateAndEditDefaultPosition_eq_ok returned
  obtain ⟨_, nonneg, atMost, _⟩ := Position.editDefaultPosition_unit positive edited
  obtain ⟨atLeast, _, fits⟩ := Position.editDefaultPosition_unit_lower positive bounded edited
  obtain ⟨stored, read⟩ := Int.eq_ofNat_of_zero_le nonneg
  obtain ⟨most, least⟩ := newUnit_bounds (computed some)
  rw [read] at atMost atLeast
  refine ⟨stored, (SetToken.getDefaultPositionRealUnit_eq_ok _ _).mpr ⟨fits, read⟩, ?_, ?_⟩
  · exact (Int.mul_le_mul_of_nonneg_right atMost (Int.natCast_nonneg _)).trans most
  · have tracked : (stored : Int) * supply <
        (Rounding.mulFloor preciseUnit stored supply + 1) * preciseUnit := by
      have floor := Nat.lt_mul_div_succ (stored * supply) preciseUnit_pos
      rw [mul_comm preciseUnit] at floor
      exact_mod_cast floor
    have raised : ((newUnit : Int) + 1) * supply ≤ (stored + 2) * supply :=
      Int.mul_le_mul_of_nonneg_right (by linarith) (Int.natCast_nonneg _)
    linarith

/-- The Set of the sample with a balance of forty of its component. -/
def sampleSurplusWorld : World where
  timestamp := 0
  controller := sampleController
  setToken := SetToken.sampleScaled
  tokens := fun _ =>
    { totalSupply := 40, balanceOf := fun account => if account = 2 then 40 else 0,
      allowance := fun _ _ => 0 }

/-- Twenty-five tokens were held of which twenty-one were tracked; of forty afterwards the four
that were not stay out of the unit. -/
theorem calculateAndEditDefaultPosition_surplus_sample :
    ∃ next, sampleSurplusWorld.calculateAndEditDefaultPosition 4 3 (3 * 10 ^ 18) 25 =
        .ok (next, 40, 7, 12) ∧
      ∃ stored : Nat, next.setToken.getDefaultPositionRealUnit 3 = .ok (stored : Int) ∧
        (stored : Int) * (3 * 10 ^ 18 : Nat) ≤ 36 * preciseUnit := by
  have succeeds : returns
      (sampleSurplusWorld.calculateAndEditDefaultPosition 4 3 (3 * 10 ^ 18) 25)
      (fun result => decide (result.2 = (40, 7, 12))) = true := by
    decide
  obtain ⟨⟨next, amounts⟩, returned, same⟩ := exists_of_returns succeeds
  obtain rfl := of_decide_eq_true same
  obtain ⟨stored, read, most, _⟩ :=
    calculateAndEditDefaultPosition_surplus (by decide) (by decide) (by decide) returned
  exact ⟨next, returned, stored, read, most⟩

end World

end IndexProtocol

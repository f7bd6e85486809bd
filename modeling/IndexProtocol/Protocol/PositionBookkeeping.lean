/-
This file proves the bookkeeping invariant of a Set's positions: the component
list has exactly the components with a position, the module list of a component
exactly the modules with a nonzero external unit, and no position with a nonzero
virtual unit reads back as a zero real unit. The edits decide what to list from
real units and store virtual ones, so the last part is what makes the first two
hold: it is kept by the rounding checks of the unit conversion and by the check
on the smallest unit when the multiplier changes.
-/

import IndexProtocol.Protocol.Position
import IndexProtocol.Protocol.SetTokenCreator

namespace IndexProtocol

open Revert Registry PreciseUnitMath

/-! ### The invariant -/

/-- What holds of the stored position of one component at a position multiplier. -/
structure PositionKept (multiplier : Int) (position : ComponentPosition) : Prop where
  defaultNonneg : 0 ≤ position.virtualUnit
  defaultReal : position.virtualUnit * multiplier / preciseUnit = 0 → position.virtualUnit = 0
  modules : Lists position.externalPositionModules
    {module | (position.externalPositions module).virtualUnit ≠ 0}
  externalReal : ∀ module,
    (position.externalPositions module).virtualUnit * multiplier / preciseUnit = 0 →
      (position.externalPositions module).virtualUnit = 0

/-- A component is tracked when it has a default or an external position. -/
def Tracked (position : ComponentPosition) : Prop :=
  0 < position.virtualUnit ∨ position.externalPositionModules ≠ []

structure PositionBookkeeping (setToken : SetToken) : Prop where
  multiplierPositive : 0 < setToken.positionMultiplier
  components : Lists setToken.components
    {component | Tracked (setToken.componentPositions component)}
  positions : ∀ component,
    PositionKept setToken.positionMultiplier (setToken.componentPositions component)

namespace PositionBookkeeping

variable {setToken : SetToken}

theorem mem_components_iff (kept : PositionBookkeeping setToken) (component : Address) :
    component ∈ setToken.components ↔ Tracked (setToken.componentPositions component) :=
  kept.components.mem_iff component

theorem isComponent_eq_true (kept : PositionBookkeeping setToken) (component : Address) :
    setToken.isComponent component = true ↔ Tracked (setToken.componentPositions component) := by
  unfold SetToken.isComponent
  rw [AddressArrayUtils.contains_eq_true, kept.mem_components_iff]

/-- A default position is found from its real unit exactly when its virtual unit is
positive. -/
theorem hasDefaultPosition_eq_ok (kept : PositionBookkeeping setToken) {component : Address}
    {found : Bool} (returned : Position.hasDefaultPosition setToken component = .ok found) :
    found = true ↔ 0 < (setToken.componentPositions component).virtualUnit := by
  have position := kept.positions component
  simp only [Position.hasDefaultPosition, bind_eq_ok, pure_eq_ok] at returned
  obtain ⟨unit, read, rfl⟩ := returned
  obtain ⟨_, rfl⟩ := (SetToken.getDefaultPositionRealUnit_eq_ok _ _).mp read
  rw [decide_eq_true_iff]
  unfold SetToken.defaultRealUnit SetToken.realUnit SetToken.defaultPositionVirtualUnit
  have nonneg : 0 ≤ (setToken.componentPositions component).virtualUnit *
      setToken.positionMultiplier / preciseUnit :=
    Int.ediv_nonneg (mul_nonneg position.defaultNonneg kept.multiplierPositive.le)
      preciseUnit_int_pos.le
  constructor
  · intro real
    refine lt_of_le_of_ne position.defaultNonneg fun zero => ?_
    rw [← zero, zero_mul, Int.zero_ediv] at real
    exact lt_irrefl _ real
  · intro virtual
    exact lt_of_le_of_ne nonneg fun zero => ne_of_gt virtual (position.defaultReal zero.symm)

/-- An edit of one component keeps the bookkeeping when it keeps that component's position
and lists the component exactly if it is still tracked. -/
theorem edit (kept : PositionBookkeeping setToken) {edited : SetToken} (component : Address)
    (multiplier : edited.positionMultiplier = setToken.positionMultiplier)
    (others : ∀ other, other ≠ component →
      edited.componentPositions other = setToken.componentPositions other)
    (position : PositionKept setToken.positionMultiplier (edited.componentPositions component))
    (components : Lists edited.components {other | if other = component then
      Tracked (edited.componentPositions component)
      else Tracked (setToken.componentPositions other)}) : PositionBookkeeping edited where
  multiplierPositive := multiplier ▸ kept.multiplierPositive
  components := components.congr fun other => by
    by_cases same : other = component
    · subst same
      simp only [Set.mem_ofPred_eq, if_true]
    · simp only [Set.mem_ofPred_eq, if_neg same, others other same]
  positions := fun other => by
    rw [multiplier]
    by_cases same : other = component
    · exact same ▸ position
    · exact others other same ▸ kept.positions other

end PositionBookkeeping

/-! ### Default positions -/

section Default

variable {setToken tracked edited : SetToken} {call : Call} {component : Address}

theorem trackDefaultPosition_lists (kept : PositionBookkeeping setToken) {found : Bool}
    {newUnit : Nat}
    (sees : found = true ↔ 0 < (setToken.componentPositions component).virtualUnit)
    (returned : Position.trackDefaultPosition call component found newUnit setToken =
      .ok tracked) :
    Lists tracked.components {other | if other = component then
      0 < newUnit ∨ (setToken.componentPositions component).externalPositionModules ≠ []
      else Tracked (setToken.componentPositions other)} := by
  have member : ∀ other, other ≠ component →
      (other ∈ {other | Tracked (setToken.componentPositions other)} ↔
        other ∈ {other | if other = component then
          0 < newUnit ∨ (setToken.componentPositions component).externalPositionModules ≠ []
          else Tracked (setToken.componentPositions other)}) := by
    intro other different
    simp only [Set.mem_ofPred_eq, if_neg different]
  -- When the list is left alone, the component was and stays tracked, or neither.
  have unchanged : (Tracked (setToken.componentPositions component) ↔
        0 < newUnit ∨ (setToken.componentPositions component).externalPositionModules ≠ []) →
      pure setToken = Except.ok (ε := String) tracked →
        Lists tracked.components {other | if other = component then
          0 < newUnit ∨ (setToken.componentPositions component).externalPositionModules ≠ []
          else Tracked (setToken.componentPositions other)} := by
    intro same returned
    obtain rfl := (pure_eq_ok _ _).mp returned
    refine kept.components.congr fun other => ?_
    by_cases equal : other = component
    · subst equal
      simpa only [Set.mem_ofPred_eq, if_true] using same
    · exact member other equal
  unfold Position.trackDefaultPosition at returned
  split at returned
  · rename_i opened
    split at returned
    · obtain ⟨_, fresh, rfl⟩ := SetToken.addComponent_eq_ok returned
      refine (kept.components.push fresh).congr fun other => ?_
      by_cases equal : other = component
      · subst equal
        simp [opened.2]
      · rw [Set.mem_insert_iff, or_iff_right equal]
        exact member other equal
    · rename_i external
      rw [Bool.not_eq_false, ← Bool.not_eq_false, Position.hasExternalPosition_eq_false]
        at external
      exact unchanged ⟨fun _ => Or.inr external, fun _ => Or.inr external⟩ returned
  · rename_i notOpened
    split at returned
    · rename_i closed
      split at returned
      · rename_i noExternal
        rw [Position.hasExternalPosition_eq_false] at noExternal
        obtain ⟨_, components, erased, rfl⟩ := SetToken.removeComponent_eq_ok returned
        refine (kept.components.remove erased).congr fun other => ?_
        by_cases equal : other = component
        · subst equal
          simp [noExternal, closed.2]
        · rw [Set.mem_sdiff, Set.mem_singleton_iff, and_iff_left equal]
          exact member other equal
      · rename_i external
        rw [Bool.not_eq_false, ← Bool.not_eq_false, Position.hasExternalPosition_eq_false]
          at external
        exact unchanged ⟨fun _ => Or.inr external, fun _ => Or.inr external⟩ returned
    · rename_i notClosed
      refine unchanged ?_ returned
      unfold Tracked
      have same : 0 < (setToken.componentPositions component).virtualUnit ↔ 0 < newUnit := by
        rw [← sees]
        cases found
        · simp only [true_and, not_lt, nonpos_iff_eq_zero] at notOpened
          simp [notOpened]
        · simp only [true_and] at notClosed
          simp [Nat.pos_of_ne_zero notClosed]
      rw [same]

/-- The virtual unit of a written real unit has the sign of the real unit and reads back as
nonzero unless it is zero. -/
theorem convertRealToVirtualUnit_sign {unit virtualUnit : Int}
    (positive : 0 < setToken.positionMultiplier)
    (converted : setToken.convertRealToVirtualUnit unit = .ok virtualUnit) :
    (0 < unit → 0 < virtualUnit) ∧ (unit = 0 → virtualUnit = 0) ∧
      (unit < 0 → virtualUnit < 0) ∧
        (virtualUnit * setToken.positionMultiplier / preciseUnit = 0 → virtualUnit = 0) := by
  obtain ⟨_, stored, reads⟩ := SetToken.convertRealToVirtualUnit_eq_ok positive converted
  have product : 0 < unit → 0 < virtualUnit := by
    intro unitPositive
    by_contra notPositive
    have low : virtualUnit * setToken.positionMultiplier ≤ 0 :=
      mul_nonpos_of_nonpos_of_nonneg (not_lt.mp notPositive) positive.le
    exact absurd (reads unitPositive)
      (not_lt.mpr (Int.ediv_nonpos_of_nonpos_of_neg low preciseUnit_int_pos))
  have below : unit < 0 → virtualUnit < 0 := by
    intro negative
    rw [stored]
    exact Int.ediv_neg_of_neg_of_pos (mul_neg_of_neg_of_pos negative preciseUnit_int_pos) positive
  have atZero : unit = 0 → virtualUnit = 0 := by
    intro zero
    rw [stored, zero, zero_mul, Int.zero_ediv]
  refine ⟨product, atZero, below, fun real => ?_⟩
  rcases lt_trichotomy unit 0 with negative | zero | unitPositive
  · have strict := Int.ediv_neg_of_neg_of_pos
      (mul_neg_of_neg_of_pos (below negative) positive) preciseUnit_int_pos
    exact absurd real (ne_of_lt strict)
  · exact atZero zero
  · exact absurd real (ne_of_gt (reads unitPositive))

theorem PositionBookkeeping.editDefaultPosition (kept : PositionBookkeeping setToken)
    {newUnit : Nat}
    (returned : Position.editDefaultPosition call component newUnit setToken = .ok edited) :
    PositionBookkeeping edited := by
  obtain ⟨found, components, virtualUnit, search, listed, _, converted, rfl⟩ :=
    Position.editDefaultPosition_eq_ok returned
  obtain ⟨positive, zero, _, real⟩ :=
    convertRealToVirtualUnit_sign kept.multiplierPositive converted
  have position := kept.positions component
  have sign : 0 < virtualUnit ↔ 0 < newUnit := by
    rcases Nat.eq_zero_or_pos newUnit with none | some
    · simp [none, zero (by simp [none])]
    · simp [some, positive (by exact_mod_cast some)]
  have stored : (SetToken.editComponent { setToken with components := components } component
      fun position => { position with virtualUnit := virtualUnit }).componentPositions component =
      { setToken.componentPositions component with virtualUnit := virtualUnit } :=
    SetToken.editComponent_self _ _
  refine kept.edit component rfl
    (fun other different => SetToken.editComponent_other _ _ _ different) ?_ ?_
  · refine stored ▸ ⟨?_, real, position.modules, position.externalReal⟩
    rcases Nat.eq_zero_or_pos newUnit with none | some
    · exact (zero (by simp [none])).ge
    · exact (positive (by exact_mod_cast some)).le
  · refine (trackDefaultPosition_lists kept (kept.hasDefaultPosition_eq_ok search) listed).congr
      fun other => ?_
    simp only [stored, Tracked, sign, Set.mem_ofPred_eq]

end Default

/-! ### External positions -/

section External

variable {setToken tracked edited : SetToken} {call : Call} {component module : Address}

/-- Replace the external position modules of one component. -/
def setModules (setToken : SetToken) (component : Address) (modules : List Address) : SetToken :=
  setToken.editComponent component fun position =>
    { position with externalPositionModules := modules }

theorem setModules_self : setModules setToken component
    (setToken.componentPositions component).externalPositionModules = setToken := by
  unfold setModules SetToken.editComponent
  rw [Function.update_eq_self]

/-- Opening an external position lists its component and its module. -/
theorem trackExternalPosition_eq_ok (kept : PositionBookkeeping setToken)
    (returned : Position.trackExternalPosition call component module setToken = .ok tracked) :
    ∃ components modules,
      tracked = setModules { setToken with components := components } component modules ∧
      Lists components
        (insert component {other | Tracked (setToken.componentPositions other)}) ∧
      Lists modules (insert module {other |
        ((setToken.componentPositions component).externalPositions other).virtualUnit ≠ 0}) := by
  have position := kept.positions component
  unfold Position.trackExternalPosition at returned
  split at returned
  · rw [bind_eq_ok] at returned
    obtain ⟨added, listed, extended⟩ := returned
    obtain ⟨_, absent, rfl⟩ := SetToken.addComponent_eq_ok listed
    obtain ⟨_, fresh, rfl⟩ := SetToken.addExternalPositionModule_eq_ok extended
    exact ⟨_, _, rfl, kept.components.push absent, position.modules.push fresh⟩
  · rename_i present
    rw [Bool.not_eq_false, kept.isComponent_eq_true] at present
    have listed : Lists setToken.components
        (insert component {other | Tracked (setToken.componentPositions other)}) := by
      refine kept.components.congr fun other => ?_
      rw [Set.insert_eq_of_mem]
      exact present
    split at returned
    · obtain ⟨_, fresh, rfl⟩ := SetToken.addExternalPositionModule_eq_ok returned
      exact ⟨_, _, rfl, listed, position.modules.push fresh⟩
    · rename_i known
      obtain rfl := (pure_eq_ok _ _).mp returned
      rw [Bool.not_eq_false, SetToken.isExternalPositionModule,
        AddressArrayUtils.contains_eq_true] at known
      refine ⟨_, _, setModules_self.symm, listed, position.modules.congr fun other => ?_⟩
      rw [Set.insert_eq_of_mem]
      exact (position.modules.mem_iff module).mp known

/-- Storing a unit and data for a listed module and component keeps the bookkeeping. -/
theorem PositionBookkeeping.openExternalPosition (kept : PositionBookkeeping setToken)
    {newUnit : Int} {data : Bytes} (nonzero : newUnit ≠ 0)
    (listed : Position.trackExternalPosition call component module setToken = .ok tracked)
    {stored : SetToken}
    (unit : tracked.editExternalPositionUnit call component module newUnit = .ok stored)
    (extra : stored.editExternalPositionData call component module data = .ok edited) :
    PositionBookkeeping edited := by
  have position := kept.positions component
  obtain ⟨components, modules, rfl, componentsListed, modulesListed⟩ :=
    trackExternalPosition_eq_ok kept listed
  obtain ⟨_, virtualUnit, converted, rfl⟩ := SetToken.editExternalPositionUnit_eq_ok unit
  obtain ⟨_, rfl⟩ := SetToken.editExternalPositionData_eq_ok extra
  obtain ⟨positive, _, negative, real⟩ :=
    @convertRealToVirtualUnit_sign setToken _ _ kept.multiplierPositive converted
  have virtualNonzero : virtualUnit ≠ 0 := by
    rcases lt_or_gt_of_ne nonzero with below | above
    · exact ne_of_lt (negative below)
    · exact ne_of_gt (positive above)
  refine kept.edit component rfl (fun other different => ?_) ?_ ?_
  · rw [SetToken.editComponent_other _ _ _ different, SetToken.editComponent_other _ _ _ different,
      setModules, SetToken.editComponent_other _ _ _ different]
  · rw [SetToken.editComponent_self, SetToken.editComponent_self, setModules,
      SetToken.editComponent_self]
    refine ⟨position.defaultNonneg, position.defaultReal, modulesListed.congr fun other => ?_,
      fun other => ?_⟩
    · by_cases same : other = module
      · subst same
        simp [virtualNonzero]
      · simp [same]
    · by_cases same : other = module
      · subst same
        simpa using real
      · simpa [same] using position.externalReal other
  · refine componentsListed.congr fun other => ?_
    by_cases same : other = component
    · subst same
      rw [SetToken.editComponent_self, SetToken.editComponent_self, setModules,
        SetToken.editComponent_self]
      have member : module ∈ modules := (modulesListed.mem_iff module).mpr (Set.mem_insert _ _)
      simp [Tracked, List.ne_nil_of_mem member]
    · simp [same]

/-- Closing the last position of a component unlists it. -/
theorem untrackExternalPosition_eq_ok {defaultUnit : Int}
    (returned :
      Position.untrackExternalPosition call component module defaultUnit setToken = .ok tracked) :
    ∃ components, tracked = { setToken with components := components } ∧
      if defaultUnit = 0 ∧ (setToken.externalPositionModules component).length = 1 then
        components.Perm (setToken.components.erase component)
      else components = setToken.components := by
  unfold Position.untrackExternalPosition at returned
  by_cases last : defaultUnit = 0 ∧ (setToken.externalPositionModules component).length = 1
  · rw [if_pos last, bind_eq_ok] at returned
    obtain ⟨_, _, removed⟩ := returned
    obtain ⟨_, components, erased, rfl⟩ := SetToken.removeComponent_eq_ok removed
    exact ⟨components, rfl, by rw [if_pos last]; exact erased⟩
  · rw [if_neg last] at returned
    obtain rfl := (pure_eq_ok _ _).mp returned
    exact ⟨_, rfl, by rw [if_neg last]⟩

/-- Removing a module and its position keeps the bookkeeping, if the component was unlisted
exactly when that was its last position. -/
theorem PositionBookkeeping.closeExternalPosition (kept : PositionBookkeeping setToken)
    {defaultUnit : Int}
    (read : setToken.getDefaultPositionRealUnit component = .ok defaultUnit)
    (unlisted :
      Position.untrackExternalPosition call component module defaultUnit setToken = .ok tracked)
    (removed : tracked.removeExternalPositionModule call component module = .ok edited) :
    PositionBookkeeping edited := by
  have position := kept.positions component
  obtain ⟨components, rfl, perm⟩ := untrackExternalPosition_eq_ok unlisted
  obtain ⟨_, member, modules, erasure, rfl⟩ :=
    SetToken.removeExternalPositionModule_eq_ok removed
  obtain ⟨_, rfl⟩ := (SetToken.getDefaultPositionRealUnit_eq_ok _ _).mp read
  have modulesListed := position.modules.remove erasure
  have length : modules.length + 1 =
      (setToken.componentPositions component).externalPositionModules.length := by
    rw [erasure.length_eq]
    exact List.length_erase_add_one member
  have wasTracked : Tracked (setToken.componentPositions component) :=
    Or.inr (List.ne_nil_of_mem member)
  refine kept.edit component rfl
    (fun other different => SetToken.editComponent_other _ _ _ different) ?_ ?_
  · rw [SetToken.editComponent_self]
    refine ⟨position.defaultNonneg, position.defaultReal, modulesListed.congr fun other => ?_,
      fun other => ?_⟩
    · by_cases same : other = module
      · subst same
        simp
      · simp [same]
    · by_cases same : other = module
      · subst same
        simp
      · simpa [same] using position.externalReal other
  · rw [SetToken.editComponent_self]
    split at perm
    · rename_i last
      have noDefault : ¬0 < (setToken.componentPositions component).virtualUnit := by
        rw [position.defaultReal last.1]
        exact lt_irrefl 0
      have noModules : modules = [] := by
        rw [← SetToken.externalPositionModules, last.2] at length
        exact List.length_eq_zero_iff.mp (by omega)
      refine (kept.components.remove perm).congr fun other => ?_
      by_cases same : other = component
      · subst same
        simp [Tracked, noDefault, noModules]
      · simp [same]
    · rename_i notLast
      refine (perm ▸ kept.components).congr fun other => ?_
      by_cases same : other = component
      · subst same
        have stays : 0 < (setToken.componentPositions other).virtualUnit ∨ modules ≠ [] := by
          rcases Classical.em (0 < (setToken.componentPositions other).virtualUnit) with
            positive | notPositive
          · exact Or.inl positive
          · refine Or.inr fun none => notLast ⟨?_, ?_⟩
            · have zero : (setToken.componentPositions other).virtualUnit = 0 :=
                le_antisymm (not_lt.mp notPositive) position.defaultNonneg
              unfold SetToken.defaultRealUnit SetToken.realUnit SetToken.defaultPositionVirtualUnit
              rw [zero, zero_mul, Int.zero_ediv]
            · rw [SetToken.externalPositionModules, ← length, none, List.length_nil]
        simp only [Set.mem_ofPred_eq, if_true]
        exact ⟨fun _ => stays, fun _ => wasTracked⟩
      · simp [same]

theorem PositionBookkeeping.editExternalPosition (kept : PositionBookkeeping setToken)
    {newUnit : Int} {data : Bytes}
    (returned :
      Position.editExternalPosition call component module newUnit data setToken = .ok edited) :
    PositionBookkeeping edited := by
  unfold Position.editExternalPosition at returned
  split at returned
  · rename_i nonzero
    simp only [bind_eq_ok] at returned
    obtain ⟨tracked, listed, stored, unit, extra⟩ := returned
    exact kept.openExternalPosition nonzero listed unit extra
  · simp only [bind_eq_ok, require_eq_ok, exists_const] at returned
    obtain ⟨_, currentUnit, _, closed⟩ := returned
    split at closed
    · simp only [bind_eq_ok] at closed
      obtain ⟨defaultUnit, read, untracked, unlisted, removed⟩ := closed
      exact kept.closeExternalPosition read unlisted removed
    · exact (pure_eq_ok _ _).mp closed ▸ kept

/-- A unit written on its own keeps the bookkeeping if the module is listed exactly when the unit
is not zero. -/
theorem PositionBookkeeping.editExternalPositionUnit (kept : PositionBookkeeping setToken)
    {newUnit : Int}
    (returned : setToken.editExternalPositionUnit call component module newUnit = .ok edited) :
    (edited.externalPositionVirtualUnit component module ≠ 0 ↔ newUnit ≠ 0) ∧
      ((module ∈ setToken.externalPositionModules component ↔ newUnit ≠ 0) →
        PositionBookkeeping edited) := by
  have position := kept.positions component
  obtain ⟨_, virtualUnit, converted, rfl⟩ := SetToken.editExternalPositionUnit_eq_ok returned
  obtain ⟨positive, zero, negative, real⟩ :=
    convertRealToVirtualUnit_sign kept.multiplierPositive converted
  have nonzero : virtualUnit ≠ 0 ↔ newUnit ≠ 0 := by
    refine ⟨fun written none => written (zero none), fun some => ?_⟩
    rcases lt_or_gt_of_ne some with below | above
    · exact ne_of_lt (negative below)
    · exact ne_of_gt (positive above)
  refine ⟨?_, fun listed => ?_⟩
  · unfold SetToken.externalPositionVirtualUnit
    rw [SetToken.editComponent_self]
    simpa using nonzero
  · refine kept.edit component rfl
      (fun other different => SetToken.editComponent_other _ _ _ different) ?_ ?_
    · rw [SetToken.editComponent_self]
      refine ⟨position.defaultNonneg, position.defaultReal, position.modules.congr fun other => ?_,
        fun other => ?_⟩
      · by_cases same : other = module
        · subst same
          rw [← position.modules.mem_iff]
          simpa [nonzero, SetToken.externalPositionModules] using listed
        · simp [same]
      · by_cases same : other = module
        · subst same
          simpa using real
        · simpa [same] using position.externalReal other
    · refine kept.components.congr fun other => ?_
      by_cases same : other = component
      · subst same
        simp [SetToken.editComponent_self, Tracked]
      · simp [same]

/-- An edit of a default position leaves the external units and the multiplier alone. -/
theorem editDefaultPosition_external {newUnit : Nat}
    (returned : Position.editDefaultPosition call component newUnit setToken = .ok edited) :
    edited.positionMultiplier = setToken.positionMultiplier ∧
    ∀ other account, edited.externalPositionVirtualUnit other account =
      setToken.externalPositionVirtualUnit other account := by
  obtain ⟨_, _, _, _, _, _, _, rfl⟩ := Position.editDefaultPosition_eq_ok returned
  refine ⟨rfl, fun other account => ?_⟩
  unfold SetToken.externalPositionVirtualUnit
  by_cases same : other = component
  · rw [same, SetToken.editComponent_self]
  · rw [SetToken.editComponent_other _ _ _ same]

/-- The unit that is written is rounded to a virtual unit, zero included, and no other external
unit changes. -/
theorem editExternalPosition_unit (kept : PositionBookkeeping setToken) {newUnit : Int}
    {data : Bytes}
    (returned :
      Position.editExternalPosition call component module newUnit data setToken = .ok edited) :
    edited.positionMultiplier = setToken.positionMultiplier ∧
    edited.externalPositionVirtualUnit component module =
      newUnit * preciseUnit / setToken.positionMultiplier ∧
    ∀ other, other ≠ component → edited.externalPositionVirtualUnit other module =
      setToken.externalPositionVirtualUnit other module := by
  unfold Position.editExternalPosition at returned
  split at returned
  · simp only [bind_eq_ok] at returned
    obtain ⟨tracked, listed, stored, unit, extra⟩ := returned
    obtain ⟨components, modules, rfl, _⟩ := trackExternalPosition_eq_ok kept listed
    obtain ⟨_, virtualUnit, converted, rfl⟩ := SetToken.editExternalPositionUnit_eq_ok unit
    obtain ⟨_, rfl⟩ := SetToken.editExternalPositionData_eq_ok extra
    have multiplierPositive : 0 < (setModules { setToken with components := components }
        component modules).positionMultiplier := kept.multiplierPositive
    obtain ⟨_, rfl, _⟩ := SetToken.convertRealToVirtualUnit_eq_ok multiplierPositive converted
    refine ⟨rfl, ?_, fun other different => ?_⟩
    · simp only [SetToken.externalPositionVirtualUnit, SetToken.editComponent_self,
        Function.update_self]
      rfl
    · unfold SetToken.externalPositionVirtualUnit
      rw [SetToken.editComponent_other _ _ _ different,
        SetToken.editComponent_other _ _ _ different, setModules,
        SetToken.editComponent_other _ _ _ different]
  · rename_i zero
    obtain rfl := not_not.mp zero
    simp only [bind_eq_ok, require_eq_ok, exists_const] at returned
    obtain ⟨_, currentUnit, read, closed⟩ := returned
    rw [zero_mul, Int.zero_ediv]
    split at closed
    · simp only [bind_eq_ok] at closed
      obtain ⟨_, _, untracked, unlisted, removed⟩ := closed
      obtain ⟨components, rfl, _⟩ := untrackExternalPosition_eq_ok unlisted
      obtain ⟨_, _, modules, _, rfl⟩ := SetToken.removeExternalPositionModule_eq_ok removed
      refine ⟨rfl, ?_, fun other different => ?_⟩
      · simp only [SetToken.externalPositionVirtualUnit, SetToken.editComponent_self,
          Function.update_self]
      · unfold SetToken.externalPositionVirtualUnit
        rw [SetToken.editComponent_other _ _ _ different]
    · rename_i unread
      obtain rfl := (pure_eq_ok _ _).mp closed
      obtain ⟨_, rfl⟩ := (SetToken.getExternalPositionRealUnit_eq_ok _ _ _).mp read
      exact ⟨rfl, (kept.positions component).externalReal module (not_not.mp unread),
        fun _ _ => rfl⟩

end External

/-! ### The position multiplier -/

section Multiplier

variable {setToken edited : SetToken} {call : Call}

theorem lowerMinimum_le (minimumUnit unit : Nat) :
    SetToken.lowerMinimum minimumUnit unit ≤ minimumUnit ∧
      (0 < unit → SetToken.lowerMinimum minimumUnit unit ≤ unit) := by
  unfold SetToken.lowerMinimum
  split <;> omega

theorem absoluteValue_eq_ok {a : Int} {result : Nat}
    (returned : SetToken.absoluteValue a = .ok result) : result = a.natAbs := by
  unfold SetToken.absoluteValue SetToken.negate at returned
  split at returned
  · rw [SafeCast.toUint256_eq_ok] at returned
    omega
  · rw [SafeCast.toUint256_eq_ok] at returned
    split at returned <;> omega

/-- The minimum over all positions is at most the absolute value of each nonzero unit of a
listed component. -/
theorem getPositionsAbsMinimumVirtualUnit_le {minimumUnit : Int}
    (returned : setToken.getPositionsAbsMinimumVirtualUnit = .ok minimumUnit) :
    0 ≤ minimumUnit ∧ ∀ component ∈ setToken.components,
      (0 < setToken.defaultPositionVirtualUnit component →
        minimumUnit ≤ setToken.defaultPositionVirtualUnit component) ∧
      ∀ module ∈ setToken.externalPositionModules component,
        setToken.externalPositionVirtualUnit component module ≠ 0 →
          minimumUnit ≤ |setToken.externalPositionVirtualUnit component module| := by
  simp only [SetToken.getPositionsAbsMinimumVirtualUnit, bind_eq_ok, SafeCast.toInt256_eq_ok]
    at returned
  obtain ⟨minimum, looped, _, rfl⟩ := returned
  refine ⟨Int.natCast_nonneg _, ?_⟩
  refine (foldlM_descending setToken.lowerByComponent
    (fun component low => (0 < setToken.defaultPositionVirtualUnit component →
        (low : Int) ≤ setToken.defaultPositionVirtualUnit component) ∧
      ∀ module ∈ setToken.externalPositionModules component,
        setToken.externalPositionVirtualUnit component module ≠ 0 →
          (low : Int) ≤ |setToken.externalPositionVirtualUnit component module|)
    ?_ ?_ setToken.components _ _ looped).2
  · intro start component low lowered
    simp only [SetToken.lowerByComponent, bind_eq_ok, SafeCast.toUint256_eq_ok] at lowered
    obtain ⟨defaultUnit, unit, external⟩ := lowered
    obtain ⟨below, each⟩ := foldlM_descending (setToken.lowerByExternal component)
      (fun module low => setToken.externalPositionVirtualUnit component module ≠ 0 →
        (low : Int) ≤ |setToken.externalPositionVirtualUnit component module|)
      (by
        intro start module low lowered
        simp only [SetToken.lowerByExternal, bind_eq_ok, pure_eq_ok] at lowered
        obtain ⟨absolute, value, rfl⟩ := lowered
        obtain rfl := absoluteValue_eq_ok value
        obtain ⟨notAbove, reached⟩ := lowerMinimum_le start
          (setToken.externalPositionVirtualUnit component module).natAbs
        refine ⟨notAbove, fun nonzero => ?_⟩
        rw [Int.abs_eq_natAbs]
        exact_mod_cast reached (Int.natAbs_pos.mpr nonzero))
      (fun module low high order bound nonzero =>
        le_trans (by exact_mod_cast order) (bound nonzero))
      _ _ _ external
    obtain ⟨notAbove, reached⟩ := lowerMinimum_le start defaultUnit
    refine ⟨below.trans notAbove, fun positive => ?_, each⟩
    rw [unit] at positive ⊢
    exact_mod_cast below.trans (reached (by exact_mod_cast positive))
  · intro component low high order bound
    have cast : (low : Int) ≤ high := by exact_mod_cast order
    exact ⟨fun positive => cast.trans (bound.1 positive),
      fun module member nonzero => cast.trans (bound.2 module member nonzero)⟩

/-- A unit whose product with the multiplier is at least one in absolute value does not read
back as zero. -/
theorem real_ne_zero {virtualUnit multiplier : Int}
    (large : (preciseUnit : Int) ≤ |virtualUnit| * multiplier) (positive : 0 < multiplier) :
    virtualUnit * multiplier / preciseUnit ≠ 0 := by
  rcases le_or_gt 0 virtualUnit with nonneg | negative
  · rw [abs_of_nonneg nonneg] at large
    have quotient : 1 ≤ virtualUnit * multiplier / preciseUnit := by
      rw [Int.le_ediv_iff_mul_le preciseUnit_int_pos, one_mul]
      exact large
    exact ne_of_gt quotient
  · exact ne_of_lt (Int.ediv_neg_of_neg_of_pos
      (mul_neg_of_neg_of_pos negative positive) preciseUnit_int_pos)

/-- A multiplier that is accepted is positive, and large enough for the smallest unit, which
bounds the units of every listed component from below. -/
theorem validateNewMultiplier_eq_ok {newMultiplier : Int}
    (valid : setToken.validateNewMultiplier newMultiplier = .ok ()) :
    ∃ minimum, setToken.getPositionsAbsMinimumVirtualUnit = .ok minimum ∧
      (preciseUnit : Int) ≤ minimum * newMultiplier ∧ 0 < newMultiplier := by
  simp only [SetToken.validateNewMultiplier, bind_eq_ok, require_eq_ok] at valid
  obtain ⟨minimum, smallest, real, product, large⟩ := valid
  obtain ⟨_, rfl⟩ := (conservativePreciseMul_eq_ok _ _ _).mp product
  obtain ⟨minimumNonneg, _⟩ := getPositionsAbsMinimumVirtualUnit_le smallest
  have productLarge : (preciseUnit : Int) ≤ minimum * newMultiplier := by
    have := (Int.le_ediv_iff_mul_le preciseUnit_int_pos).mp (Int.add_one_le_of_lt large)
    simpa using this
  have productPositive := lt_of_lt_of_le preciseUnit_int_pos productLarge
  exact ⟨minimum, smallest, productLarge, pos_of_mul_pos_right productPositive minimumNonneg⟩

theorem PositionBookkeeping.editPositionMultiplier (kept : PositionBookkeeping setToken)
    {newMultiplier : Int}
    (returned : setToken.editPositionMultiplier call newMultiplier = .ok edited) :
    PositionBookkeeping edited := by
  obtain ⟨_, valid, rfl⟩ := SetToken.editPositionMultiplier_eq_ok returned
  obtain ⟨minimum, smallest, productLarge, positive⟩ := validateNewMultiplier_eq_ok valid
  obtain ⟨minimumNonneg, bounded⟩ := getPositionsAbsMinimumVirtualUnit_le smallest
  have reads : ∀ virtualUnit : Int, minimum ≤ |virtualUnit| →
      virtualUnit * newMultiplier / preciseUnit ≠ 0 := fun virtualUnit order =>
    real_ne_zero (productLarge.trans (mul_le_mul_of_nonneg_right order positive.le)) positive
  refine ⟨positive, kept.components, fun component => ?_⟩
  have position := kept.positions component
  refine ⟨position.defaultNonneg, fun zero => ?_, position.modules, fun module zero => ?_⟩
  · by_contra nonzero
    have defaultPositive : 0 < (setToken.componentPositions component).virtualUnit :=
      lt_of_le_of_ne position.defaultNonneg (Ne.symm nonzero)
    have member := (kept.mem_components_iff component).mpr (Or.inl defaultPositive)
    refine reads _ ?_ zero
    rw [abs_of_pos defaultPositive]
    exact (bounded component member).1 defaultPositive
  · by_contra nonzero
    have listed := (position.modules.mem_iff module).mpr nonzero
    have member :=
      (kept.mem_components_iff component).mpr (Or.inr (List.ne_nil_of_mem listed))
    exact reads _ ((bounded component member).2 module listed nonzero) zero

end Multiplier

/-! ### From the factory on -/

/-- The calls that edit the positions of a Set, and the entry points of the Set itself that
leave them alone. -/
inductive SetTokenCall
  | editDefaultPosition (component : Address) (newUnit : Nat)
  | editExternalPosition (component module : Address) (newUnit : Int) (data : Bytes)
  | editPositionMultiplier (newMultiplier : Int)
  | mint (account : Address) (quantity : Nat)
  | burn (account : Address) (quantity : Nat)
  | lock
  | unlock
  | addModule (module : Address)
  | removeModule (module : Address) (callback : Outcome Unit)
  | removePendingModule (module : Address)
  | initializeModule
  | setManager (manager : Address)

/-- One call, with the sender and the controller it is made with. -/
def SetTokenCall.apply (setToken : SetToken) : Call × SetTokenCall → Outcome SetToken
  | (call, .editDefaultPosition component newUnit) =>
    Position.editDefaultPosition call component newUnit setToken
  | (call, .editExternalPosition component module newUnit data) =>
    Position.editExternalPosition call component module newUnit data setToken
  | (call, .editPositionMultiplier newMultiplier) =>
    setToken.editPositionMultiplier call newMultiplier
  | (call, .mint account quantity) => setToken.mint call account quantity
  | (call, .burn account quantity) => setToken.burn call account quantity
  | (call, .lock) => setToken.lock call
  | (call, .unlock) => setToken.unlock call
  | (call, .addModule module) => setToken.addModule call module
  | (call, .removeModule module callback) => setToken.removeModule call module callback
  | (call, .removePendingModule module) => setToken.removePendingModule call module
  | (call, .initializeModule) => setToken.initializeModule call
  | (call, .setManager manager) => setToken.setManager call manager

/-- The bookkeeping is a property of the components, their positions and the multiplier. -/
theorem PositionBookkeeping.congr {setToken other : SetToken}
    (kept : PositionBookkeeping setToken) (same : SetToken.SamePositions setToken other) :
    PositionBookkeeping other where
  multiplierPositive := same.positionMultiplier ▸ kept.multiplierPositive
  components := by
    rw [same.components, same.componentPositions]
    exact kept.components
  positions := by
    rw [same.componentPositions, same.positionMultiplier]
    exact kept.positions

theorem PositionBookkeeping.apply {setToken edited : SetToken}
    (kept : PositionBookkeeping setToken) (edit : Call × SetTokenCall)
    (returned : SetTokenCall.apply setToken edit = .ok edited) : PositionBookkeeping edited := by
  obtain ⟨call, edit⟩ := edit
  cases edit with
  | editDefaultPosition component newUnit => exact kept.editDefaultPosition returned
  | editExternalPosition component module newUnit data => exact kept.editExternalPosition returned
  | editPositionMultiplier newMultiplier => exact kept.editPositionMultiplier returned
  | mint account quantity =>
    obtain ⟨_, rfl⟩ := SetToken.mint_eq_ok returned
    exact kept.congr ⟨rfl, rfl, rfl⟩
  | burn account quantity =>
    obtain ⟨_, _, rfl⟩ := SetToken.burn_eq_ok returned
    exact kept.congr ⟨rfl, rfl, rfl⟩
  | lock =>
    obtain ⟨_, _, _, rfl⟩ := SetToken.lock_eq_ok returned
    exact kept.congr ⟨rfl, rfl, rfl⟩
  | unlock =>
    obtain ⟨_, _, _, rfl⟩ := SetToken.unlock_eq_ok.mp returned
    exact kept.congr ⟨rfl, rfl, rfl⟩
  | addModule module =>
    obtain ⟨_, rfl⟩ := SetToken.addModule_eq_ok returned
    exact kept.congr ⟨rfl, rfl, rfl⟩
  | removeModule module callback =>
    obtain ⟨_, _, _, _, rfl⟩ := SetToken.removeModule_eq_ok returned
    exact kept.congr ⟨rfl, rfl, rfl⟩
  | removePendingModule module =>
    obtain ⟨_, _, rfl⟩ := SetToken.removePendingModule_eq_ok returned
    exact kept.congr ⟨rfl, rfl, rfl⟩
  | initializeModule =>
    obtain ⟨_, _, rfl⟩ := SetToken.initializeModule_eq_ok returned
    exact kept.congr ⟨rfl, rfl, rfl⟩
  | setManager manager =>
    obtain ⟨_, rfl⟩ := SetToken.setManager_eq_ok returned
    exact kept.congr ⟨rfl, rfl, rfl⟩

/-- Storing positive units opens default positions for exactly the listed components and no
external ones. -/
theorem storeUnits (entries : List (Address × Int)) (units : ∀ entry ∈ entries, 0 < entry.2) :
    ∀ (positions : Address → ComponentPosition) (component : Address),
      0 ≤ (positions component).virtualUnit →
        let stored := entries.foldl SetToken.storeUnit positions component
        0 ≤ stored.virtualUnit ∧
          (0 < stored.virtualUnit ↔
            0 < (positions component).virtualUnit ∨ component ∈ entries.map Prod.fst) ∧
          stored.externalPositionModules = (positions component).externalPositionModules ∧
          stored.externalPositions = (positions component).externalPositions := by
  induction entries with
  | nil => exact fun positions component nonneg => ⟨nonneg, by simp, rfl, rfl⟩
  | cons entry rest inductionHypothesis =>
    intro positions component nonneg
    have unit : 0 < entry.2 := units entry List.mem_cons_self
    have later := inductionHypothesis
      (fun other member => units other (List.mem_cons_of_mem _ member))
      (SetToken.storeUnit positions entry) component
    by_cases same : component = entry.1
    · subst same
      have first : SetToken.storeUnit positions entry entry.1 =
          { positions entry.1 with virtualUnit := entry.2 } := Function.update_self _ _ _
      rw [first] at later
      obtain ⟨kept, positive, modules, external⟩ := later unit.le
      refine ⟨kept, ⟨fun _ => Or.inr (by simp), fun _ => positive.mpr (Or.inl unit)⟩,
        modules, external⟩
    · have first : SetToken.storeUnit positions entry component = positions component :=
        Function.update_of_ne same _ _
      rw [first] at later
      obtain ⟨kept, positive, modules, external⟩ := later nonneg
      refine ⟨kept, ?_, modules, external⟩
      rw [List.map_cons, List.mem_cons, or_iff_right same]
      exact positive

/-- A Set that the factory creates starts with the bookkeeping in order. -/
theorem PositionBookkeeping.create {creator address manager : Address}
    {components modules : List Address} {units : List Int} {controller registered : Controller}
    {setToken : SetToken}
    (created : SetTokenCreator.create creator address components units modules manager
      controller = .ok (setToken, registered)) : PositionBookkeeping setToken := by
  simp only [SetTokenCreator.create, bind_eq_ok, require_eq_ok, pure_eq_ok, exists_const,
    forM_eq_ok, Prod.mk.injEq] at created
  obtain ⟨_, lengths, _, search, rfl, _, _, entries, _, _, _, rfl, _⟩ := created
  obtain ⟨_, distinct⟩ := (AddressArrayUtils.hasDuplicate_eq_ok_false _).mp search
  have positive : ∀ entry ∈ components.zip units, 0 < entry.2 := fun entry member =>
    (entries entry member).2
  have stored := fun component => storeUnits _ positive SetToken.emptyPositions component le_rfl
  have listed : (components.zip units).map Prod.fst = components :=
    List.map_fst_zip lengths.le
  have virtualUnits : ∀ unit : Int, unit * preciseUnit / preciseUnit = 0 → unit = 0 := by
    intro unit zero
    rwa [Int.mul_ediv_cancel _ preciseUnit_int_pos.ne'] at zero
  refine ⟨preciseUnit_int_pos, ⟨distinct, fun component => ?_⟩, fun component => ?_⟩
  · obtain ⟨_, opened, modulesEmpty, _⟩ := stored component
    show component ∈ components ↔ Tracked _
    simp only [SetToken.construct, Tracked, opened, modulesEmpty, listed]
    simp [SetToken.emptyPositions]
  · obtain ⟨nonneg, _, modulesEmpty, external⟩ := stored component
    refine ⟨nonneg, virtualUnits _, ?_, fun module => virtualUnits _⟩
    simp only [SetToken.construct, modulesEmpty, external]
    exact ⟨List.nodup_nil, by simp [SetToken.emptyPositions]⟩

/-- From any Set the factory creates, after any sequence of calls: the multiplier is
positive, no list has duplicates, the components are those with a position, the modules of a
component those with a nonzero unit, no default unit is negative, and only a zero virtual
unit has a zero real unit. -/
theorem positionBookkeeping_run {creator address manager : Address}
    {components modules : List Address} {units : List Int} {controller registered : Controller}
    {setToken : SetToken}
    (created : SetTokenCreator.create creator address components units modules manager
      controller = .ok (setToken, registered)) (calls : List (Call × SetTokenCall)) :
    let reached := run SetTokenCall.apply setToken calls
    0 < reached.positionMultiplier ∧
    reached.components.Nodup ∧
    (∀ component, (reached.externalPositionModules component).Nodup) ∧
    (∀ component, component ∈ reached.components ↔
      0 < reached.defaultPositionVirtualUnit component ∨
        reached.externalPositionModules component ≠ []) ∧
    (∀ component module, module ∈ reached.externalPositionModules component ↔
      reached.externalPositionVirtualUnit component module ≠ 0) ∧
    (∀ component, 0 ≤ reached.defaultPositionVirtualUnit component) ∧
    (∀ component, reached.realUnit (reached.defaultPositionVirtualUnit component) = 0 →
      reached.defaultPositionVirtualUnit component = 0) ∧
    (∀ component module,
      reached.realUnit (reached.externalPositionVirtualUnit component module) = 0 →
        reached.externalPositionVirtualUnit component module = 0) := by
  intro reached
  have kept : PositionBookkeeping reached :=
    run_invariant SetTokenCall.apply PositionBookkeeping (fun _ => True)
      (fun state call next _ holds returned => holds.apply call returned) calls
      (fun _ _ => trivial) setToken (PositionBookkeeping.create created)
  have positions := kept.positions
  exact ⟨kept.multiplierPositive, kept.components.nodup,
    fun component => (positions component).modules.nodup, kept.mem_components_iff,
    fun component => (positions component).modules.mem_iff,
    fun component => (positions component).defaultNonneg,
    fun component => (positions component).defaultReal,
    fun component => (positions component).externalReal⟩

/-- A controller with one factory and one module. -/
def sampleController : Controller where
  isInitialized := true
  sets := []
  isSet := fun _ => false
  isFactory := fun account => account = 1
  isModule := fun account => account = 4
  fees := fun _ _ => 0
  feeRecipient := 9

theorem sampleController_create :
    SetTokenCreator.create 1 2 [3] [10 ^ 18] [4] 5 sampleController =
      .ok (SetToken.construct 2 [3] [10 ^ 18] [4] 5,
        { sampleController with
          isSet := Function.update sampleController.isSet 2 true
          sets := [2] }) := rfl

/-- A component whose default position is closed stays listed through a debt position. -/
theorem positionBookkeeping_run_debt :
    let reached := run SetTokenCall.apply (SetToken.construct 2 [3] [10 ^ 18] [4] 5)
      [(⟨sampleController, 4⟩, .initializeModule),
        (⟨sampleController, 4⟩, .editExternalPosition 3 4 (-5) []),
        (⟨sampleController, 4⟩, .editDefaultPosition 3 0)]
    reached.defaultPositionVirtualUnit 3 = 0 ∧ 3 ∈ reached.components := by
  refine ⟨by decide, ?_⟩
  obtain ⟨_, _, _, listed, modules, _⟩ := positionBookkeeping_run sampleController_create
    [(⟨sampleController, 4⟩, .initializeModule),
      (⟨sampleController, 4⟩, .editExternalPosition 3 4 (-5) []),
      (⟨sampleController, 4⟩, .editDefaultPosition 3 0)]
  refine (listed 3).mpr (Or.inr (List.ne_nil_of_mem ((modules 3 4).mpr ?_)))
  decide

end IndexProtocol

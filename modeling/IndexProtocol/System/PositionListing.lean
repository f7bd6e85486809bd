/-
This file compares the list of positions with the stored positions. The list is
allocated by one count and filled by another loop; both visit the same
positions, so no write leaves the array and no entry stays blank. With the
bookkeeping of the position edits behind it, the list then has the default
position of every component that has one and one entry for each module of each
component, and the units of a component add up to its total. It can be read
unless the product of a stored unit and the multiplier is too large.
-/

import IndexProtocol.Protocol.PositionBookkeeping

namespace IndexProtocol

open Revert Registry PreciseUnitMath

namespace SetToken

variable {setToken : SetToken} {component : Address}

/-! ### The entries of one component -/

def defaultPosition (setToken : SetToken) (component : Address) : List PositionEntry :=
  if 0 < setToken.defaultPositionVirtualUnit component then
    [{ component, module := 0, unit := setToken.defaultRealUnit component, positionState := 0,
       data := [] }]
  else []

def externalPosition (setToken : SetToken) (component module : Address) : PositionEntry where
  component := component
  module := module
  unit := setToken.externalRealUnit component module
  positionState := 1
  data := setToken.externalPositionData component module

/-- The default position of a component, if it has one, and that of each of its modules. -/
def positionsOf (setToken : SetToken) (component : Address) : List PositionEntry :=
  setToken.defaultPosition component ++
    (setToken.externalPositionModules component).map (setToken.externalPosition component)

/-- The products of the stored units of a component and the multiplier fit `int256`. -/
def ComponentReadable (setToken : SetToken) (component : Address) : Prop :=
  (0 < setToken.defaultPositionVirtualUnit component →
    FitsInt256 (setToken.defaultPositionVirtualUnit component * setToken.positionMultiplier)) ∧
  ∀ module ∈ setToken.externalPositionModules component,
    FitsInt256 (setToken.externalPositionVirtualUnit component module *
      setToken.positionMultiplier)

theorem defaultEntry_eq_ok (entries : List PositionEntry) :
    setToken.defaultEntry component = .ok entries ↔
      (0 < setToken.defaultPositionVirtualUnit component →
        FitsInt256 (setToken.defaultPositionVirtualUnit component *
          setToken.positionMultiplier)) ∧
        setToken.defaultPosition component = entries := by
  unfold defaultEntry defaultPosition
  split
  · rename_i opened
    simp only [bind_eq_ok, pure_eq_ok, getDefaultPositionRealUnit_eq_ok]
    constructor
    · rintro ⟨_, ⟨fits, rfl⟩, rfl⟩
      exact ⟨fun _ => fits, rfl⟩
    · rintro ⟨fits, rfl⟩
      exact ⟨_, ⟨fits opened, rfl⟩, rfl⟩
  · rename_i closed
    rw [pure_eq_ok, and_iff_right fun opened => absurd opened closed]

theorem externalEntry_eq_ok (component module : Address) (entry : PositionEntry) :
    setToken.externalEntry component module = .ok entry ↔
      FitsInt256 (setToken.externalPositionVirtualUnit component module *
        setToken.positionMultiplier) ∧
        setToken.externalPosition component module = entry := by
  simp only [externalEntry, bind_eq_ok, pure_eq_ok, getExternalPositionRealUnit_eq_ok]
  constructor
  · rintro ⟨_, ⟨fits, rfl⟩, rfl⟩
    exact ⟨fits, rfl⟩
  · rintro ⟨fits, rfl⟩
    exact ⟨_, ⟨fits, rfl⟩, rfl⟩

theorem componentEntries_eq_ok (component : Address) (entries : List PositionEntry) :
    setToken.componentEntries component = .ok entries ↔
      setToken.ComponentReadable component ∧ setToken.positionsOf component = entries := by
  simp only [componentEntries, bind_eq_ok, pure_eq_ok, defaultEntry_eq_ok,
    mapM_eq_ok_iff (setToken.externalEntry_eq_ok component)]
  constructor
  · rintro ⟨_, ⟨default, rfl⟩, _, ⟨external, rfl⟩, rfl⟩
    exact ⟨⟨default, external⟩, rfl⟩
  · rintro ⟨⟨default, external⟩, rfl⟩
    exact ⟨_, ⟨default, rfl⟩, _, ⟨external, rfl⟩, rfl⟩

/-! ### The whole list -/

/-- The count that sizes the array is the number of entries that fill it. -/
theorem getPositionCount_eq_length :
    setToken.getPositionCount = (setToken.components.flatMap setToken.positionsOf).length := by
  unfold getPositionCount
  rw [List.length_flatMap]
  refine congrArg List.sum (List.map_congr_left fun component _ => ?_)
  unfold positionsOf defaultPosition
  rw [List.length_append, List.length_map]
  split <;> rfl

/-- The list can be read exactly when every component in it can, and has no room left. -/
theorem getPositions_eq_ok (entries : List PositionEntry) :
    setToken.getPositions = .ok entries ↔
      (∀ component ∈ setToken.components, setToken.ComponentReadable component) ∧
        setToken.components.flatMap setToken.positionsOf = entries := by
  simp only [getPositions, bind_eq_ok, require_eq_ok, exists_const, pure_eq_ok,
    mapM_eq_ok_iff setToken.componentEntries_eq_ok]
  constructor
  · rintro ⟨_, ⟨readable, rfl⟩, _, rfl⟩
    rw [← List.flatMap_def, getPositionCount_eq_length, Nat.sub_self, List.replicate_zero,
      List.append_nil]
    exact ⟨readable, rfl⟩
  · rintro ⟨readable, rfl⟩
    refine ⟨_, ⟨readable, rfl⟩, ?_, ?_⟩
    · rw [← List.flatMap_def, getPositionCount_eq_length]
    · rw [← List.flatMap_def, getPositionCount_eq_length, Nat.sub_self, List.replicate_zero,
        List.append_nil]

/-- The total is the sum of the real units, whenever it is returned. -/
theorem getTotalComponentRealUnits_eq_ok {total : Int}
    (returned : setToken.getTotalComponentRealUnits component = .ok total) :
    total = setToken.defaultRealUnit component +
      ((setToken.externalPositionModules component).map
        (setToken.externalRealUnit component)).sum := by
  simp only [getTotalComponentRealUnits, bind_eq_ok, getDefaultPositionRealUnit_eq_ok] at returned
  obtain ⟨_, ⟨_, rfl⟩, summed⟩ := returned
  have added : ∀ total module next, setToken.addExternalUnit component total module = .ok next →
      next = total + setToken.externalRealUnit component module := by
    intro total module next returned
    simp only [addExternalUnit, bind_eq_ok, getExternalPositionRealUnit_eq_ok,
      SignedSafeMath.add_eq_ok] at returned
    obtain ⟨_, ⟨_, rfl⟩, _, rfl⟩ := returned
    rfl
  rw [foldlM_eq_foldl _ _ added _ _ _ summed]
  generalize setToken.defaultRealUnit component = start
  induction setToken.externalPositionModules component generalizing start with
  | nil => simp
  | cons module rest inductionHypothesis =>
    rw [List.foldl_cons, inductionHypothesis, List.map_cons, List.sum_cons, add_assoc]

theorem component_of_mem_positionsOf {entry : PositionEntry}
    (member : entry ∈ setToken.positionsOf component) : entry.component = component := by
  unfold positionsOf defaultPosition at member
  rcases List.mem_append.mp member with default | external
  · split at default
    · rw [List.mem_singleton.mp default]
    · exact absurd default List.not_mem_nil
  · obtain ⟨_, _, rfl⟩ := List.mem_map.mp external
    rfl

/-- The product of every stored unit and the multiplier fits `int256`. -/
def UnitsFit (setToken : SetToken) : Prop :=
  ∀ component,
    FitsInt256 (setToken.defaultPositionVirtualUnit component * setToken.positionMultiplier) ∧
    ∀ module, FitsInt256 (setToken.externalPositionVirtualUnit component module *
      setToken.positionMultiplier)

/-- What a list of the positions says of every component: its entries are its default position,
if its default unit is not zero, and one position for each of its modules, no module twice; no
unit is zero, and the units add up to the total of the component, where that is returned. -/
structure ListsPositions (setToken : SetToken) (entries : List PositionEntry) : Prop where
  notBlank : ∀ entry ∈ entries, entry.unit ≠ 0
  modules : ∀ component, (setToken.externalPositionModules component).Nodup
  entriesOf : ∀ component, entries.filter (fun entry => entry.component = component) =
    (if setToken.defaultPositionVirtualUnit component ≠ 0 then
      [{ component, module := 0, unit := setToken.defaultRealUnit component, positionState := 0,
         data := [] }]
    else []) ++ (setToken.externalPositionModules component).map
      (setToken.externalPosition component)
  total : ∀ component total, setToken.getTotalComponentRealUnits component = .ok total →
    ((entries.filter fun entry => entry.component = component).map PositionEntry.unit).sum = total

end SetToken

/-! ### The list under the bookkeeping -/

namespace PositionBookkeeping

variable {setToken : SetToken} (kept : PositionBookkeeping setToken)

include kept

theorem defaultPosition_eq (component : Address) :
    setToken.defaultPosition component =
      if setToken.defaultPositionVirtualUnit component ≠ 0 then
        [{ component, module := 0, unit := setToken.defaultRealUnit component,
           positionState := 0, data := [] }]
      else [] := by
  have nonneg : 0 ≤ setToken.defaultPositionVirtualUnit component :=
    (kept.positions component).defaultNonneg
  unfold SetToken.defaultPosition
  refine if_congr ?_ rfl rfl
  exact ⟨ne_of_gt, fun nonzero => lt_of_le_of_ne nonneg (Ne.symm nonzero)⟩

theorem positionsOf_eq_nil {component : Address} (absent : component ∉ setToken.components) :
    setToken.positionsOf component = [] := by
  rw [kept.mem_components_iff, Tracked, not_or, not_not] at absent
  unfold SetToken.positionsOf SetToken.defaultPosition SetToken.defaultPositionVirtualUnit
    SetToken.externalPositionModules
  rw [if_neg absent.1, absent.2]
  rfl

theorem filter_positions (component : Address) :
    (setToken.components.flatMap setToken.positionsOf).filter
      (fun entry => entry.component = component) = setToken.positionsOf component := by
  rw [filter_flatMap_key PositionEntry.component setToken.positionsOf
    (fun _ _ => SetToken.component_of_mem_positionsOf) component _ kept.components.nodup]
  split
  · rfl
  · rename_i absent
    exact (kept.positionsOf_eq_nil absent).symm

theorem unit_ne_zero {component : Address} {entry : PositionEntry}
    (member : entry ∈ setToken.positionsOf component) : entry.unit ≠ 0 := by
  have position := kept.positions component
  rcases List.mem_append.mp member with default | external
  · rw [kept.defaultPosition_eq] at default
    split at default
    · rename_i opened
      rw [List.mem_singleton.mp default]
      exact fun zero => opened (position.defaultReal zero)
    · exact absurd default List.not_mem_nil
  · obtain ⟨module, listed, rfl⟩ := List.mem_map.mp external
    exact fun zero =>
      (position.modules.mem_iff module).mp listed (position.externalReal module zero)

/-- A unit that no list has is zero, so that its product fits. -/
theorem unitsFit_iff : setToken.UnitsFit ↔
    ∀ component ∈ setToken.components, setToken.ComponentReadable component := by
  constructor
  · intro fit component _
    exact ⟨fun _ => (fit component).1, fun module _ => (fit component).2 module⟩
  · intro readable component
    have zero : FitsInt256 0 := by decide
    refine ⟨?_, fun module => ?_⟩
    · by_cases opened : 0 < setToken.defaultPositionVirtualUnit component
      · exact (readable component ((kept.mem_components_iff component).mpr (Or.inl opened))).1
          opened
      · rw [le_antisymm (not_lt.mp opened) (kept.positions component).defaultNonneg, zero_mul]
        exact zero
    · by_cases listed : module ∈ setToken.externalPositionModules component
      · exact (readable component ((kept.mem_components_iff component).mpr
          (Or.inr (List.ne_nil_of_mem listed)))).2 module listed
      · have none : setToken.externalPositionVirtualUnit component module = 0 := by
          by_contra some
          exact listed (((kept.positions component).modules.mem_iff module).mpr some)
        rw [none, zero_mul]
        exact zero

theorem lists_getPositions {entries : List PositionEntry}
    (returned : setToken.getPositions = .ok entries) : setToken.ListsPositions entries := by
  obtain ⟨_, rfl⟩ := (SetToken.getPositions_eq_ok _).mp returned
  refine ⟨fun entry member => ?_, fun component => (kept.positions component).modules.nodup,
    fun component => ?_, fun component total summed => ?_⟩
  · obtain ⟨_, _, listed⟩ := List.mem_flatMap.mp member
    exact kept.unit_ne_zero listed
  · rw [kept.filter_positions, SetToken.positionsOf, kept.defaultPosition_eq]
  · rw [kept.filter_positions, SetToken.getTotalComponentRealUnits_eq_ok summed,
      SetToken.positionsOf, List.map_append, List.sum_append, List.map_map]
    refine congrArg (· + _) ?_
    unfold SetToken.defaultPosition
    split
    · simp
    · rename_i closed
      unfold SetToken.defaultRealUnit SetToken.realUnit
      rw [le_antisymm (not_lt.mp closed) (kept.positions component).defaultNonneg]
      simp

end PositionBookkeeping

/-- After any sequence of calls on a Set the factory created, the positions can be listed
exactly when the product of every stored unit and the multiplier fits `int256`, and the list is
complete and adds up. -/
theorem getPositions_run {creator address manager : Address}
    {components modules : List Address} {units : List Int} {controller registered : Controller}
    {setToken : SetToken}
    (created : SetTokenCreator.create creator address components units modules manager
      controller = .ok (setToken, registered)) (calls : List (Call × SetTokenCall)) :
    let reached := run SetTokenCall.apply setToken calls
    ((∃ entries, reached.getPositions = .ok entries) ↔ reached.UnitsFit) ∧
    ∀ entries, reached.getPositions = .ok entries → reached.ListsPositions entries := by
  intro reached
  have kept : PositionBookkeeping reached :=
    run_invariant SetTokenCall.apply PositionBookkeeping (fun _ => True)
      (fun state call next _ holds returned => holds.apply call returned) calls
      (fun _ _ => trivial) setToken (PositionBookkeeping.create created)
  refine ⟨?_, fun entries => kept.lists_getPositions⟩
  rw [kept.unitsFit_iff]
  constructor
  · rintro ⟨entries, returned⟩
    exact ((SetToken.getPositions_eq_ok _).mp returned).1
  · intro readable
    exact ⟨_, (SetToken.getPositions_eq_ok _).mpr ⟨readable, rfl⟩⟩

/-- A debt position is listed beside the default position of its component. -/
theorem getPositions_run_sample :
    let reached := run SetTokenCall.apply (SetToken.construct 2 [3] [10 ^ 18] [4] 5)
      [(⟨sampleController, 4⟩, .initializeModule),
        (⟨sampleController, 4⟩, .editExternalPosition 3 4 (-5) [])]
    ∃ entries, reached.getPositions = .ok entries ∧ reached.ListsPositions entries ∧
      entries.map PositionEntry.unit = [10 ^ 18, -5] := by
  intro reached
  have succeeds : returns reached.getPositions
      (fun entries => decide (entries.map PositionEntry.unit = [10 ^ 18, -5])) = true := by
    decide
  obtain ⟨entries, returned, units⟩ := exists_of_returns succeeds
  obtain ⟨_, listed⟩ := getPositions_run sampleController_create
    [(⟨sampleController, 4⟩, .initializeModule),
      (⟨sampleController, 4⟩, .editExternalPosition 3 4 (-5) [])]
  exact ⟨entries, returned, listed entries returned, of_decide_eq_true units⟩

/-- A Set may be created with a unit that is too large to be read. -/
theorem getPositions_reverts :
    ¬∀ (creator address manager : Address) (components modules : List Address)
        (units : List Int) (controller registered : Controller) (setToken : SetToken)
        (calls : List (Call × SetTokenCall)),
      SetTokenCreator.create creator address components units modules manager controller =
        .ok (setToken, registered) →
      ∃ entries, (run SetTokenCall.apply setToken calls).getPositions = .ok entries := by
  intro claim
  obtain ⟨entries, returned⟩ := claim 1 2 5 [3] [4] [2 ^ 254] sampleController _
    (SetToken.construct 2 [3] [2 ^ 254] [4] 5) [] rfl
  have reverts : (SetToken.construct 2 [3] [2 ^ 254] [4] 5).getPositions =
      .error "SignedSafeMath: multiplication overflow" := by
    decide
  rw [run_nil, reverts] at returned
  cases returned

end IndexProtocol

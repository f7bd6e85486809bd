/-
This file models the position library the modules share. Whether a component is
added to or removed from the list of a Set is decided from real units, while the
stored units are virtual. The edits are described by one inversion lemma each,
which says everything a successful edit does to the components and to the stored
positions.
-/

import IndexProtocol.Protocol.SetToken

namespace IndexProtocol

open Revert PreciseUnitMath

namespace Position

def hasDefaultPosition (setToken : SetToken) (component : Address) : Outcome Bool := do
  let unit ← setToken.getDefaultPositionRealUnit component
  pure (decide (0 < unit))

def hasExternalPosition (setToken : SetToken) (component : Address) : Bool :=
  decide (0 < (setToken.externalPositionModules component).length)

/-- The component list as a default position is opened or closed. -/
def trackDefaultPosition (call : Call) (component : Address) (isPositionFound : Bool)
    (newUnit : Nat) (setToken : SetToken) : Outcome SetToken :=
  if isPositionFound = false ∧ 0 < newUnit then
    if hasExternalPosition setToken component = false then
      setToken.addComponent call component
    else pure setToken
  else if isPositionFound = true ∧ newUnit = 0 then
    if hasExternalPosition setToken component = false then
      setToken.removeComponent call component
    else pure setToken
  else pure setToken

def editDefaultPosition (call : Call) (component : Address) (newUnit : Nat)
    (setToken : SetToken) : Outcome SetToken := do
  let isPositionFound ← hasDefaultPosition setToken component
  let tracked ← trackDefaultPosition call component isPositionFound newUnit setToken
  let unit ← SafeCast.toInt256 newUnit
  tracked.editDefaultPositionUnit call component unit

/-- The component and module lists as an external position is opened. -/
def trackExternalPosition (call : Call) (component module : Address) (setToken : SetToken) :
    Outcome SetToken :=
  if setToken.isComponent component = false then do
    let added ← setToken.addComponent call component
    added.addExternalPositionModule call component module
  else if setToken.isExternalPositionModule component module = false then
    setToken.addExternalPositionModule call component module
  else pure setToken

/-- The component list as an external position is closed. -/
def untrackExternalPosition (call : Call) (component module : Address) (defaultUnit : Int)
    (setToken : SetToken) : Outcome SetToken :=
  let positionModules := setToken.externalPositionModules component
  if defaultUnit = 0 ∧ positionModules.length = 1 then do
    require (positionModules.head? = some module)
      "External positions must be 0 to remove component"
    setToken.removeComponent call component
  else pure setToken

def editExternalPosition (call : Call) (component module : Address) (newUnit : Int)
    (data : Bytes) (setToken : SetToken) : Outcome SetToken :=
  if newUnit ≠ 0 then do
    let tracked ← trackExternalPosition call component module setToken
    let edited ← tracked.editExternalPositionUnit call component module newUnit
    edited.editExternalPositionData call component module data
  else do
    require (data.length = 0) "Passed data must be null"
    let currentUnit ← setToken.getExternalPositionRealUnit component module
    if currentUnit ≠ 0 then do
      let defaultUnit ← setToken.getDefaultPositionRealUnit component
      let untracked ← untrackExternalPosition call component module defaultUnit setToken
      untracked.removeExternalPositionModule call component module
    else pure setToken

def getDefaultTotalNotional (setTokenSupply positionUnit : Nat) : Outcome Nat :=
  preciseMul setTokenSupply positionUnit

def getDefaultPositionUnit (setTokenSupply totalNotional : Nat) : Outcome Nat :=
  preciseDiv totalNotional setTokenSupply

def hasSufficientDefaultUnits (setToken : SetToken) (component : Address) (unit : Nat) :
    Outcome Bool := do
  let realUnit ← setToken.getDefaultPositionRealUnit component
  let required ← SafeCast.toInt256 unit
  pure (decide (required ≤ realUnit))

/-- The part of the balance that the default position accounts for. -/
def getDefaultTrackedBalance (setToken : SetToken) (component : Address) : Outcome Nat := do
  let positionUnit ← setToken.getDefaultPositionRealUnit component
  let unit ← SafeCast.toUint256 positionUnit
  preciseMul setToken.totalSupply unit

def calculateDefaultEditPositionUnit
    (setTokenSupply preTotalNotional postTotalNotional prePositionUnit : Nat) : Outcome Nat := do
  let tracked ← preciseMul prePositionUnit setTokenSupply
  let airdroppedAmount ← SafeMath.sub preTotalNotional tracked
  let remaining ← SafeMath.sub postTotalNotional airdroppedAmount
  preciseDiv remaining setTokenSupply

/-! ### The edits, inverted -/

section Inversion

variable {setToken tracked edited : SetToken} {call : Call} {component : Address}

/-- Opening a default position lists the component, closing the last position of a
component unlists it, and nothing but the component list changes. -/
theorem trackDefaultPosition_eq_ok {found : Bool} {newUnit : Nat}
    (returned : trackDefaultPosition call component found newUnit setToken =
      .ok tracked) :
    ∃ components, tracked = { setToken with components := components } := by
  unfold trackDefaultPosition at returned
  split at returned
  · split at returned
    · exact ⟨_, (SetToken.addComponent_eq_ok returned).2.2⟩
    · exact ⟨_, ((pure_eq_ok _ _).mp returned).symm⟩
  · split at returned
    · split at returned
      · obtain ⟨_, components, _, rfl⟩ := SetToken.removeComponent_eq_ok returned
        exact ⟨components, rfl⟩
      · exact ⟨_, ((pure_eq_ok _ _).mp returned).symm⟩
    · exact ⟨_, ((pure_eq_ok _ _).mp returned).symm⟩

theorem hasExternalPosition_eq_false :
    hasExternalPosition setToken component = false ↔
      (setToken.componentPositions component).externalPositionModules = [] := by
  unfold hasExternalPosition SetToken.externalPositionModules
  rw [decide_eq_false_iff_not, List.length_pos_iff, not_not]

/-- A successful edit stores the virtual unit of the new real unit and changes nothing else
but the component list. -/
theorem editDefaultPosition_eq_ok {newUnit : Nat}
    (returned : editDefaultPosition call component newUnit setToken = .ok edited) :
    ∃ found components virtualUnit,
      hasDefaultPosition setToken component = .ok found ∧
      trackDefaultPosition call component found newUnit setToken =
        .ok { setToken with components := components } ∧
      newUnit < 2 ^ 255 ∧ setToken.convertRealToVirtualUnit newUnit = .ok virtualUnit ∧
      edited = SetToken.editComponent { setToken with components := components } component
        fun position => { position with virtualUnit := virtualUnit } := by
  simp only [editDefaultPosition, bind_eq_ok, SafeCast.toInt256_eq_ok] at returned
  obtain ⟨found, search, tracked, listed, _, ⟨bound, rfl⟩, stored⟩ := returned
  obtain ⟨components, rfl⟩ := trackDefaultPosition_eq_ok listed
  obtain ⟨_, virtualUnit, converted, rfl⟩ := SetToken.editDefaultPositionUnit_eq_ok stored
  exact ⟨found, components, virtualUnit, search, listed, bound, converted, rfl⟩

/-- The other components stay listed as they were, and no component is listed twice. -/
theorem trackDefaultPosition_components {found : Bool} {newUnit : Nat}
    (returned : trackDefaultPosition call component found newUnit setToken = .ok tracked) :
    (setToken.components.Nodup → tracked.components.Nodup) ∧
      ∀ other, other ≠ component →
        (other ∈ tracked.components ↔ other ∈ setToken.components) := by
  have unchanged : pure setToken = Except.ok (ε := String) tracked →
      (setToken.components.Nodup → tracked.components.Nodup) ∧
        ∀ other, other ≠ component →
          (other ∈ tracked.components ↔ other ∈ setToken.components) := by
    intro returned
    obtain rfl := (pure_eq_ok _ _).mp returned
    exact ⟨id, fun _ _ => Iff.rfl⟩
  unfold trackDefaultPosition at returned
  split at returned
  · split at returned
    · obtain ⟨_, fresh, rfl⟩ := SetToken.addComponent_eq_ok returned
      refine ⟨fun nodup => ?_, fun other different => ?_⟩
      · exact List.nodup_append.mpr ⟨nodup, List.nodup_singleton _, fun present member added equal
          same => fresh (List.mem_singleton.mp equal ▸ same ▸ member)⟩
      · rw [List.mem_append, List.mem_singleton, or_iff_left different]
    · exact unchanged returned
  · split at returned
    · split at returned
      · obtain ⟨_, components, erased, rfl⟩ := SetToken.removeComponent_eq_ok returned
        refine ⟨fun nodup => erased.nodup_iff.mpr (nodup.erase _), fun other different => ?_⟩
        exact erased.mem_iff.trans (List.mem_erase_of_ne different)
      · exact unchanged returned
    · exact unchanged returned

/-- The virtual unit that is stored is the unit converted at the multiplier. -/
theorem editDefaultPosition_converted {newUnit : Nat}
    (returned : editDefaultPosition call component newUnit setToken = .ok edited) :
    edited.positionMultiplier = setToken.positionMultiplier ∧
      setToken.convertRealToVirtualUnit newUnit =
        .ok (edited.defaultPositionVirtualUnit component) := by
  obtain ⟨_, components, virtualUnit, _, _, _, converted, rfl⟩ := editDefaultPosition_eq_ok returned
  refine ⟨rfl, ?_⟩
  unfold SetToken.defaultPositionVirtualUnit
  rw [SetToken.editComponent_self]
  exact converted

/-- The unit read back is the one that was written, divided by the multiplier and multiplied by
it again. -/
theorem editDefaultPosition_realUnit {newUnit : Nat} (positive : 0 < setToken.positionMultiplier)
    (returned : editDefaultPosition call component newUnit setToken = .ok edited) :
    edited.defaultRealUnit component =
      newUnit * preciseUnit / setToken.positionMultiplier * setToken.positionMultiplier /
        preciseUnit := by
  obtain ⟨multiplier, converted⟩ := editDefaultPosition_converted returned
  obtain ⟨_, quotient, _⟩ := SetToken.convertRealToVirtualUnit_eq_ok positive converted
  unfold SetToken.defaultRealUnit SetToken.realUnit
  rw [multiplier, quotient]

/-- A written real unit reads back as at most itself, and nothing is known of the other
positions but that they are unchanged. -/
theorem editDefaultPosition_unit {newUnit : Nat} (positive : 0 < setToken.positionMultiplier)
    (returned : editDefaultPosition call component newUnit setToken = .ok edited) :
    (∃ components positions, edited = { setToken with
      components := components
      componentPositions := positions }) ∧
    0 ≤ edited.defaultRealUnit component ∧ edited.defaultRealUnit component ≤ newUnit ∧
    ∀ other, other ≠ component →
      edited.componentPositions other = setToken.componentPositions other := by
  obtain ⟨_, components, _, _, _, _, _, written⟩ := editDefaultPosition_eq_ok returned
  have stored := editDefaultPosition_realUnit positive returned
  refine ⟨⟨components, _, written⟩, ?_, ?_, fun other different => ?_⟩
  · rw [stored]
    exact Rounding.ediv_mul_ediv_nonneg preciseUnit_int_pos positive (Int.natCast_nonneg _)
  · rw [stored]
    exact Rounding.ediv_mul_ediv_le preciseUnit_int_pos positive _
  · rw [written]
    exact SetToken.editComponent_other _ _ _ different

/-- Where the multiplier is at most one, a written real unit reads back at most one below
itself, a positive one as positive, and it can be read. -/
theorem editDefaultPosition_unit_lower {newUnit : Nat}
    (positive : 0 < setToken.positionMultiplier)
    (bounded : setToken.positionMultiplier ≤ preciseUnit)
    (returned : editDefaultPosition call component newUnit setToken = .ok edited) :
    (newUnit : Int) ≤ edited.defaultRealUnit component + 1 ∧
    (0 < newUnit → 0 < edited.defaultRealUnit component) ∧
    FitsInt256 (edited.defaultPositionVirtualUnit component * edited.positionMultiplier) := by
  obtain ⟨multiplier, converted⟩ := editDefaultPosition_converted returned
  obtain ⟨fits, quotient, restored⟩ := SetToken.convertRealToVirtualUnit_eq_ok positive converted
  refine ⟨?_, fun some => ?_, ?_⟩
  · have least := Rounding.le_ediv_mul_ediv_add preciseUnit_int_pos positive (newUnit : Int)
    rw [← editDefaultPosition_realUnit positive returned] at least
    have lost : (setToken.positionMultiplier + preciseUnit - 1) / preciseUnit < 2 :=
      Int.ediv_lt_of_lt_mul preciseUnit_int_pos (by linarith)
    omega
  · unfold SetToken.defaultRealUnit SetToken.realUnit
    rw [multiplier]
    exact restored (Int.natCast_pos.mpr some)
  · rw [multiplier, quotient]
    exact SetToken.fits_of_converted positive (Int.natCast_nonneg _) fits

/-- Two Sets that differ at most in their components and stored positions. -/
def OnlyPositions (setToken other : SetToken) : Prop :=
  ∃ components positions, other =
    { setToken with components := components, componentPositions := positions }

theorem OnlyPositions.trans (first : OnlyPositions setToken tracked)
    (second : OnlyPositions tracked edited) : OnlyPositions setToken edited := by
  obtain ⟨_, _, rfl⟩ := first
  obtain ⟨_, _, rfl⟩ := second
  exact ⟨_, _, rfl⟩

/-! ### What an edit leaves alone -/

/-- Two Sets that differ at most in the positions of the components in a set and in whether
these are listed. -/
structure EditsOnly (touched : Set Address) (setToken other : SetToken) : Prop where
  only : OnlyPositions setToken other
  positions : ∀ component, component ∉ touched →
    other.componentPositions component = setToken.componentPositions component
  listed : ∀ component, component ∉ touched →
    (component ∈ other.components ↔ component ∈ setToken.components)

theorem EditsOnly.refl (touched : Set Address) (setToken : SetToken) :
    EditsOnly touched setToken setToken :=
  ⟨⟨_, _, rfl⟩, fun _ _ => rfl, fun _ _ => Iff.rfl⟩

theorem EditsOnly.trans {touched : Set Address} (first : EditsOnly touched setToken tracked)
    (second : EditsOnly touched tracked edited) : EditsOnly touched setToken edited where
  only := first.only.trans second.only
  positions := fun component apart =>
    (second.positions component apart).trans (first.positions component apart)
  listed := fun component apart =>
    (second.listed component apart).trans (first.listed component apart)

theorem EditsOnly.mono {touched larger : Set Address} (contained : touched ⊆ larger)
    (edits : EditsOnly touched setToken edited) : EditsOnly larger setToken edited where
  only := edits.only
  positions := fun component apart => edits.positions component fun member =>
    apart (contained member)
  listed := fun component apart => edits.listed component fun member => apart (contained member)

theorem EditsOnly.positionMultiplier {touched : Set Address}
    (edits : EditsOnly touched setToken edited) :
    edited.positionMultiplier = setToken.positionMultiplier := by
  obtain ⟨_, _, rfl⟩ := edits.only
  rfl

/-- An edit of the stored position of one component. -/
theorem editsOnly_editComponent (setToken : SetToken) (component : Address)
    (edit : ComponentPosition → ComponentPosition) :
    EditsOnly {component} setToken (setToken.editComponent component edit) :=
  ⟨⟨_, _, rfl⟩, fun _ apart => SetToken.editComponent_other _ _ _ apart, fun _ _ => Iff.rfl⟩

/-- A change of the list that keeps the other components. -/
theorem editsOnly_components {components : List Address}
    (kept : ∀ other, other ≠ component → (other ∈ components ↔ other ∈ setToken.components)) :
    EditsOnly {component} setToken { setToken with components := components } :=
  ⟨⟨_, _, rfl⟩, fun _ _ => rfl, kept⟩

theorem addComponent_editsOnly
    (returned : setToken.addComponent call component = .ok tracked) :
    EditsOnly {component} setToken tracked := by
  obtain ⟨_, _, rfl⟩ := SetToken.addComponent_eq_ok returned
  refine editsOnly_components fun other different => ?_
  rw [List.mem_append, List.mem_singleton, or_iff_left different]

theorem removeComponent_editsOnly
    (returned : setToken.removeComponent call component = .ok tracked) :
    EditsOnly {component} setToken tracked := by
  obtain ⟨_, components, erased, rfl⟩ := SetToken.removeComponent_eq_ok returned
  exact editsOnly_components fun other different =>
    erased.mem_iff.trans (List.mem_erase_of_ne different)

theorem editDefaultPosition_editsOnly {newUnit : Nat}
    (returned : editDefaultPosition call component newUnit setToken = .ok edited) :
    EditsOnly {component} setToken edited := by
  obtain ⟨_, _, _, _, listed, _, _, rfl⟩ := editDefaultPosition_eq_ok returned
  refine EditsOnly.trans ?_ (editsOnly_editComponent _ _ _)
  exact editsOnly_components (trackDefaultPosition_components listed).2

/-- Opening an external position leaves the stored units alone. -/
theorem trackExternalPosition_editsOnly {module : Address}
    (returned : trackExternalPosition call component module setToken = .ok tracked) :
    EditsOnly {component} setToken tracked ∧
      (tracked.componentPositions component).virtualUnit =
        (setToken.componentPositions component).virtualUnit := by
  unfold trackExternalPosition at returned
  split at returned
  · rw [bind_eq_ok] at returned
    obtain ⟨added, listed, extended⟩ := returned
    obtain ⟨_, _, rfl⟩ := SetToken.addExternalPositionModule_eq_ok extended
    refine ⟨(addComponent_editsOnly listed).trans (editsOnly_editComponent _ _ _), ?_⟩
    obtain ⟨_, _, rfl⟩ := SetToken.addComponent_eq_ok listed
    rw [SetToken.editComponent_self]
  · split at returned
    · obtain ⟨_, _, rfl⟩ := SetToken.addExternalPositionModule_eq_ok returned
      exact ⟨editsOnly_editComponent _ _ _, by rw [SetToken.editComponent_self]⟩
    · obtain rfl := (pure_eq_ok _ _).mp returned
      exact ⟨EditsOnly.refl _ _, rfl⟩

theorem untrackExternalPosition_editsOnly {module : Address} {defaultUnit : Int}
    (returned : untrackExternalPosition call component module defaultUnit setToken =
      .ok tracked) :
    EditsOnly {component} setToken tracked ∧
      (tracked.componentPositions component).virtualUnit =
        (setToken.componentPositions component).virtualUnit := by
  unfold untrackExternalPosition at returned
  dsimp only at returned
  split at returned
  · rw [bind_eq_ok] at returned
    obtain ⟨_, _, removed⟩ := returned
    refine ⟨removeComponent_editsOnly removed, ?_⟩
    obtain ⟨_, _, _, rfl⟩ := SetToken.removeComponent_eq_ok removed
    rfl
  · obtain rfl := (pure_eq_ok _ _).mp returned
    exact ⟨EditsOnly.refl _ _, rfl⟩

/-- An edit of an external position touches only its component and not the default unit, and the
unit it leaves is the one that was written. -/
theorem editExternalPosition_editsOnly {module : Address} {newUnit : Int} {data : Bytes}
    (returned : editExternalPosition call component module newUnit data setToken = .ok edited) :
    EditsOnly {component} setToken edited ∧
      (edited.componentPositions component).virtualUnit =
        (setToken.componentPositions component).virtualUnit ∧
      (newUnit ≠ 0 → setToken.convertRealToVirtualUnit newUnit =
        .ok (edited.externalPositionVirtualUnit component module)) ∧
      (newUnit = 0 → edited.externalRealUnit component module = 0) := by
  unfold editExternalPosition at returned
  split at returned
  · rename_i nonzero
    simp only [bind_eq_ok] at returned
    obtain ⟨_, listed, _, unit, extra⟩ := returned
    obtain ⟨opened, default⟩ := trackExternalPosition_editsOnly listed
    obtain ⟨_, virtualUnit, converted, rfl⟩ := SetToken.editExternalPositionUnit_eq_ok unit
    obtain ⟨_, rfl⟩ := SetToken.editExternalPositionData_eq_ok extra
    refine ⟨(opened.trans (editsOnly_editComponent _ _ _)).trans (editsOnly_editComponent _ _ _),
      ?_, fun _ => ?_, fun zero => absurd zero nonzero⟩
    · rw [SetToken.editComponent_self, SetToken.editComponent_self, default]
    · obtain ⟨_, _, rfl⟩ := opened.only
      unfold SetToken.externalPositionVirtualUnit
      rw [SetToken.editComponent_self, SetToken.editComponent_self]
      simp only [Function.update_self]
      exact converted
  · rename_i zero
    refine ⟨?_, ?_, fun nonzero => absurd nonzero zero, fun _ => ?_⟩
    all_goals
      simp only [bind_eq_ok] at returned
      obtain ⟨_, _, _, read, returned⟩ := returned
      split at returned
    · simp only [bind_eq_ok] at returned
      obtain ⟨_, _, _, unlisted, removed⟩ := returned
      obtain ⟨_, _, _, _, rfl⟩ := SetToken.removeExternalPositionModule_eq_ok removed
      exact (untrackExternalPosition_editsOnly unlisted).1.trans (editsOnly_editComponent _ _ _)
    · obtain rfl := (pure_eq_ok _ _).mp returned
      exact EditsOnly.refl _ _
    · simp only [bind_eq_ok] at returned
      obtain ⟨_, _, _, unlisted, removed⟩ := returned
      obtain ⟨_, _, _, _, rfl⟩ := SetToken.removeExternalPositionModule_eq_ok removed
      rw [SetToken.editComponent_self, (untrackExternalPosition_editsOnly unlisted).2]
    · obtain rfl := (pure_eq_ok _ _).mp returned
      rfl
    · simp only [bind_eq_ok] at returned
      obtain ⟨_, _, _, _, removed⟩ := returned
      obtain ⟨_, _, _, _, rfl⟩ := SetToken.removeExternalPositionModule_eq_ok removed
      unfold SetToken.externalRealUnit SetToken.externalPositionVirtualUnit SetToken.realUnit
      rw [SetToken.editComponent_self]
      simp
    · rename_i closed
      obtain rfl := (pure_eq_ok _ _).mp returned
      obtain ⟨_, same⟩ := (SetToken.getExternalPositionRealUnit_eq_ok _ _ _).mp read
      exact same.trans (not_not.mp closed)

/-! ### The unit computed from a balance -/

/-- The new unit spreads what is left of the balance after the untracked surplus over the
supply. -/
theorem calculateDefaultEditPositionUnit_eq_ok {supply before after unit newUnit : Nat}
    (returned : calculateDefaultEditPositionUnit supply before after unit = .ok newUnit) :
    Rounding.mulFloor preciseUnit unit supply ≤ before ∧
      before - Rounding.mulFloor preciseUnit unit supply ≤ after ∧ 0 < supply ∧
        (after - (before - Rounding.mulFloor preciseUnit unit supply)) * preciseUnit / supply =
          newUnit := by
  simp only [calculateDefaultEditPositionUnit, bind_eq_ok, preciseMul_eq_ok, SafeMath.sub_eq_ok,
    preciseDiv_eq_ok] at returned
  obtain ⟨_, ⟨_, rfl⟩, _, ⟨tracked, rfl⟩, _, ⟨surplus, rfl⟩, _, supplied, unit⟩ := returned
  exact ⟨tracked, surplus, supplied, unit⟩

end Inversion

end Position

end IndexProtocol

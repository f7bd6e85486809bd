/-
This file models the module that issues and redeems a Set against its default
positions. Issuance rounds every component quantity up and redemption rounds it
down. The manager's hook runs after the checks of an issuance and before the
quantities are computed, so the issuance is modelled in two parts.
-/

import IndexProtocol.Protocol.ModuleBase

namespace IndexProtocol

open Revert PreciseUnitMath

/-- The module's storage for one Set. -/
structure BasicIssuanceModule where
  address : Address
  managerIssuanceHook : Address

namespace BasicIssuanceModule

def requiredUnitForIssue (quantity : Nat) (setToken : SetToken) (component : Address) :
    Outcome Nat := do
  require (Position.hasExternalPosition setToken component = false)
    "Only default positions are supported"
  let realUnit ← setToken.getDefaultPositionRealUnit component
  let unit ← SafeCast.toUint256 realUnit
  preciseMulCeil unit quantity

def getRequiredComponentUnitsForIssue (module : BasicIssuanceModule) (quantity : Nat)
    (world : World) : Outcome (List Address × List Nat) := do
  ModuleBase.validateOnlyValidAndInitializedSet module.address world
  let notionalUnits ← world.setToken.components.mapM
    (requiredUnitForIssue quantity world.setToken)
  pure (world.setToken.components, notionalUnits)

/-- The checks before the manager's hook. -/
def validateIssue (module : BasicIssuanceModule) (quantity : Nat) (world : World) :
    Outcome Unit := do
  ModuleBase.validateOnlyValidAndInitializedSet module.address world
  require (0 < quantity) "Issue quantity must be > 0"

/-- Transfer in one component. -/
def collect (module : BasicIssuanceModule) (msgSender : Address) (world : World)
    (component : Address × Nat) : Outcome World :=
  world.explicitTransferFrom module.address component.1 msgSender world.setToken.address
    component.2

/-- The issuance after the manager's hook. -/
def completeIssue (module : BasicIssuanceModule) (msgSender : Address) (quantity : Nat)
    (recipient : Address) (world : World) : Outcome World := do
  let (components, componentQuantities) ←
    module.getRequiredComponentUnitsForIssue quantity world
  let collected ← (components.zip componentQuantities).foldlM (module.collect msgSender) world
  collected.callSetToken (SetToken.mint ⟨collected.controller, module.address⟩ recipient quantity)

/-- Transfer out one component. -/
def release (module : BasicIssuanceModule) (quantity : Nat) (recipient : Address) (world : World)
    (component : Address) : Outcome World := do
  require (Position.hasExternalPosition world.setToken component = false)
    "Only default positions are supported"
  let realUnit ← world.setToken.getDefaultPositionRealUnit component
  let unit ← SafeCast.toUint256 realUnit
  let componentQuantity ← preciseMul quantity unit
  world.strictInvokeTransfer module.address component recipient componentQuantity

def redeem (module : BasicIssuanceModule) (msgSender : Address) (quantity : Nat)
    (recipient : Address) (world : World) : Outcome World := do
  ModuleBase.validateOnlyValidAndInitializedSet module.address world
  require (0 < quantity) "Redeem quantity must be > 0"
  let burned ← world.callSetToken
    (SetToken.burn ⟨world.controller, module.address⟩ msgSender quantity)
  burned.setToken.components.foldlM (module.release quantity recipient) burned

/-- The module's `initialize`, called by the manager. -/
def initializeSet (module : BasicIssuanceModule) (msgSender preIssueHook : Address)
    (world : World) : Outcome (BasicIssuanceModule × World) := do
  ModuleBase.validateOnlySetManager msgSender world
  ModuleBase.validateOnlyValidAndPendingSet module.address world
  let initialized ← world.callSetToken
    (SetToken.initializeModule ⟨world.controller, module.address⟩)
  pure ({ module with managerIssuanceHook := preIssueHook }, initialized)

def removeModule : Outcome BasicIssuanceModule :=
  .error "The BasicIssuanceModule module cannot be removed"

/-! ### What the calls change -/

section Effects

variable {module : BasicIssuanceModule} {world after : World} {msgSender recipient : Address}
  {quantity : Nat}

theorem requiredUnitForIssue_eq_ok {setToken : SetToken} {component : Address} {amount : Nat}
    (returned : requiredUnitForIssue quantity setToken component = .ok amount) :
    ∃ unit : Nat, setToken.defaultRealUnit component = unit ∧
      amount = Rounding.mulCeil preciseUnit unit quantity := by
  simp only [requiredUnitForIssue, bind_eq_ok, SetToken.getDefaultPositionRealUnit_eq_ok,
    SafeCast.toUint256_eq_ok, preciseMulCeil_eq_ok] at returned
  obtain ⟨_, _, _, ⟨_, rfl⟩, unit, read, _, rfl⟩ := returned
  exact ⟨unit, read, rfl⟩

/-- Every component is charged its quantity, and nothing the Set holds decreases. -/
theorem collect_loop (entries : List (Address × Nat)) :
    ∀ world : World, entries.foldlM (module.collect msgSender) world = .ok after →
      World.OnlyBalances world after ∧ (∀ token, world.held token ≤ after.held token) ∧
        ∀ entry ∈ entries, world.held entry.1 + entry.2 ≤ after.held entry.1 := by
  induction entries with
  | nil =>
    intro world returned
    obtain rfl := (pure_eq_ok _ _).mp returned
    exact ⟨World.OnlyBalances.refl _, fun _ => le_rfl, fun _ member =>
      absurd member List.not_mem_nil⟩
  | cons entry rest inductionHypothesis =>
    intro world returned
    rw [List.foldlM_cons, bind_eq_ok] at returned
    obtain ⟨collected, first, remaining⟩ := returned
    obtain ⟨firstOnly, firstHeld⟩ := World.explicitTransferFrom_eq_ok first
    obtain ⟨restOnly, restMore, restEach⟩ := inductionHypothesis collected remaining
    have more : ∀ token, world.held token ≤ collected.held token := by
      rw [firstHeld]
      exact ERC20.le_credited world.held entry.1 entry.2
    refine ⟨firstOnly.trans restOnly, fun token => (more token).trans (restMore token), ?_⟩
    intro other member
    rcases List.mem_cons.mp member with rfl | member
    · have paid : collected.held other.1 = world.held other.1 + other.2 := by
        rw [firstHeld, Function.update_self]
      exact paid ▸ restMore other.1
    · exact (Nat.add_le_add_right (more other.1) _).trans (restEach other member)

/-- A completed issuance charges every component at least its share, and mints the quantity. -/
theorem completeIssue_eq_ok
    (returned : module.completeIssue msgSender quantity recipient world = .ok after) :
    ∃ collected, World.OnlyBalances world collected ∧
      (∀ component ∈ world.setToken.components, ∃ unit : Nat,
        world.setToken.defaultRealUnit component = unit ∧
          world.held component + Rounding.mulCeil preciseUnit unit quantity ≤
            collected.held component) ∧
      collected.setToken.mint ⟨collected.controller, module.address⟩ recipient quantity =
        .ok after.setToken ∧
      after = { collected with setToken := after.setToken } := by
  simp only [completeIssue, getRequiredComponentUnitsForIssue, bind_eq_ok, pure_eq_ok,
    Prod.exists, Prod.mk.injEq] at returned
  obtain ⟨_, quantities, ⟨_, _, _, computed, rfl, rfl⟩, collected, collecting, minting⟩ := returned
  obtain ⟨minted, stored⟩ := World.callSetToken_eq_ok minting
  obtain ⟨only, _, each⟩ := collect_loop _ world collecting
  refine ⟨collected, only, fun component member => ?_, minted, stored⟩
  obtain ⟨amount, required, listed⟩ := exists_mem_zip (mapM_eq_ok _ _ _ computed) component member
  obtain ⟨unit, read, rfl⟩ := requiredUnitForIssue_eq_ok required
  exact ⟨unit, read, each _ listed⟩

theorem release_eq_ok {component : Address}
    (returned : module.release quantity recipient world component = .ok after) :
    World.OnlyBalances world after ∧ ∃ unit : Nat,
      world.setToken.defaultRealUnit component = unit ∧
        Rounding.mulFloor preciseUnit quantity unit ≤ world.held component ∧
          after.held = Function.update world.held component
            (world.held component - Rounding.mulFloor preciseUnit quantity unit) := by
  simp only [release, bind_eq_ok, SetToken.getDefaultPositionRealUnit_eq_ok,
    SafeCast.toUint256_eq_ok, preciseMul_eq_ok] at returned
  obtain ⟨_, _, _, ⟨_, rfl⟩, unit, read, _, ⟨_, rfl⟩, sent⟩ := returned
  obtain ⟨only, enough, held⟩ := World.strictInvokeTransfer_eq_ok sent
  exact ⟨only, unit, read, enough, held⟩

/-- Every component of a list without duplicates is paid out at most its share, and nothing
else the Set holds changes. -/
theorem release_loop (components : List Address) (nodup : components.Nodup) :
    ∀ world : World, components.foldlM (module.release quantity recipient) world = .ok after →
      World.OnlyBalances world after ∧
      (∀ token, token ∉ components → after.held token = world.held token) ∧
      ∀ component ∈ components, ∃ unit : Nat,
        world.setToken.defaultRealUnit component = unit ∧
          world.held component ≤
            after.held component + Rounding.mulFloor preciseUnit quantity unit := by
  induction components with
  | nil =>
    intro world returned
    obtain rfl := (pure_eq_ok _ _).mp returned
    exact ⟨World.OnlyBalances.refl _, fun _ _ => rfl, fun _ member =>
      absurd member List.not_mem_nil⟩
  | cons component rest inductionHypothesis =>
    intro world returned
    rw [List.foldlM_cons, bind_eq_ok] at returned
    obtain ⟨released, first, remaining⟩ := returned
    rw [List.nodup_cons] at nodup
    obtain ⟨firstOnly, unit, read, enough, firstHeld⟩ := release_eq_ok first
    obtain ⟨restOnly, restSame, restEach⟩ := inductionHypothesis nodup.2 released remaining
    refine ⟨firstOnly.trans restOnly, fun token absent => ?_, fun other member => ?_⟩
    · rw [List.mem_cons, not_or] at absent
      rw [restSame token absent.2, firstHeld, Function.update_of_ne absent.1]
    · rcases List.mem_cons.mp member with rfl | member
      · refine ⟨unit, read, ?_⟩
        rw [restSame other nodup.1, firstHeld, Function.update_self, Nat.sub_add_cancel enough]
      · obtain ⟨otherUnit, otherRead, otherHeld⟩ := restEach other member
        have different : other ≠ component := fun same => nodup.1 (same ▸ member)
        rw [firstHeld, Function.update_of_ne different] at otherHeld
        rw [firstOnly.defaultRealUnit] at otherRead
        exact ⟨otherUnit, otherRead, otherHeld⟩

/-- A redemption burns the quantity and pays out at most its share of every component. -/
theorem redeem_eq_ok (nodup : world.setToken.components.Nodup)
    (returned : module.redeem msgSender quantity recipient world = .ok after) :
    ∃ burned : World,
      world.setToken.burn ⟨world.controller, module.address⟩ msgSender quantity =
        .ok burned.setToken ∧
      burned = { world with setToken := burned.setToken } ∧
      World.OnlyBalances burned after ∧
      ∀ component ∈ world.setToken.components, ∃ unit : Nat,
        world.setToken.defaultRealUnit component = unit ∧
          burned.held component ≤
            after.held component + Rounding.mulFloor preciseUnit quantity unit := by
  simp only [redeem, bind_eq_ok] at returned
  obtain ⟨_, _, _, _, burned, burning, releasing⟩ := returned
  obtain ⟨called, stored⟩ := World.callSetToken_eq_ok burning
  obtain ⟨_, _, written⟩ := SetToken.burn_eq_ok called
  have components : burned.setToken.components = world.setToken.components := by rw [written]
  obtain ⟨only, _, each⟩ := release_loop _ (components ▸ nodup) burned releasing
  refine ⟨burned, called, stored, only, fun component member => ?_⟩
  obtain ⟨unit, read, held⟩ := each component (components ▸ member)
  refine ⟨unit, ?_, held⟩
  rw [← read, written]
  rfl

end Effects

/-- Adding the module to a Set changes nothing of the Set but the module's state. -/
theorem initializeSet_eq_ok {module next : BasicIssuanceModule}
    {msgSender preIssueHook : Address} {world after : World}
    (returned : module.initializeSet msgSender preIssueHook world = .ok (next, after)) :
    world.setToken.moduleStates module.address = .pending ∧ next.address = module.address ∧
      ∃ modules, after = { world with setToken := { world.setToken with
        moduleStates := Function.update world.setToken.moduleStates module.address .initialized
        modules := modules } } := by
  simp only [initializeSet, bind_eq_ok, pure_eq_ok, Prod.mk.injEq] at returned
  obtain ⟨_, _, _, _, _, initialized, rfl, rfl⟩ := returned
  obtain ⟨_, pending, stored⟩ := World.callSetToken_initializeModule_eq_ok initialized
  exact ⟨pending, rfl, _, stored⟩

end BasicIssuanceModule

end IndexProtocol

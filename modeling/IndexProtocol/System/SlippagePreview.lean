/-
This file proves when the order previewed off chain is the one that is executed,
for a Set whose external positions are all perpetual. Both are computed from the
same units and rounded alike, so what decides is the unit of the collateral. The
preview adds to it what the simulated trades change, but only if there are listed
base positions; the execution stores what the account is worth and reads it back,
but only if the Set has an external position in the collateral.
-/

import IndexProtocol.Modules.SlippageIssuanceCalls
import IndexProtocol.System.PerpBookkeeping

namespace IndexProtocol

open Revert PreciseUnitMath

namespace PerpV2LeverageModuleV2

variable {Ledger : Type} {perp : PerpV2 Ledger} {module next : PerpV2LeverageModuleV2}
  {execution after : PerpExecution Ledger} {setToken : SetToken}

/-- Writing at the index of one of distinct items is a case distinction on the item. -/
theorem set_map_of_nodup {items : List Address} (nodup : items.Nodup) {item : Address}
    {index : Nat} (found : items.idxOf? item = some index) (value rest : Int) :
    (items.map fun _ => rest).set index value =
      items.map fun other => if other = item then value else rest := by
  obtain ⟨bound, rfl, _⟩ := List.idxOf?_eq_some_iff.mp found
  refine List.ext_getElem (by simp) fun position inside _ => ?_
  rw [List.getElem_set, List.getElem_map, List.getElem_map]
  exact if_congr (eq_comm.trans nodup.getElem_inj_iff.symm) rfl rfl

/-- Of distinct components, the collateral is the one that is adjusted. -/
theorem formatAdjustments_eq_ok (nodup : setToken.components.Nodup) {newUnit : Int}
    {adjustments : List Int × List Int}
    (returned : module.formatAdjustments setToken newUnit = .ok adjustments) :
    adjustments =
      (setToken.components.map fun component => if component = module.collateralToken then
        newUnit - setToken.externalRealUnit module.collateralToken module.address else 0,
       setToken.components.map fun _ => 0) := by
  simp only [formatAdjustments, bind_eq_ok, SetToken.getExternalPositionRealUnit_eq_ok] at returned
  obtain ⟨_, ⟨_, rfl⟩, returned⟩ := returned
  unfold PerpV2Positions.formatAdjustments at returned
  dsimp only at returned
  split at returned
  · rename_i index found
    simp only [bind_eq_ok, SignedSafeMath.sub_eq_ok, pure_eq_ok] at returned
    obtain ⟨_, ⟨_, rfl⟩, rfl⟩ := returned
    exact Prod.ext (set_map_of_nodup nodup found _ 0) rfl
  · rename_i absent
    obtain rfl := (pure_eq_ok _ _).mp returned
    refine Prod.ext (List.map_congr_left fun component listed => ?_) rfl
    refine (if_neg fun same => ?_).symm
    exact List.idxOf?_eq_none_iff.mp absent (same ▸ listed)

/-- What a written unit reads back as, rounded to a virtual unit and from it. -/
def storedUnit (setToken : SetToken) (unit : Int) : Int :=
  setToken.realUnit (unit * preciseUnit / setToken.positionMultiplier)

theorem storedUnit_nonneg {unit : Int} (multiplier : 0 < setToken.positionMultiplier)
    (nonneg : 0 ≤ unit) : 0 ≤ storedUnit setToken unit := by
  unfold storedUnit SetToken.realUnit
  have virtual : 0 ≤ unit * preciseUnit / setToken.positionMultiplier :=
    Int.ediv_nonneg (Int.mul_nonneg nonneg (Int.natCast_nonneg _)) multiplier.le
  exact Int.ediv_nonneg (Int.mul_nonneg virtual multiplier.le) (Int.natCast_nonneg _)

/-- What the account is worth a Set token, with the trades of an order. -/
def worthUnit (perp : PerpV2 Ledger) (setTokenQuantity : Nat) (isIssue : Bool)
    (execution : PerpExecution Ledger) (module : PerpV2LeverageModuleV2) : Int :=
  module.issuedUnit (module.realizedValue perp setTokenQuantity isIssue false execution)
    setTokenQuantity isIssue

/-- What the execution of an order counts for the account: what it is worth, read back from the
Set, where the Set has an external position in the collateral. -/
def keptUnit (perp : PerpV2 Ledger) (setTokenQuantity : Nat) (isIssue : Bool)
    (execution : PerpExecution Ledger) (module : PerpV2LeverageModuleV2) : Int :=
  if execution.world.setToken.externalPositionModules module.collateralToken = [] then 0
  else
    storedUnit execution.world.setToken
      (module.worthUnit perp setTokenQuantity isIssue execution)

/-- A written unit is read back as it is stored, and nothing else of the component changes. -/
theorem editExternalPositionUnit_stored {edited : SetToken} {call : Call}
    {component account : Address} {unit : Int} (multiplier : 0 < setToken.positionMultiplier)
    (returned : setToken.editExternalPositionUnit call component account unit = .ok edited) :
    edited.components = setToken.components ∧
    edited.externalPositionModules component = setToken.externalPositionModules component ∧
    edited.defaultRealUnit component = setToken.defaultRealUnit component ∧
    edited.externalRealUnit component account = storedUnit setToken unit := by
  obtain ⟨_, virtualUnit, converted, rfl⟩ := SetToken.editExternalPositionUnit_eq_ok returned
  obtain ⟨_, rounded, _⟩ := SetToken.convertRealToVirtualUnit_eq_ok multiplier converted
  refine ⟨rfl, ?_, ?_, ?_⟩
  · unfold SetToken.externalPositionModules
    rw [SetToken.editComponent_self]
  · unfold SetToken.defaultRealUnit SetToken.defaultPositionVirtualUnit
    rw [SetToken.editComponent_self]
    rfl
  · unfold SetToken.externalRealUnit SetToken.externalPositionVirtualUnit storedUnit
    rw [SetToken.editComponent_self]
    simp only [Function.update_self]
    rw [rounded]
    rfl

/-- Where the Set has an external position in the collateral, the hook stores what the account is
worth and leaves everything else of the collateral as it was. -/
theorem moduleHook_collateral {msgSender : Address} {setTokenQuantity : Nat} {isIssue : Bool}
    (supply : 0 < execution.world.setToken.totalSupply)
    (multiplier : 0 < execution.world.setToken.positionMultiplier)
    (returned : module.moduleHook perp msgSender setTokenQuantity isIssue execution =
      .ok (next, after)) :
    let setToken := execution.world.setToken
    let collateral := module.collateralToken
    let unit := module.worthUnit perp setTokenQuantity isIssue execution
    after.world.setToken.components = setToken.components ∧
    after.world.setToken.externalPositionModules collateral =
      setToken.externalPositionModules collateral ∧
    after.world.setToken.defaultRealUnit collateral = setToken.defaultRealUnit collateral ∧
    (setToken.externalPositionModules collateral ≠ [] →
      0 ≤ unit ∧ after.world.setToken.externalRealUnit collateral module.address =
        storedUnit setToken unit) := by
  rcases moduleHook_eq_ok returned with ⟨stops, rfl, rfl⟩ | ⟨_, unit, traded, executed, storing⟩
  · refine ⟨rfl, rfl, rfl, fun external => absurd ?_ stops⟩
    unfold hookProceeds Position.hasExternalPosition
    simp only [Bool.and_eq_true, decide_eq_true_eq]
    exact ⟨supply.ne', List.length_pos_iff.mpr external⟩
  · have issued := executePositionTrades_value executed
    have nonneg := (issuedPositionUnit_eq_ok issued).1
    obtain rfl := issuedPositionUnit_eq_issuedUnit issued
    obtain ⟨only, positions, rfl⟩ := executePositionTrades_onlyBalances executed
    have same := only.samePositions
    obtain ⟨called, _⟩ := PerpExecution.onWorld_eq_ok storing
    obtain ⟨components, modules, default, written⟩ := editExternalPositionUnit_stored
      (same.positionMultiplier ▸ multiplier) (World.callSetToken_eq_ok called).1
    refine ⟨components.trans same.components, ?_, ?_, fun _ => ⟨nonneg, ?_⟩⟩
    · rw [modules, same.externalPositionModules]
    · rw [default, same.defaultRealUnit]
    · rw [written]
      unfold storedUnit SetToken.realUnit
      rw [same.positionMultiplier]
      rfl

end PerpV2LeverageModuleV2

namespace SlippageIssuanceModule

open DebtIssuanceModule PerpV2LeverageModuleV2

variable {Ledger : Type}

/-! ### A Set with perpetual positions -/

/-- The module for perpetual positions at its account. -/
def perpHook (perp : PerpV2 Ledger) (account : Address) :
    IModuleIssuanceHookV2 (PerpV2LeverageModuleV2 × PerpExecution Ledger) where
  getIssuanceAdjustments quantity state := do
    require (state.1.address = account) "function call to a non-contract account"
    state.1.getIssuanceAdjustments perp quantity state.2
  getRedemptionAdjustments quantity state := do
    require (state.1.address = account) "function call to a non-contract account"
    state.1.getRedemptionAdjustments perp quantity state.2
  moduleIssueHook msgSender quantity state := do
    require (state.1.address = account) "function call to a non-contract account"
    state.1.moduleIssueHook perp msgSender quantity state.2
  moduleRedeemHook msgSender quantity state := do
    require (state.1.address = account) "function call to a non-contract account"
    state.1.moduleRedeemHook perp msgSender quantity state.2
  componentIssueHook msgSender quantity component isEquity state := do
    require (state.1.address = account) "function call to a non-contract account"
    state.1.keepingModule
      (state.1.componentIssueHook perp msgSender quantity component isEquity state.2)
  componentRedeemHook msgSender quantity component isEquity state := do
    require (state.1.address = account) "function call to a non-contract account"
    state.1.keepingModule
      (state.1.componentRedeemHook perp msgSender quantity component isEquity state.2)

/-- The contracts around the issuance module, with any hook of the manager. -/
def perpContracts (perp : PerpV2 Ledger)
    (invokePreIssueHook : Address → Nat → Address → Address →
      PerpV2LeverageModuleV2 × PerpExecution Ledger →
        Outcome (PerpV2LeverageModuleV2 × PerpExecution Ledger)) :
    IssuanceContracts (PerpV2LeverageModuleV2 × PerpExecution Ledger) where
  world state := state.2.world
  onWorld call state := state.1.keepingModule (state.2.onWorld call)
  hook := perpHook perp
  invokePreIssueHook := invokePreIssueHook

/-- A Set with a supply, in order, whose only registered module and only module with external
positions is the one for perpetual positions. -/
structure PerpOnly (module : DebtIssuanceModule)
    (state : PerpV2LeverageModuleV2 × PerpExecution Ledger) : Prop where
  supply : 0 < state.2.world.setToken.totalSupply
  multiplier : 0 < state.2.world.setToken.positionMultiplier
  components : state.2.world.setToken.components.Nodup
  registered : module.moduleIssuanceHooks = [state.1.address]
  external : ∀ component,
    state.2.world.setToken.externalPositionModules component = [] ∨
      state.2.world.setToken.externalPositionModules component = [state.1.address]

section Perp

variable {perp : PerpV2 Ledger}
  {invokePreIssueHook : Address → Nat → Address → Address →
    PerpV2LeverageModuleV2 × PerpExecution Ledger →
      Outcome (PerpV2LeverageModuleV2 × PerpExecution Ledger)}
  {module : DebtIssuanceModule} {state hooked next : PerpV2LeverageModuleV2 × PerpExecution Ledger}
  {quantity : Nat} {isIssue : Bool} {required previewed : ComponentValues}

/-- With one registered module, its hook is what runs before an order. -/
theorem computes_moduleHook (perpOnly : PerpOnly module state)
    (computes : Computes (perpContracts perp invokePreIssueHook) module isIssue quantity state
      hooked required) :
    state.1.moduleHook perp module.address (module.resolvedQuantity isIssue quantity) isIssue
      state.2 = .ok hooked := by
  obtain ⟨hooking, _⟩ := computes
  unfold callModulePreIssueHooks callModulePreRedeemHooks at hooking
  rw [perpOnly.registered] at hooking
  cases isIssue with
  | true =>
    simp only [if_true, List.foldlM_cons, List.foldlM_nil, bind_eq_ok, pure_eq_ok] at hooking
    obtain ⟨_, called, rfl⟩ := hooking
    simp only [perpContracts, perpHook, bind_eq_ok] at called
    obtain ⟨_, _, returned⟩ := called
    exact returned
  | false =>
    simp only [Bool.false_eq_true, if_false, List.foldlM_cons, List.foldlM_nil, bind_eq_ok,
      pure_eq_ok] at hooking
    obtain ⟨_, called, rfl⟩ := hooking
    simp only [perpContracts, perpHook, bind_eq_ok] at called
    obtain ⟨_, _, returned⟩ := called
    exact returned

/-- A burn leaves the positions as they are. -/
theorem burn_samePositions (call : Address)
    (before burned : PerpV2LeverageModuleV2 × PerpExecution Ledger)
    (returned : (perpContracts perp invokePreIssueHook).onWorld (fun world => world.callSetToken
      (SetToken.burn ⟨world.controller, module.address⟩ call quantity)) before = .ok burned) :
    SetToken.SamePositions ((perpContracts perp invokePreIssueHook).world before).setToken
      ((perpContracts perp invokePreIssueHook).world burned).setToken := by
  obtain ⟨_, burning⟩ := keepingModule_eq_ok returned
  obtain ⟨called, _⟩ := PerpExecution.onWorld_eq_ok burning
  obtain ⟨_, _, stored⟩ := SetToken.burn_eq_ok (World.callSetToken_eq_ok called).1
  simp only [perpContracts]
  rw [stored]
  exact ⟨rfl, rfl, rfl⟩

theorem previewOrder_eq_ok
    (returned : previewOrder (perpContracts perp invokePreIssueHook) isIssue quantity state module =
      .ok (previewed, next)) :
    getRequiredComponentUnitsOffChain (perpContracts perp invokePreIssueHook) quantity isIssue
      state module = .ok (previewed, next) := by
  unfold previewOrder at returned
  split at returned
  · rename_i issues
    exact issues ▸ returned
  · rename_i redeems
    rw [Bool.not_eq_true] at redeems
    exact redeems ▸ returned

/-- Asked for adjustments, the registered module answers from its own state. -/
theorem perpHook_getAdjustments {account : Address} {orderQuantity : Nat}
    {adjustments : List Int × List Int}
    (returned : (if isIssue then (perpHook perp account).getIssuanceAdjustments orderQuantity state
      else (perpHook perp account).getRedemptionAdjustments orderQuantity state) =
        .ok (adjustments, next)) :
    state.1.getAdjustments perp orderQuantity isIssue state.2 = .ok (adjustments, next) := by
  cases isIssue with
  | true =>
    simp only [if_true, perpHook, bind_eq_ok] at returned
    obtain ⟨_, _, answered⟩ := returned
    exact answered
  | false =>
    simp only [Bool.false_eq_true, if_false, perpHook, bind_eq_ok] at returned
    obtain ⟨_, _, answered⟩ := returned
    exact answered

/-- The preview of an order: the equity unit of the collateral is adjusted, the others are not. -/
theorem preview_eq_ok (perpOnly : PerpOnly module state)
    (returned : getRequiredComponentUnitsOffChain (perpContracts perp invokePreIssueHook) quantity
      isIssue state module = .ok (previewed, next)) :
    previewed = state.2.world.setToken.components.map fun component => (component,
      equityQuantity isIssue (equityUnit state.2.world.setToken component +
        if component = state.1.collateralToken then
          state.1.previewedUnit perp (module.resolvedQuantity isIssue quantity) isIssue state.2 -
            state.2.world.setToken.externalRealUnit state.1.collateralToken state.1.address
        else 0).toNat (module.resolvedQuantity isIssue quantity),
      LeverageHooks.notionalDebt isIssue (debtUnit state.2.world.setToken component)
        (module.resolvedQuantity isIssue quantity)) := by
  simp only [getRequiredComponentUnitsOffChain, calculateAdjustments, bind_eq_ok, Prod.exists,
    pure_eq_ok, Prod.mk.injEq] at returned
  obtain ⟨fees, charged, equity, debt, adjustedModule, adjusted, looped, required, computed, rfl,
    rfl⟩ := returned
  rw [totalQuantity_eq charged] at looped computed
  rw [perpOnly.registered] at looped
  simp only [List.foldlM_cons, List.foldlM_nil, bind_eq_ok, pure_eq_ok, cumulateAdjustments,
    Prod.exists, Prod.mk.injEq] at looped
  obtain ⟨_, _, _, _, ⟨_, _, _, _, asked, _, summedEquity, _, summedDebt, ⟨rfl, rfl⟩, rfl, rfl⟩,
    ⟨rfl, rfl⟩, rfl, rfl⟩ := looped
  obtain ⟨rfl, _, formatted⟩ := getAdjustments_eq_ok (perpHook_getAdjustments asked)
  have adjustments := formatAdjustments_eq_ok perpOnly.components formatted
  rw [Prod.mk.injEq] at adjustments
  obtain ⟨rfl, rfl⟩ := adjustments
  simp only [perpContracts] at summedEquity summedDebt computed
  rw [addAdjustments_map summedEquity, addAdjustments_map summedDebt] at computed
  simp only [zero_add] at computed
  exact calculateAdjusted_eq_ok computed

/-- The units of a component in which one account has an external position that is not debt. -/
theorem units_of_listed {setToken : SetToken} {component account : Address}
    (listed : setToken.externalPositionModules component = [account])
    (nonneg : 0 ≤ setToken.externalRealUnit component account) :
    equityUnit setToken component = (setToken.defaultRealUnit component +
        setToken.externalRealUnit component account).toNat ∧
      debtUnit setToken component = 0 := by
  unfold equityUnit debtUnit LeverageHooks.debtUnit
  rw [listed, List.map_singleton, List.sum_singleton, List.map_singleton, List.sum_singleton,
    max_eq_left nonneg]
  exact ⟨rfl, Int.toNat_of_nonpos (neg_nonpos.mpr nonneg)⟩

/-- What the collateral is worth after an order's hooks: its default unit and what the hook keeps
for the account, and no debt. -/
theorem hooked_units (perpOnly : PerpOnly module state)
    (computes : Computes (perpContracts perp invokePreIssueHook) module isIssue quantity state
      hooked required) :
    hooked.2.world.setToken.components = state.2.world.setToken.components ∧
    equityUnit hooked.2.world.setToken state.1.collateralToken =
      (state.2.world.setToken.defaultRealUnit state.1.collateralToken +
        state.1.keptUnit perp (module.resolvedQuantity isIssue quantity) isIssue state.2).toNat ∧
    debtUnit hooked.2.world.setToken state.1.collateralToken = 0 := by
  obtain ⟨components, modules, default, stored⟩ := moduleHook_collateral perpOnly.supply
    perpOnly.multiplier (computes_moduleHook perpOnly computes)
  refine ⟨components, ?_⟩
  unfold keptUnit
  rw [← default]
  rcases perpOnly.external state.1.collateralToken with unlisted | listed
  · rw [if_pos unlisted]
    unfold equityUnit debtUnit
    rw [modules, unlisted]
    exact ⟨rfl, rfl⟩
  · have external : state.2.world.setToken.externalPositionModules state.1.collateralToken ≠ [] :=
      listed ▸ List.cons_ne_nil _ _
    obtain ⟨nonneg, written⟩ := stored external
    rw [if_neg external, ← written]
    refine units_of_listed (modules.trans listed) ?_
    rw [written]
    exact storedUnit_nonneg perpOnly.multiplier nonneg

/-- What an execution moves of the collateral. -/
theorem computes_collateral (perpOnly : PerpOnly module state)
    (computes : Computes (perpContracts perp invokePreIssueHook) module isIssue quantity state
      hooked required) (isEquity : Bool) :
    quantityOf isEquity state.1.collateralToken required =
      if state.1.collateralToken ∈ state.2.world.setToken.components then
        if isEquity then
          equityQuantity isIssue
            (state.2.world.setToken.defaultRealUnit state.1.collateralToken +
              state.1.keptUnit perp (module.resolvedQuantity isIssue quantity) isIssue
                state.2).toNat (module.resolvedQuantity isIssue quantity)
        else 0
      else 0 := by
  obtain ⟨components, equity, debt⟩ := hooked_units perpOnly computes
  have computed := computes.2
  simp only [perpContracts] at computed
  obtain ⟨⟨units, counted⟩, rfl⟩ := calculateRequired_eq_ok computed
  rw [orderUnits_eq counted, getTotalIssuanceUnits_eq_ok counted, List.map_map]
  have nodup : hooked.2.world.setToken.components.Nodup := components ▸ perpOnly.components
  refine (quantityOf_map nodup isEquity state.1.collateralToken _ _).trans ?_
  rw [components]
  simp only [passQuantity, if_true, Bool.false_eq_true, if_false, equity, debt,
    LeverageHooks.notionalDebt_zero]

/-! ### When the preview is exact -/

/-- The protocol's quoter answers the trades of an order as the protocol then executes them. -/
def QuotesMatch (perp : PerpV2 Ledger) (setTokenQuantity : Nat) (isIssue : Bool)
    (state : PerpV2LeverageModuleV2 × PerpExecution Ledger) : Prop :=
  let setToken := state.2.world.setToken
  let infos := PerpV2Positions.getPositionNotionalInfo perp setToken.address
    (state.1.syncedPositions perp state.2) state.2.ledger
  answeredQuotes perp state.1.address setTokenQuantity setToken.totalSupply isIssue true infos
      state.2 =
    answeredQuotes perp state.1.address setTokenQuantity setToken.totalSupply isIssue false infos
      state.2

/-- The unit a preview puts in place of the stored one, zero without base positions, comes to the
same quantity of the collateral as the unit an execution keeps, zero without an external position,
and no debt that is stored shows in the preview. -/
def PreviewExact (perp : PerpV2 Ledger) (setTokenQuantity : Nat) (isIssue : Bool)
    (state : PerpV2LeverageModuleV2 × PerpExecution Ledger) : Prop :=
  let setToken := state.2.world.setToken
  let collateral := state.1.collateralToken
  let listedUnit :=
    if 0 < state.1.positions.length then state.1.worthUnit perp setTokenQuantity isIssue state.2
    else 0
  equityQuantity isIssue (equityUnit setToken collateral +
      (listedUnit - setToken.externalRealUnit collateral state.1.address)).toNat
        setTokenQuantity =
    equityQuantity isIssue (setToken.defaultRealUnit collateral +
      state.1.keptUnit perp setTokenQuantity isIssue state.2).toNat setTokenQuantity ∧
  LeverageHooks.notionalDebt isIssue (debtUnit setToken collateral) setTokenQuantity = 0

instance (perp : PerpV2 Ledger) (setTokenQuantity : Nat) (isIssue : Bool)
    (state : PerpV2LeverageModuleV2 × PerpExecution Ledger) :
    Decidable (PreviewExact perp setTokenQuantity isIssue state) :=
  inferInstanceAs (Decidable (_ = _ ∧ _ = _))

theorem previewedUnit_eq {setTokenQuantity : Nat}
    (quotes : QuotesMatch perp setTokenQuantity isIssue state) :
    state.1.previewedUnit perp setTokenQuantity isIssue state.2 =
      if 0 < state.1.positions.length then state.1.worthUnit perp setTokenQuantity isIssue state.2
      else 0 := by
  unfold QuotesMatch at quotes
  unfold previewedUnit worthUnit realizedValue
  dsimp only at quotes ⊢
  rw [quotes]

/-- The quantities of the collateral that are previewed are those that are moved exactly when the
preview is exact, if the collateral is a component at all. -/
theorem preview_agrees_iff {msgSender recipient : Address} {checkedComponents : List Address}
    {limits : List Nat} {transfers : List Transfer}
    {earlier after : PerpV2LeverageModuleV2 × PerpExecution Ledger}
    (perpOnly : PerpOnly module state)
    (quotes : QuotesMatch perp (module.resolvedQuantity isIssue quantity) isIssue state)
    (started : startOrder (perpContracts perp invokePreIssueHook) isIssue msgSender quantity
      recipient earlier module = .ok state)
    (previewing : previewOrder (perpContracts perp invokePreIssueHook) isIssue quantity state
      module = .ok (previewed, next))
    (executing : executeOrder (perpContracts perp invokePreIssueHook) isIssue msgSender quantity
      checkedComponents limits recipient earlier module = .ok (transfers, after)) :
    (∀ isEquity, moved isEquity state.1.collateralToken transfers =
        quantityOf isEquity state.1.collateralToken previewed) ↔
      (state.1.collateralToken ∈ state.2.world.setToken.components →
        PreviewExact perp (module.resolvedQuantity isIssue quantity) isIssue state) := by
  obtain ⟨hooked, required, computes, moves⟩ := executeOrder_moves burn_samePositions started
    executing
  have shown : previewed = _ := preview_eq_ok perpOnly (previewOrder_eq_ok previewing)
  rw [shown, Bool.forall_bool, moves, moves, computes_collateral perpOnly computes,
    computes_collateral perpOnly computes, quantityOf_map perpOnly.components,
    quantityOf_map perpOnly.components, if_pos rfl, previewedUnit_eq quotes]
  by_cases listed : state.1.collateralToken ∈ state.2.world.setToken.components
  · rw [imp_iff_right listed]
    simp only [if_pos listed, if_true, Bool.false_eq_true, if_false]
    exact and_comm.trans (and_congr eq_comm eq_comm)
  · rw [if_neg listed, if_neg listed, if_neg listed, if_neg listed]
    exact iff_of_true ⟨rfl, rfl⟩ fun component => absurd component listed

end Perp

/-! ### A deposit with and without positions -/

/-- The issuance module at account 5, without fees and without a hook of the manager, for the
module at account 4. -/
def sampleIssuance : DebtIssuanceModule where
  address := 5
  maxManagerFee := 0
  managerIssueFee := 0
  managerRedeemFee := 0
  feeRecipient := 9
  managerIssuanceHook := 0
  moduleIssuanceHooks := [4]
  isModuleHook := fun account => account = 4

/-- One Set token with 900 of the collateral and an external position of 100 in it, which the
account has. The base positions are those given, each of one token bought for one. -/
def samplePositions (positions : List Address) :
    PerpV2LeverageModuleV2 × PerpExecution SampleAccount :=
  ({ sampleModule with positions := positions },
   { world :=
      { sampleWorld with
        setToken :=
          { sampleWorld.setToken with
            componentPositions := fun component => if component = 3 then
              { virtualUnit := 900
                externalPositionModules := [4]
                externalPositions := fun _ => ⟨100, []⟩ }
            else ⟨0, [], fun _ => ⟨0, []⟩⟩ }
        tokens := fun _ =>
          { totalSupply := 2000
            balanceOf := fun _ => 1000
            allowance := fun _ _ => 1000 } }
     ledger := ⟨10 ^ 18 * positions.length, -10 ^ 18 * positions.length, 100, 0, 0⟩
     events := [] })

def sampleContracts : IssuanceContracts (PerpV2LeverageModuleV2 × PerpExecution SampleAccount) :=
  perpContracts samplePerp fun _ _ _ _ state => pure state

theorem samplePositions_perpOnly (positions : List Address) :
    PerpOnly sampleIssuance (samplePositions positions) where
  supply := (by decide : 0 < 10 ^ 18)
  multiplier := (by decide : 0 < (preciseUnit : Int))
  components := List.nodup_singleton 3
  registered := rfl
  external := by
    intro component
    by_cases collateral : component = 3
    · exact Or.inr (by rw [collateral]; rfl)
    · exact Or.inl (congrArg ComponentPosition.externalPositionModules (if_neg collateral))

/-- What one Set token costs is previewed with a base position. -/
theorem preview_agrees_iff_sample :
    ∃ previewed next transfers after,
      previewOrder sampleContracts true (10 ^ 18) (samplePositions [20]) sampleIssuance =
        .ok (previewed, next) ∧
      executeOrder sampleContracts true 8 (10 ^ 18) [] [] 8 (samplePositions [20])
        sampleIssuance = .ok (transfers, after) ∧
      ∀ isEquity, moved isEquity 3 transfers = quantityOf isEquity 3 previewed := by
  have previews : returns (previewOrder sampleContracts true (10 ^ 18) (samplePositions [20])
      sampleIssuance) (fun _ => true) = true := by
    decide
  have executes : returns (executeOrder sampleContracts true 8 (10 ^ 18) [] [] 8
      (samplePositions [20]) sampleIssuance) (fun _ => true) = true := by
    decide
  obtain ⟨⟨previewed, next⟩, previewing, _⟩ := exists_of_returns previews
  obtain ⟨⟨transfers, after⟩, executing, _⟩ := exists_of_returns executes
  have exactly : PreviewExact samplePerp (sampleIssuance.resolvedQuantity true (10 ^ 18)) true
      (samplePositions [20]) := by
    decide
  have quotes : QuotesMatch samplePerp (sampleIssuance.resolvedQuantity true (10 ^ 18)) true
      (samplePositions [20]) := by
    unfold QuotesMatch
    decide
  exact ⟨previewed, next, transfers, after, previewing, executing,
    (preview_agrees_iff (samplePositions_perpOnly [20]) quotes rfl previewing executing).mpr
      fun _ => exactly⟩

/-- Without base positions the deposit is left out of the preview and charged. -/
theorem preview_agrees_fails :
    PerpOnly sampleIssuance (samplePositions []) ∧
    QuotesMatch samplePerp (sampleIssuance.resolvedQuantity true (10 ^ 18)) true
      (samplePositions []) ∧
    ∃ previewed next transfers after,
      previewOrder sampleContracts true (10 ^ 18) (samplePositions []) sampleIssuance =
        .ok (previewed, next) ∧
      executeOrder sampleContracts true 8 (10 ^ 18) [] [] 8 (samplePositions [])
        sampleIssuance = .ok (transfers, after) ∧
      quantityOf true 3 previewed = 900 ∧ moved true 3 transfers = 1000 := by
  refine ⟨samplePositions_perpOnly [], rfl, ?_⟩
  have previews : returns (previewOrder sampleContracts true (10 ^ 18) (samplePositions [])
      sampleIssuance) (fun result => decide (quantityOf true 3 result.1 = 900)) = true := by
    decide
  have executes : returns (executeOrder sampleContracts true 8 (10 ^ 18) [] [] 8
      (samplePositions []) sampleIssuance)
      (fun result => decide (moved true 3 result.1 = 1000)) = true := by
    decide
  obtain ⟨⟨previewed, next⟩, previewing, shown⟩ := exists_of_returns previews
  obtain ⟨⟨transfers, after⟩, executing, charged⟩ := exists_of_returns executes
  exact ⟨previewed, next, transfers, after, previewing, executing, of_decide_eq_true shown,
    of_decide_eq_true charged⟩

end SlippageIssuanceModule

end IndexProtocol

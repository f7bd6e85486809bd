/-
This file accounts for what the Set holds of a component during an order of the
slippage issuance module. The transfers of the order are entered by the calls
that carry them out, and the hooks for a component are called exactly when a
transfer of it is entered. So what the Set holds afterwards is what it held after
the hooks before the order, with what is collected, without what is paid out, and
with what the hooks for the transferred components bring. For a Set whose external
positions are all perpetual they bring what is deposited and withdrawn.
-/

import IndexProtocol.System.SlippagePreview

namespace IndexProtocol

open Revert PreciseUnitMath

namespace SlippageIssuanceModule

open DebtIssuanceModule

/-! ### Orders among any contracts -/

section Contracts

variable {State : Type} {contracts : IssuanceContracts State} {module : DebtIssuanceModule}
  {msgSender recipient component token : Address} {quantity componentQuantity : Nat}
  {isIssue isEquity : Bool} {required : ComponentValues} {during : State → Prop}
  {inflow : Bool → Address → Int} {transfers : List Transfer} {start state hooked next : State}
  {resolved after : List Transfer × State}

/-- What the hooks called for the transfers of an order bring the Set. -/
def hooksInflow (inflow : Bool → Address → Int) (transfers : List Transfer) : Int :=
  (transfers.map fun transfer => inflow transfer.isEquity transfer.component).sum

theorem hooksInflow_append (first second : List Transfer) :
    hooksInflow inflow (first ++ second) =
      hooksInflow inflow first + hooksInflow inflow second := by
  unfold hooksInflow
  rw [List.map_append, List.sum_append]

/-- While an order is under way a call on the world is carried out on the world the order sees,
and the hooks for a token bring the Set a fixed amount of the component. What is under way is
kept by calls that leave the positions of the Set. -/
structure HooksBring (contracts : IssuanceContracts State) (module : DebtIssuanceModule)
    (quantity : Nat) (isIssue : Bool) (component : Address) (inflow : Bool → Address → Int)
    (during : State → Prop) : Prop where
  other : ∀ state, during state → component ≠ (contracts.world state).setToken.address
  called : ∀ call before after, contracts.onWorld call before = .ok after →
    call (contracts.world before) = .ok (contracts.world after)
  kept : ∀ call before after, during before → contracts.onWorld call before = .ok after →
    SetToken.SamePositions (contracts.world before).setToken (contracts.world after).setToken →
    (contracts.world after).setToken.address = (contracts.world before).setToken.address →
      during after
  hooked : ∀ token isEquity before after, during before →
    executeExternalPositionHooks contracts quantity token isIssue isEquity before module =
      .ok after →
      during after ∧ ((contracts.world after).held component : Int) =
        (contracts.world before).held component + inflow isEquity token

/-- The account of an order under way: what the Set holds and what has gone out is what it held
at the start, what has come in and what the hooks have brought. -/
structure Accounts (contracts : IssuanceContracts State) (isIssue : Bool) (component : Address)
    (inflow : Bool → Address → Int) (during : State → Prop) (start : State)
    (resolved : List Transfer × State) : Prop where
  during : during resolved.2
  held : ((contracts.world resolved.2).held component : Int) +
      moved (!isIssue) component resolved.1 =
    (contracts.world start).held component + moved isIssue component resolved.1 +
      hooksInflow inflow resolved.1

theorem transferIn_accounts
    (brings : HooksBring contracts module quantity isIssue component inflow during)
    (under : during resolved.2) {transfer : Transfer}
    (returned : transferIn contracts msgSender transfer module resolved = .ok after) :
    during after.2 ∧ after.1 = resolved.1 ++ [transfer] ∧
      (contracts.world after.2).held component = (contracts.world resolved.2).held component +
        if transfer.component = component then transfer.quantity else 0 := by
  obtain ⟨collecting, entered⟩ := transferIn_eq_ok returned
  have called := brings.called _ _ _ collecting
  obtain ⟨only, received⟩ := World.explicitTransferFrom_eq_ok called
  refine ⟨brings.kept _ _ _ under collecting only.samePositions only.address, entered, ?_⟩
  rw [received]
  by_cases same : transfer.component = component
  · rw [if_pos same, ← same, Function.update_self]
  · rw [if_neg same, Function.update_of_ne (Ne.symm same), Nat.add_zero]

theorem transferOut_accounts
    (brings : HooksBring contracts module quantity isIssue component inflow during)
    (under : during resolved.2) {transfer : Transfer}
    (returned : transferOut contracts recipient transfer module resolved = .ok after) :
    during after.2 ∧ after.1 = resolved.1 ++ [transfer] ∧
      (contracts.world after.2).held component +
          (if transfer.component = component then transfer.quantity else 0) =
        (contracts.world resolved.2).held component := by
  obtain ⟨sending, entered⟩ := transferOut_eq_ok returned
  have called := brings.called _ _ _ sending
  obtain ⟨only, enough, sent⟩ := World.strictInvokeTransfer_eq_ok called
  refine ⟨brings.kept _ _ _ under sending only.samePositions only.address, entered, ?_⟩
  rw [sent]
  by_cases same : transfer.component = component
  · rw [if_pos same, ← same, Function.update_self, Nat.sub_add_cancel enough]
  · rw [if_neg same, Function.update_of_ne (Ne.symm same), Nat.add_zero]

/-- Resolving a component keeps the account: one transfer is entered, and the hooks are called
once for it. -/
theorem resolvePosition_accounts
    (brings : HooksBring contracts module quantity isIssue component inflow during)
    (accounts : Accounts contracts isIssue component inflow during start resolved)
    (returned : resolvePosition contracts msgSender recipient quantity isIssue isEquity token
      componentQuantity module resolved = .ok after) :
    Accounts contracts isIssue component inflow during start after := by
  obtain ⟨under, balanced⟩ := accounts
  unfold resolvePosition at returned
  dsimp only at returned
  split at returned
  · rename_i positive
    have single (counted : Bool) :=
      moved_single isIssue isEquity counted token component componentQuantity
    have counted := single isEquity
    have opposite := single !isEquity
    rw [if_pos positive] at counted opposite
    rw [if_neg fun both => Bool.not_ne_self isEquity both.1.symm] at opposite
    simp only [true_and] at counted
    have called : hooksInflow inflow [⟨isIssue, isEquity, token, componentQuantity⟩] =
        inflow isEquity token := Int.add_zero _
    split at returned
    · rename_i inward
      simp only [bind_eq_ok, pure_eq_ok] at returned
      obtain ⟨collected, collecting, executed, hooking, rfl⟩ := returned
      obtain ⟨undertaken, entered, received⟩ := transferIn_accounts brings under collecting
      obtain ⟨kept, brought⟩ := brings.hooked _ _ _ _ undertaken hooking
      refine ⟨kept, ?_⟩
      subst inward
      rw [brought, received, entered, moved_append, moved_append, hooksInflow_append, called,
        counted, opposite]
      dsimp only
      omega
    · rename_i outward
      rw [bind_eq_ok] at returned
      obtain ⟨executed, hooking, sending⟩ := returned
      obtain ⟨undertaken, brought⟩ := brings.hooked _ _ _ _ under hooking
      have still : during (resolved.1, executed).2 := undertaken
      obtain ⟨kept, entered, sent⟩ := transferOut_accounts brings still sending
      refine ⟨kept, ?_⟩
      obtain rfl : isEquity = !isIssue := Bool.eq_not.mpr (Ne.symm outward)
      rw [Bool.not_not] at opposite
      rw [entered, moved_append, moved_append, hooksInflow_append, called, counted, opposite]
      dsimp only at sent ⊢
      omega
  · obtain rfl := (pure_eq_ok _ _).mp returned
    exact ⟨under, balanced⟩

theorem resolveEquityPositions_accounts
    (brings : HooksBring contracts module quantity isIssue component inflow during)
    (accounts : Accounts contracts isIssue component inflow during start resolved)
    (returned : resolveEquityPositions contracts msgSender quantity recipient isIssue required
      module resolved = .ok after) :
    Accounts contracts isIssue component inflow during start after :=
  foldlM_invariant _ (Accounts contracts isIssue component inflow during start) _
    (fun _ _ _ _ balanced stepped => resolvePosition_accounts brings balanced stepped) _ _
    accounts returned

theorem resolveDebtPositions_accounts
    (brings : HooksBring contracts module quantity isIssue component inflow during)
    (accounts : Accounts contracts isIssue component inflow during start resolved)
    (returned : resolveDebtPositions contracts msgSender quantity isIssue required module
      resolved = .ok after) :
    Accounts contracts isIssue component inflow during start after :=
  foldlM_invariant _ (Accounts contracts isIssue component inflow during start) _
    (fun _ _ _ _ balanced stepped => resolvePosition_accounts brings balanced stepped) _ _
    accounts returned

/-! ### Set tokens that are minted and burned -/

/-- A call of the Set token that leaves its positions leaves what the Set holds of the component,
which is another token. -/
theorem callSetToken_held
    (brings : HooksBring contracts module quantity isIssue component inflow during)
    (under : during state) {call : World → SetToken → Outcome SetToken}
    (keeps : ∀ world setToken, call world world.setToken = .ok setToken →
      SetToken.SamePositions world.setToken setToken ∧ setToken.address = world.setToken.address)
    (returned : contracts.onWorld (fun world => world.callSetToken (call world)) state =
      .ok next) :
    during next ∧
      (contracts.world next).held component = (contracts.world state).held component := by
  have called := brings.called _ _ _ returned
  obtain ⟨edited, stored⟩ := World.callSetToken_eq_ok called
  obtain ⟨positions, address⟩ := keeps _ _ edited
  have tokens : (contracts.world next).tokens = (contracts.world state).tokens := by
    rw [stored]
  exact ⟨brings.kept _ _ _ under returned positions address,
    World.held_of_tokens (brings.other _ under) address tokens⟩

theorem mint_held (brings : HooksBring contracts module quantity isIssue component inflow during)
    (under : during state) {amount : Nat}
    (returned : mint contracts recipient amount state module = .ok next) :
    during next ∧
      (contracts.world next).held component = (contracts.world state).held component := by
  refine callSetToken_held brings under (fun _ _ minting => ?_) returned
  obtain ⟨_, rfl⟩ := SetToken.mint_eq_ok minting
  exact ⟨⟨rfl, rfl, rfl⟩, rfl⟩

theorem resolveFees_held
    (brings : HooksBring contracts module quantity isIssue component inflow during)
    (under : during state) {managerFee protocolFee : Nat}
    (returned : resolveFees contracts managerFee protocolFee state module = .ok next) :
    during next ∧
      (contracts.world next).held component = (contracts.world state).held component := by
  unfold resolveFees at returned
  split at returned
  · rw [bind_eq_ok] at returned
    obtain ⟨minted, minting, charged⟩ := returned
    obtain ⟨still, same⟩ := mint_held brings under minting
    split at charged
    · obtain ⟨kept, unchanged⟩ := mint_held brings still charged
      exact ⟨kept, unchanged.trans same⟩
    · obtain rfl := (pure_eq_ok _ _).mp charged
      exact ⟨still, same⟩
  · obtain rfl := (pure_eq_ok _ _).mp returned
    exact ⟨under, rfl⟩

theorem burn_held (brings : HooksBring contracts module quantity isIssue component inflow during)
    (under : during state) {amount : Nat} {account : Address}
    (returned : contracts.onWorld (fun world => world.callSetToken
      (SetToken.burn ⟨world.controller, module.address⟩ account amount)) state = .ok next) :
    during next ∧
      (contracts.world next).held component = (contracts.world state).held component := by
  refine callSetToken_held brings under (fun _ _ burning => ?_) returned
  obtain ⟨_, _, rfl⟩ := SetToken.burn_eq_ok burning
  exact ⟨⟨rfl, rfl, rfl⟩, rfl⟩

/-! ### Whole orders -/

/-- Before anything is transferred the account is even. -/
theorem accounts_start (under : during state)
    (same : (contracts.world state).held component = (contracts.world start).held component) :
    Accounts contracts isIssue component inflow during start ([], state) :=
  ⟨under, by rw [same]; rfl⟩

theorem completeIssueWithSlippage_held {checkedComponents : List Address}
    {maxTokenAmountsIn : List Nat}
    (brings : HooksBring contracts module (module.resolvedQuantity true quantity) true component
      inflow during) (under : during hooked)
    (hooking : callModulePreIssueHooks contracts (module.resolvedQuantity true quantity) state
      module = .ok hooked)
    (returned : completeIssueWithSlippage contracts msgSender quantity checkedComponents
      maxTokenAmountsIn recipient state module = .ok after) :
    Accounts contracts true component inflow during hooked after := by
  simp only [completeIssueWithSlippage, bind_eq_ok, pure_eq_ok] at returned
  obtain ⟨fees, charged, prepared, preparing, _, _, _, _, _, collecting, paid, paying, _,
    resolving, _, minting, rfl⟩ := returned
  rw [totalQuantity_eq charged] at preparing collecting paying
  rw [hooking, Except.ok.injEq] at preparing
  subst preparing
  obtain ⟨still, balanced⟩ := resolveDebtPositions_accounts brings
    (resolveEquityPositions_accounts brings (accounts_start under rfl) collecting) paying
  obtain ⟨kept, same⟩ := resolveFees_held brings still resolving
  obtain ⟨done, unchanged⟩ := mint_held brings kept minting
  exact ⟨done, by rw [unchanged, same]; exact balanced⟩

theorem redeemWithSlippage_held {checkedComponents : List Address}
    {minTokenAmountsOut : List Nat}
    (brings : HooksBring contracts module (module.resolvedQuantity false quantity) false component
      inflow during) (under : during hooked)
    (hooking : callModulePreRedeemHooks contracts (module.resolvedQuantity false quantity) state
      module = .ok hooked)
    (returned : redeemWithSlippage contracts msgSender quantity checkedComponents
      minTokenAmountsOut recipient state module = .ok after) :
    Accounts contracts false component inflow during hooked after := by
  simp only [redeemWithSlippage, bind_eq_ok, pure_eq_ok] at returned
  obtain ⟨_, _, _, _, fees, charged, prepared, preparing, burned, burning, _, _, _, _, _,
    collecting, paid, paying, _, resolving, rfl⟩ := returned
  rw [totalQuantity_eq charged] at preparing collecting paying
  rw [hooking, Except.ok.injEq] at preparing
  subst preparing
  obtain ⟨begun, even⟩ := burn_held brings under burning
  obtain ⟨still, balanced⟩ := resolveEquityPositions_accounts brings
    (resolveDebtPositions_accounts brings (accounts_start begun even) collecting) paying
  obtain ⟨kept, same⟩ := resolveFees_held brings still resolving
  exact ⟨kept, by rw [same]; exact balanced⟩

/-- What the Set holds of a component after an order, from what it held after the hooks before
it. -/
theorem executeOrder_held {checkedComponents : List Address} {limits : List Nat}
    {earlier last : State}
    (brings : HooksBring contracts module (module.resolvedQuantity isIssue quantity) isIssue
      component inflow during) (under : during hooked)
    (started : startOrder contracts isIssue msgSender quantity recipient earlier module =
      .ok state)
    (computes : Computes contracts module isIssue quantity state hooked required)
    (returned : executeOrder contracts isIssue msgSender quantity checkedComponents limits
      recipient earlier module = .ok (transfers, last)) :
    ((contracts.world last).held component : Int) + moved (!isIssue) component transfers =
      (contracts.world hooked).held component + moved isIssue component transfers +
        hooksInflow inflow transfers := by
  obtain ⟨hooking, _⟩ := computes
  cases isIssue with
  | true =>
    simp only [startOrder, if_true] at started hooking
    simp only [executeOrder, if_true, issueWithSlippage, bind_eq_ok] at returned
    obtain ⟨_, _, _, _, _, calling, completed⟩ := returned
    rw [started, Except.ok.injEq] at calling
    exact (completeIssueWithSlippage_held brings under hooking (calling ▸ completed)).held
  | false =>
    simp only [startOrder, Bool.false_eq_true, if_false, pure_eq_ok] at started hooking
    simp only [executeOrder, Bool.false_eq_true, if_false] at returned
    exact (redeemWithSlippage_held brings under hooking (started ▸ returned)).held

end Contracts

end SlippageIssuanceModule

/-! ### Perpetual positions -/

/-- For the account of the Set the vault of the protocol takes and pays out of a token exactly what
it is asked for, and leaves the other tokens of the Set. -/
structure PerpV2.MovesExactly {Ledger : Type} (perp : PerpV2 Ledger) (setToken : Address) :
    Prop where
  deposited : ∀ asset quantity world ledger next nextLedger, world.setToken.address = setToken →
    perp.deposit asset quantity world ledger = .ok (next, nextLedger) → ∀ token,
      (next.held token : Int) = world.held token - if token = asset then (quantity : Int) else 0
  withdrawn : ∀ asset quantity world ledger next nextLedger, world.setToken.address = setToken →
    perp.withdraw asset quantity world ledger = .ok (next, nextLedger) → ∀ token,
      (next.held token : Int) = world.held token + if token = asset then (quantity : Int) else 0

namespace PerpV2LeverageModuleV2

section Collateral

variable {Ledger : Type} {perp : PerpV2 Ledger} {module next : PerpV2LeverageModuleV2}
  {before after : PerpExecution Ledger} {quantity setTokenQuantity : Nat} {isIssue : Bool}

theorem depositCollateral_held (exactly : perp.MovesExactly before.world.setToken.address)
    (returned : module.depositCollateral perp quantity before = .ok after) (token : Address) :
    (after.world.held token : Int) =
      before.world.held token - if token = module.collateralToken then (quantity : Int) else 0 := by
  simp only [depositCollateral, bind_eq_ok] at returned
  obtain ⟨approved, approving, depositing⟩ := returned
  obtain ⟨called, _⟩ := PerpExecution.onWorld_eq_ok approving
  obtain ⟨deposited, _⟩ := PerpExecution.invokeDeposit_eq_ok depositing
  have same : approved.world.setToken.address = before.world.setToken.address :=
    (World.invokeApprove_eq_ok called).address
  rw [exactly.deposited _ _ _ _ _ _ same deposited token, World.held_invokeApprove called]

theorem withdrawCollateral_held (exactly : perp.MovesExactly before.world.setToken.address)
    (returned : module.withdrawCollateral perp quantity before = .ok after) (token : Address) :
    (after.world.held token : Int) =
      before.world.held token + if token = module.collateralToken then (quantity : Int) else 0 := by
  unfold withdrawCollateral at returned
  split at returned
  · rename_i nothing
    obtain rfl := (pure_eq_ok _ _).mp returned
    rw [nothing, Nat.cast_zero, ite_self, Int.add_zero]
  · obtain ⟨withdrawn, _⟩ := PerpExecution.invokeWithdraw_eq_ok returned
    exact exactly.withdrawn _ _ _ _ _ _ rfl withdrawn token

/-- On issuance the hook for a component deposits the share of its external position. -/
theorem componentIssueHook_held {msgSender token : Address} {isEquity : Bool}
    (exactly : perp.MovesExactly before.world.setToken.address)
    (returned : module.componentIssueHook perp msgSender setTokenQuantity token isEquity before =
      .ok after) (component : Address) :
    World.OnlyBalances before.world after.world ∧
      (after.world.held component : Int) = before.world.held component -
        if isEquity ∧ component = module.collateralToken then
          (DebtIssuanceModule.equityQuantity true (before.world.setToken.externalRealUnit token
            module.address).toNat setTokenQuantity : Int)
        else 0 := by
  simp only [componentIssueHook, bind_eq_ok] at returned
  obtain ⟨_, _, hooked⟩ := returned
  split at hooked
  · rename_i equity
    simp only [bind_eq_ok, SetToken.getExternalPositionRealUnit_eq_ok, SafeCast.toUint256_eq_ok,
      preciseMulCeil_eq_ok] at hooked
    obtain ⟨_, ⟨_, rfl⟩, unit, converted, _, ⟨_, rfl⟩, deposited⟩ := hooked
    refine ⟨depositCollateral_onlyBalances deposited, ?_⟩
    rw [depositCollateral_held exactly deposited component, converted, Int.toNat_natCast]
    simp only [equity, true_and, DebtIssuanceModule.equityQuantity, if_true, Rounding.mulCeil_comm]
  · rename_i debt
    obtain rfl := (pure_eq_ok _ _).mp hooked
    exact ⟨World.OnlyBalances.refl _, by rw [if_neg fun both => debt both.1, Int.sub_zero]⟩

theorem componentRedeemHook_held {msgSender token : Address} {isEquity : Bool}
    (exactly : perp.MovesExactly before.world.setToken.address)
    (returned : module.componentRedeemHook perp msgSender setTokenQuantity token isEquity before =
      .ok after) (component : Address) :
    World.OnlyBalances before.world after.world ∧
      (after.world.held component : Int) = before.world.held component +
        if isEquity ∧ component = module.collateralToken then
          (DebtIssuanceModule.equityQuantity false (before.world.setToken.externalRealUnit token
            module.address).toNat setTokenQuantity : Int)
        else 0 := by
  simp only [componentRedeemHook, bind_eq_ok] at returned
  obtain ⟨_, _, hooked⟩ := returned
  split at hooked
  · rename_i equity
    simp only [bind_eq_ok, SetToken.getExternalPositionRealUnit_eq_ok, SafeCast.toUint256_eq_ok,
      preciseMul_eq_ok] at hooked
    obtain ⟨_, ⟨_, rfl⟩, unit, converted, _, ⟨_, rfl⟩, withdrawn⟩ := hooked
    refine ⟨withdrawCollateral_onlyBalances withdrawn, ?_⟩
    rw [withdrawCollateral_held exactly withdrawn component, converted, Int.toNat_natCast]
    simp only [equity, true_and, DebtIssuanceModule.equityQuantity, Bool.false_eq_true, if_false,
      Rounding.mulFloor_comm]
  · rename_i debt
    obtain rfl := (pure_eq_ok _ _).mp hooked
    exact ⟨World.OnlyBalances.refl _, by rw [if_neg fun both => debt both.1, Int.add_zero]⟩

/-- The hook before an order changes of the Set's listing of external positions nothing, nor where
the Set and the module are. -/
theorem moduleHook_listing {msgSender : Address}
    (returned : module.moduleHook perp msgSender setTokenQuantity isIssue before =
      .ok (next, after)) :
    next.address = module.address ∧
    after.world.setToken.address = before.world.setToken.address ∧
    ∀ token, after.world.setToken.externalPositionModules token =
      before.world.setToken.externalPositionModules token := by
  rcases moduleHook_eq_ok returned with ⟨_, rfl, rfl⟩ | ⟨_, _, traded, executed, storing⟩
  · exact ⟨rfl, rfl, fun _ => rfl⟩
  · obtain ⟨only, _, rfl⟩ := executePositionTrades_onlyBalances executed
    obtain ⟨called, _⟩ := PerpExecution.onWorld_eq_ok storing
    obtain ⟨_, _, _, stored⟩ :=
      SetToken.editExternalPositionUnit_eq_ok (World.callSetToken_eq_ok called).1
    rw [stored]
    refine ⟨rfl, only.address, fun token => ?_⟩
    rw [← only.samePositions.externalPositionModules token]
    unfold SetToken.externalPositionModules
    by_cases edited : token = module.collateralToken
    · rw [edited, SetToken.editComponent_self]
    · rw [SetToken.editComponent_other _ _ _ edited]

end Collateral

end PerpV2LeverageModuleV2

namespace SlippageIssuanceModule

open DebtIssuanceModule PerpV2LeverageModuleV2

section Perp

variable {Ledger : Type} {perp : PerpV2 Ledger}
  {invokePreIssueHook : Address → Nat → Address → Address →
    PerpV2LeverageModuleV2 × PerpExecution Ledger →
      Outcome (PerpV2LeverageModuleV2 × PerpExecution Ledger)}
  {module : DebtIssuanceModule} {state hooked before after :
    PerpV2LeverageModuleV2 × PerpExecution Ledger}
  {quantity : Nat} {isIssue isEquity : Bool} {required : ComponentValues}
  {component token : Address}

/-- What the hook for a token brings the Set of a component: for equity with an external position
the share of the position is deposited on issuance and withdrawn on redemption. -/
def perpInflow (isIssue : Bool) (setTokenQuantity : Nat)
    (hooked : PerpV2LeverageModuleV2 × PerpExecution Ledger) (component : Address)
    (isEquity : Bool) (token : Address) : Int :=
  let setToken := hooked.2.world.setToken
  let share : Int := equityQuantity isIssue
    (setToken.externalRealUnit token hooked.1.address).toNat setTokenQuantity
  if isEquity ∧ component = hooked.1.collateralToken ∧ setToken.externalPositionModules token ≠ []
  then if isIssue then -share else share
  else 0

/-- After the hooks before an order the module, the address of the Set and its positions stay. -/
structure UnderWay (hooked state : PerpV2LeverageModuleV2 × PerpExecution Ledger) : Prop where
  module : state.1 = hooked.1
  address : state.2.world.setToken.address = hooked.2.world.setToken.address
  positions : SetToken.SamePositions hooked.2.world.setToken state.2.world.setToken

theorem UnderWay.refl (hooked : PerpV2LeverageModuleV2 × PerpExecution Ledger) :
    UnderWay hooked hooked :=
  ⟨rfl, rfl, rfl, rfl, rfl⟩

theorem UnderWay.goesOn (under : UnderWay hooked before) (module : after.1 = before.1)
    (address : after.2.world.setToken.address = before.2.world.setToken.address)
    (positions : SetToken.SamePositions before.2.world.setToken after.2.world.setToken) :
    UnderWay hooked after where
  module := module.trans under.module
  address := address.trans under.address
  positions := ⟨positions.components.trans under.positions.components,
    positions.componentPositions.trans under.positions.componentPositions,
    positions.positionMultiplier.trans under.positions.positionMultiplier⟩

/-- The hook of the module for perpetual positions brings what it deposits and withdraws. -/
theorem perpHook_held (exactly : perp.MovesExactly hooked.2.world.setToken.address)
    (under : UnderWay hooked before) {msgSender : Address}
    (external : hooked.2.world.setToken.externalPositionModules token ≠ [])
    (returned : (if isIssue then
        (perpHook perp hooked.1.address).componentIssueHook msgSender quantity token isEquity before
      else (perpHook perp hooked.1.address).componentRedeemHook msgSender quantity token isEquity
        before) = .ok after) :
    UnderWay hooked after ∧ (after.2.world.held component : Int) =
      before.2.world.held component +
        perpInflow isIssue quantity hooked component isEquity token := by
  have unit := under.positions.externalRealUnit token hooked.1.address
  rw [← under.address] at exactly
  cases isIssue with
  | true =>
    simp only [if_true, perpHook, bind_eq_ok] at returned
    obtain ⟨_, _, called⟩ := returned
    obtain ⟨kept, hooking⟩ := keepingModule_eq_ok called
    obtain ⟨only, brought⟩ := componentIssueHook_held exactly hooking component
    refine ⟨under.goesOn kept only.address only.samePositions, ?_⟩
    rw [under.module, unit] at brought
    rw [brought]
    simp only [perpInflow, external, ne_eq, not_false_eq_true, and_true, if_true]
    split <;> omega
  | false =>
    simp only [Bool.false_eq_true, if_false, perpHook, bind_eq_ok] at returned
    obtain ⟨_, _, called⟩ := returned
    obtain ⟨kept, hooking⟩ := keepingModule_eq_ok called
    obtain ⟨only, brought⟩ := componentRedeemHook_held exactly hooking component
    refine ⟨under.goesOn kept only.address only.samePositions, ?_⟩
    rw [under.module, unit] at brought
    rw [brought]
    simp only [perpInflow, external, ne_eq, not_false_eq_true, and_true, Bool.false_eq_true,
      if_false]

theorem perp_hooksBring (exactly : perp.MovesExactly hooked.2.world.setToken.address)
    (other : component ≠ hooked.2.world.setToken.address)
    (listed : ∀ token, hooked.2.world.setToken.externalPositionModules token = [] ∨
      hooked.2.world.setToken.externalPositionModules token = [hooked.1.address]) :
    HooksBring (perpContracts perp invokePreIssueHook) module quantity isIssue component
      (perpInflow isIssue quantity hooked component) (UnderWay hooked) where
  other _ under := under.address ▸ other
  called call before after returned := by
    obtain ⟨_, acting⟩ := keepingModule_eq_ok returned
    exact (PerpExecution.onWorld_eq_ok acting).1
  kept call before after under returned positions address := by
    obtain ⟨kept, _⟩ := keepingModule_eq_ok returned
    exact under.goesOn kept address positions
  hooked token isEquity before after under returned := by
    unfold executeExternalPositionHooks at returned
    have modules := under.positions.externalPositionModules token
    simp only [perpContracts] at returned
    rw [modules] at returned
    rcases listed token with none | one
    · rw [none, List.foldlM_nil] at returned
      obtain rfl := (pure_eq_ok _ _).mp returned
      refine ⟨under, ?_⟩
      unfold perpInflow
      simp only [none, ne_eq, not_true_eq_false, and_false, if_false, Int.add_zero]
    · rw [one] at returned
      simp only [List.foldlM_cons, List.foldlM_nil, bind_eq_ok, pure_eq_ok] at returned
      obtain ⟨_, called, rfl⟩ := returned
      exact perpHook_held exactly under (one ▸ List.cons_ne_nil _ _) called

/-- What the Set holds of a component after an order is what it held after the hooks before the
order, with what the order collects and withdraws from the account, without what it pays out and
deposits. -/
theorem perpOrder_held {msgSender recipient : Address} {checkedComponents : List Address}
    {limits : List Nat} {transfers : List Transfer}
    {earlier last : PerpV2LeverageModuleV2 × PerpExecution Ledger}
    (exactly : perp.MovesExactly state.2.world.setToken.address)
    (other : component ≠ state.2.world.setToken.address) (perpOnly : PerpOnly module state)
    (started : startOrder (perpContracts perp invokePreIssueHook) isIssue msgSender quantity
      recipient earlier module = .ok state)
    (computes : Computes (perpContracts perp invokePreIssueHook) module isIssue quantity state
      hooked required)
    (executing : executeOrder (perpContracts perp invokePreIssueHook) isIssue msgSender quantity
      checkedComponents limits recipient earlier module = .ok (transfers, last)) :
    (last.2.world.held component : Int) + moved (!isIssue) component transfers =
      hooked.2.world.held component + moved isIssue component transfers +
        hooksInflow (perpInflow isIssue (module.resolvedQuantity isIssue quantity) hooked component)
          transfers := by
  obtain ⟨account, address, listing⟩ := moduleHook_listing (computes_moduleHook perpOnly computes)
  refine executeOrder_held (perp_hooksBring (address ▸ exactly) (address ▸ other) fun token => ?_)
    (UnderWay.refl hooked) started computes executing
  rw [listing, account]
  exact perpOnly.external token

end Perp

/-! ### An issuance and a redemption of a Set with a deposit -/

theorem sampleMove_held {asset sender recipient : Address} {quantity : Nat} {world moved : World}
    (returned : sampleMove asset sender recipient quantity world = .ok moved) :
    quantity ≤ world.balanceOf asset sender ∧ ∀ token, moved.held token =
      if token = asset then
        (world.token asset).movedBalance sender recipient quantity world.setToken.address
      else world.held token := by
  obtain ⟨_, called, rfl⟩ := World.callToken_eq_ok returned
  obtain ⟨enough, rfl⟩ := ERC20.move_eq_ok called
  refine ⟨enough, fun token => ?_⟩
  rw [World.held_storeToken]
  exact Function.update_apply _ _ _ _

/-- The vault at account 99 moves exactly what it is asked for. -/
theorem samplePerp_movesExactly : samplePerp.MovesExactly 2 where
  deposited := by
    intro asset quantity world account next nextAccount address returned token
    change (sampleMove asset world.setToken.address 99 quantity world >>= fun moved =>
      pure (moved, { account with collateral := account.collateral + quantity })) =
        .ok (next, nextAccount) at returned
    simp only [bind_eq_ok, pure_eq_ok, Prod.mk.injEq] at returned
    obtain ⟨_, moving, rfl, _⟩ := returned
    obtain ⟨enough, held⟩ := sampleMove_held moving
    rw [held]
    split
    · rename_i same
      have debited : (world.token asset).movedBalance world.setToken.address 99 quantity
          world.setToken.address = world.held asset - quantity := by
        unfold ERC20.movedBalance
        rw [address, Function.update_of_ne (by decide), Function.update_self, ← address]
        rfl
      rw [debited, same]
      exact Int.ofNat_sub enough
    · exact (Int.sub_zero _).symm
  withdrawn := by
    intro asset quantity world account next nextAccount address returned token
    change (sampleMove asset 99 world.setToken.address quantity world >>= fun moved =>
      pure (moved, account.withdraw quantity)) = .ok (next, nextAccount) at returned
    simp only [bind_eq_ok, pure_eq_ok, Prod.mk.injEq] at returned
    obtain ⟨_, moving, rfl, _⟩ := returned
    obtain ⟨_, held⟩ := sampleMove_held moving
    rw [held]
    split
    · rename_i same
      rw [ERC20.movedBalance_recipient _ _ _ (address ▸ by decide), same]
      exact Int.natCast_add _ _
    · exact (Int.add_zero _).symm

/-- A Set with one base position and a deposit of 100, whose tokens account 8 holds. -/
def sampleHeld : PerpV2LeverageModuleV2 × PerpExecution SampleAccount :=
  let (module, execution) := samplePositions [20]
  (module, { execution with world := { execution.world with setToken :=
    { execution.world.setToken with balanceOf := fun _ => 10 ^ 18 } } })

theorem sampleHeld_perpOnly : PerpOnly sampleIssuance sampleHeld where
  supply := (samplePositions_perpOnly [20]).supply
  multiplier := (samplePositions_perpOnly [20]).multiplier
  components := (samplePositions_perpOnly [20]).components
  registered := (samplePositions_perpOnly [20]).registered
  external := (samplePositions_perpOnly [20]).external

/-- The hooks before an order of account 8, the quantities computed after them, and the order. -/
def sampleOrder (isIssue : Bool) (quantity : Nat) :
    Outcome ((PerpV2LeverageModuleV2 × PerpExecution SampleAccount) × ComponentValues ×
      List Transfer × PerpV2LeverageModuleV2 × PerpExecution SampleAccount) := do
  let hooked ←
    (if isIssue then
      callModulePreIssueHooks sampleContracts (sampleIssuance.resolvedQuantity isIssue quantity)
        sampleHeld sampleIssuance
    else
      callModulePreRedeemHooks sampleContracts (sampleIssuance.resolvedQuantity isIssue quantity)
        sampleHeld sampleIssuance)
  let required ← calculateRequiredComponentIssuanceUnits (sampleContracts.world hooked).setToken
    (sampleIssuance.resolvedQuantity isIssue quantity) isIssue
  let executed ← executeOrder sampleContracts isIssue 8 quantity [] [] 8 sampleHeld sampleIssuance
  pure (hooked, required, executed)

theorem sampleOrder_eq_ok {isIssue : Bool} {quantity : Nat} {required : ComponentValues}
    {hooked last : PerpV2LeverageModuleV2 × PerpExecution SampleAccount}
    {transfers : List Transfer}
    (returned : sampleOrder isIssue quantity = .ok (hooked, required, transfers, last)) :
    Computes sampleContracts sampleIssuance isIssue quantity sampleHeld hooked required ∧
      executeOrder sampleContracts isIssue 8 quantity [] [] 8 sampleHeld sampleIssuance =
        .ok (transfers, last) := by
  simp only [sampleOrder, bind_eq_ok, pure_eq_ok, Prod.mk.injEq] at returned
  obtain ⟨_, hooking, _, computing, _, executing, rfl, rfl, rfl⟩ := returned
  exact ⟨⟨hooking, computing⟩, executing⟩

/-- An issuance of one Set token collects 1000, of which 100 are deposited, and a redemption of a
half pays out 500, of which 50 are withdrawn. -/
theorem perpOrder_held_sample :
    (∃ hooked required transfers last,
      sampleOrder true (10 ^ 18) = .ok (hooked, required, transfers, last) ∧
      moved true 3 transfers = 1000 ∧
      (last.2.world.held 3 : Int) + moved false 3 transfers = 1000 + 1000 + -100) ∧
    ∃ hooked required transfers last,
      sampleOrder false (5 * 10 ^ 17) = .ok (hooked, required, transfers, last) ∧
      moved true 3 transfers = 500 ∧
      (last.2.world.held 3 : Int) + moved true 3 transfers = 1000 + 0 + 50 := by
  have issues : returns (sampleOrder true (10 ^ 18)) (fun result => decide (
      moved true 3 result.2.2.1 = 1000 ∧ result.1.2.world.held 3 = 1000 ∧
      hooksInflow (perpInflow true (sampleIssuance.resolvedQuantity true (10 ^ 18)) result.1 3)
        result.2.2.1 = -100)) = true := by
    decide +kernel
  have redeems : returns (sampleOrder false (5 * 10 ^ 17)) (fun result => decide (
      moved true 3 result.2.2.1 = 500 ∧ moved false 3 result.2.2.1 = 0 ∧
      result.1.2.world.held 3 = 1000 ∧
      hooksInflow (perpInflow false (sampleIssuance.resolvedQuantity false (5 * 10 ^ 17))
        result.1 3) result.2.2.1 = 50)) = true := by
    decide +kernel
  obtain ⟨⟨hooked, required, transfers, last⟩, issuing, issued⟩ := exists_of_returns issues
  obtain ⟨⟨prepared, computed, payments, final⟩, redeeming, redeemed⟩ := exists_of_returns redeems
  obtain ⟨collected, before, deposited⟩ := of_decide_eq_true issued
  obtain ⟨paid, none, start, withdrawn⟩ := of_decide_eq_true redeemed
  refine ⟨⟨hooked, required, transfers, last, issuing, collected, ?_⟩,
    prepared, computed, payments, final, redeeming, paid, ?_⟩
  · obtain ⟨computes, executing⟩ := sampleOrder_eq_ok issuing
    have held := perpOrder_held samplePerp_movesExactly (by decide : (3 : Address) ≠ 2)
      sampleHeld_perpOnly rfl computes executing
    rw [before, collected, deposited] at held
    exact held
  · obtain ⟨computes, executing⟩ := sampleOrder_eq_ok redeeming
    have held := perpOrder_held samplePerp_movesExactly (by decide : (3 : Address) ≠ 2)
      sampleHeld_perpOnly rfl computes executing
    rw [start, none, withdrawn] at held
    exact held

end SlippageIssuanceModule

end IndexProtocol

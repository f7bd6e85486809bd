/-
This file describes what the calls of the slippage issuance module return and
move. An order moves of each component the quantities computed after its hooks,
equity and debt in a pass each; the preview of an order computes its quantities
from adjusted units.
-/

import IndexProtocol.Modules.SlippageIssuanceModule

namespace IndexProtocol

open Revert PreciseUnitMath

namespace SlippageIssuanceModule

open DebtIssuanceModule

/-! ### Quantities of one component -/

/-- The equity or the debt quantity of a component in a list of them. -/
def quantityOf (isEquity : Bool) (component : Address) (values : ComponentValues) : Nat :=
  ((values.filter fun entry => entry.1 = component).map fun entry =>
    if isEquity then entry.2.1 else entry.2.2).sum

/-- The quantity of a component moved as equity or as debt. -/
def moved (isEquity : Bool) (component : Address) (transfers : List Transfer) : Nat :=
  ((transfers.filter fun transfer =>
    transfer.isEquity = isEquity ∧ transfer.component = component).map Transfer.quantity).sum

/-- The transfers of one pass: those of positive quantity. -/
def passTransfers (isIssue isEquity : Bool) (required : ComponentValues) : List Transfer :=
  required.flatMap fun entry =>
    let quantity := if isEquity then entry.2.1 else entry.2.2
    if 0 < quantity then [⟨isIssue, isEquity, entry.1, quantity⟩] else []

theorem moved_append (isEquity : Bool) (component : Address) (first second : List Transfer) :
    moved isEquity component (first ++ second) =
      moved isEquity component first + moved isEquity component second := by
  unfold moved
  rw [List.filter_append, List.map_append, List.sum_append]

theorem moved_single (isIssue passed isEquity : Bool) (other component : Address)
    (quantity : Nat) :
    moved isEquity component (if 0 < quantity then [⟨isIssue, passed, other, quantity⟩] else []) =
      if passed = isEquity ∧ other = component then quantity else 0 := by
  unfold moved
  by_cases positive : 0 < quantity
  · rw [if_pos positive, List.filter_singleton]
    by_cases counted : passed = isEquity ∧ other = component
    · simp [counted]
    · simp [counted]
  · rw [if_neg positive, Nat.eq_zero_of_not_pos positive, ite_self]
    rfl

theorem quantityOf_cons (isEquity : Bool) (component : Address) (entry : Address × Nat × Nat)
    (rest : ComponentValues) :
    quantityOf isEquity component (entry :: rest) =
      (if entry.1 = component then if isEquity then entry.2.1 else entry.2.2 else 0) +
        quantityOf isEquity component rest := by
  unfold quantityOf
  by_cases same : entry.1 = component
  · simp only [List.filter_cons, decide_eq_true same, if_true, if_pos same, List.map_cons,
      List.sum_cons]
  · simp only [List.filter_cons, decide_eq_false same, Bool.false_eq_true, if_false,
      if_neg same, Nat.zero_add]

/-- A pass moves of a component what the list says, and nothing as the other kind. -/
theorem moved_passTransfers (isIssue passed isEquity : Bool) (component : Address)
    (required : ComponentValues) :
    moved isEquity component (passTransfers isIssue passed required) =
      if passed = isEquity then quantityOf passed component required else 0 := by
  induction required with
  | nil => exact (ite_self 0).symm
  | cons entry rest inductionHypothesis =>
    have first := moved_single isIssue passed isEquity entry.1 component
      (if passed then entry.2.1 else entry.2.2)
    unfold passTransfers at inductionHypothesis ⊢
    rw [List.flatMap_cons, moved_append, first, inductionHypothesis, quantityOf_cons]
    by_cases kind : passed = isEquity
    · rw [if_pos kind, if_pos kind]
      simp only [kind, true_and]
    · rw [if_neg kind, if_neg kind, if_neg fun both => kind both.1]

/-- A list with one entry for each of distinct components has the quantity of its entry. -/
theorem quantityOf_map {components : List Address} (nodup : components.Nodup)
    (isEquity : Bool) (component : Address) (equity debt : Address → Nat) :
    quantityOf isEquity component (components.map fun other => (other, equity other, debt other)) =
      if component ∈ components then
        if isEquity then equity component else debt component
      else 0 := by
  unfold quantityOf
  rw [List.filter_map, List.map_map]
  have counted : components.filter (fun other => decide (other = component)) =
      List.replicate (components.count component) component := List.filter_eq component
  rw [show ((fun entry : Address × Nat × Nat => decide (entry.1 = component)) ∘
      fun other => (other, equity other, debt other)) = fun other => decide (other = component)
    from rfl, counted, List.map_replicate, List.sum_replicate, nodup.count]
  split
  · exact one_nsmul _
  · exact zero_nsmul _

/-! ### What an order transfers -/

section Orders

variable {State : Type} {contracts : IssuanceContracts State} {module : DebtIssuanceModule}
  {msgSender recipient : Address} {quantity : Nat} {isIssue : Bool} {required : ComponentValues}
  {resolved next : List Transfer × State} {state : State} {transfers : List Transfer}

/-- A transfer is entered as it is asked for. -/
theorem transferIn_eq_ok {transfer : Transfer}
    (returned : transferIn contracts msgSender transfer module resolved = .ok next) :
    contracts.onWorld (fun world => world.explicitTransferFrom module.address transfer.component
        msgSender world.setToken.address transfer.quantity) resolved.2 = .ok next.2 ∧
      next.1 = resolved.1 ++ [transfer] := by
  simp only [transferIn, bind_eq_ok, pure_eq_ok] at returned
  obtain ⟨_, collecting, rfl⟩ := returned
  exact ⟨collecting, rfl⟩

theorem transferOut_eq_ok {transfer : Transfer}
    (returned : transferOut contracts recipient transfer module resolved = .ok next) :
    contracts.onWorld (fun world => world.strictInvokeTransfer module.address transfer.component
        recipient transfer.quantity) resolved.2 = .ok next.2 ∧
      next.1 = resolved.1 ++ [transfer] := by
  simp only [transferOut, bind_eq_ok, pure_eq_ok] at returned
  obtain ⟨_, sending, rfl⟩ := returned
  exact ⟨sending, rfl⟩

theorem resolvePosition_transfers {isEquity : Bool} {component : Address}
    {componentQuantity : Nat}
    (returned : resolvePosition contracts msgSender recipient quantity isIssue isEquity component
      componentQuantity module resolved = .ok next) :
    next.1 = resolved.1 ++
      if 0 < componentQuantity then [⟨isIssue, isEquity, component, componentQuantity⟩]
      else [] := by
  unfold resolvePosition at returned
  dsimp only at returned
  split at returned
  · rename_i positive
    rw [if_pos positive]
    split at returned
    · simp only [bind_eq_ok, pure_eq_ok] at returned
      obtain ⟨_, collecting, _, _, rfl⟩ := returned
      exact (transferIn_eq_ok collecting).2
    · rw [bind_eq_ok] at returned
      obtain ⟨_, _, sending⟩ := returned
      exact (transferOut_eq_ok sending).2
  · rename_i none
    rw [if_neg none, List.append_nil, (pure_eq_ok _ _).mp returned]

theorem resolveEquityPositions_transfers
    (returned : resolveEquityPositions contracts msgSender quantity recipient isIssue required
      module resolved = .ok next) :
    next.1 = resolved.1 ++ passTransfers isIssue true required :=
  (Tracing.foldlM_appends Prod.fst (fun _ => True) _ _ required
    (fun _ _ _ _ _ stepped => ⟨trivial, resolvePosition_transfers stepped⟩) resolved next trivial
    returned).2

theorem resolveDebtPositions_transfers
    (returned : resolveDebtPositions contracts msgSender quantity isIssue required module
      resolved = .ok next) : next.1 = resolved.1 ++ passTransfers isIssue false required :=
  (Tracing.foldlM_appends Prod.fst (fun _ => True) _ _ required
    (fun _ _ _ _ _ stepped => ⟨trivial, resolvePosition_transfers stepped⟩) resolved next trivial
    returned).2

/-- The two passes move of a component the equity and the debt of the list. -/
theorem moved_passes (isEquity : Bool) (component : Address) (required : ComponentValues) :
    moved isEquity component (passTransfers isIssue true required) +
      moved isEquity component (passTransfers isIssue false required) =
        quantityOf isEquity component required := by
  rw [moved_passTransfers, moved_passTransfers]
  cases isEquity with
  | true => rw [if_pos rfl, if_neg Bool.false_ne_true, Nat.add_zero]
  | false => rw [if_neg Bool.noConfusion, if_pos rfl, Nat.zero_add]

/-! ### Orders in both directions -/

/-- What the function for off-chain callers returns. -/
def previewOrder (contracts : IssuanceContracts State) (isIssue : Bool) (quantity : Nat)
    (state : State) (module : DebtIssuanceModule) : Outcome (ComponentValues × State) :=
  if isIssue then getRequiredComponentIssuanceUnitsOffChain contracts quantity state module
  else getRequiredComponentRedemptionUnitsOffChain contracts quantity state module

def executeOrder (contracts : IssuanceContracts State) (isIssue : Bool) (msgSender : Address)
    (quantity : Nat) (checkedComponents : List Address) (limits : List Nat) (recipient : Address)
    (state : State) (module : DebtIssuanceModule) : Outcome (List Transfer × State) :=
  if isIssue then
    issueWithSlippage contracts msgSender quantity checkedComponents limits recipient state module
  else
    redeemWithSlippage contracts msgSender quantity checkedComponents limits recipient state module

/-- Before an issuance the manager's hook is called, in the state it is asked for in. -/
def startOrder (contracts : IssuanceContracts State) (isIssue : Bool) (msgSender : Address)
    (quantity : Nat) (recipient : Address) (state : State) (module : DebtIssuanceModule) :
    Outcome State :=
  if isIssue then callManagerPreIssueHooks contracts quantity msgSender recipient state module
  else pure state

/-- What the hooks before an order leave, and the order's quantities computed from it. -/
def Computes (contracts : IssuanceContracts State) (module : DebtIssuanceModule)
    (isIssue : Bool) (quantity : Nat) (state hooked : State) (required : ComponentValues) :
    Prop :=
  (if isIssue then
    callModulePreIssueHooks contracts (module.resolvedQuantity isIssue quantity) state module
  else
    callModulePreRedeemHooks contracts (module.resolvedQuantity isIssue quantity) state module) =
      .ok hooked ∧
  calculateRequiredComponentIssuanceUnits (contracts.world hooked).setToken
    (module.resolvedQuantity isIssue quantity) isIssue = .ok required

theorem totalQuantity_eq {world : World} {fees : TotalFees}
    (returned : module.calculateTotalFees quantity isIssue world = .ok fees) :
    fees.totalQuantity = module.resolvedQuantity isIssue quantity := by
  obtain ⟨_, _, issued, redeemed⟩ := calculateTotalFees_eq_ok returned
  unfold resolvedQuantity
  cases isIssue with
  | true => exact issued rfl
  | false =>
    rw [if_neg Bool.false_ne_true]
    have whole := redeemed rfl
    omega

/-- An issuance moves the quantities computed after its hooks. -/
theorem completeIssueWithSlippage_moves {checkedComponents : List Address}
    {maxTokenAmountsIn : List Nat} {after : State}
    (returned : completeIssueWithSlippage contracts msgSender quantity checkedComponents
      maxTokenAmountsIn recipient state module = .ok (transfers, after)) :
    ∃ hooked required, Computes contracts module true quantity state hooked required ∧
      ∀ isEquity component,
        moved isEquity component transfers = quantityOf isEquity component required := by
  simp only [completeIssueWithSlippage, bind_eq_ok, pure_eq_ok, Prod.mk.injEq] at returned
  obtain ⟨fees, charged, hooked, hooking, required, computed, _, _, collected, collecting, paid,
    paying, _, _, _, _, rfl, _⟩ := returned
  rw [totalQuantity_eq charged] at hooking computed
  refine ⟨hooked, required, ⟨hooking, computed⟩, fun isEquity component => ?_⟩
  rw [resolveDebtPositions_transfers paying, resolveEquityPositions_transfers collecting,
    List.nil_append, moved_append, moved_passes]

/-- A burn before the quantities are computed does not change them. -/
theorem redeemWithSlippage_moves {checkedComponents : List Address}
    {minTokenAmountsOut : List Nat} {after : State}
    (burns : ∀ call before burned, contracts.onWorld (fun world =>
      world.callSetToken (SetToken.burn ⟨world.controller, module.address⟩ call quantity)) before =
        .ok burned → SetToken.SamePositions (contracts.world before).setToken
          (contracts.world burned).setToken)
    (returned : redeemWithSlippage contracts msgSender quantity checkedComponents
      minTokenAmountsOut recipient state module = .ok (transfers, after)) :
    ∃ hooked required, Computes contracts module false quantity state hooked required ∧
      ∀ isEquity component,
        moved isEquity component transfers = quantityOf isEquity component required := by
  simp only [redeemWithSlippage, bind_eq_ok, pure_eq_ok, Prod.mk.injEq] at returned
  obtain ⟨_, _, _, _, fees, charged, hooked, hooking, burned, burning, required, computed, _, _,
    collected, collecting, paid, paying, _, _, rfl, _⟩ := returned
  rw [totalQuantity_eq charged] at hooking computed
  rw [calculateRequired_congr (burns _ _ _ burning)] at computed
  refine ⟨hooked, required, ⟨hooking, computed⟩, fun isEquity component => ?_⟩
  rw [resolveEquityPositions_transfers paying, resolveDebtPositions_transfers collecting,
    List.nil_append, moved_append, add_comm, moved_passes]

/-- An order moves the quantities computed after the hooks of the modules, from the state after
the hook of the manager. -/
theorem executeOrder_moves {checkedComponents : List Address} {limits : List Nat}
    {earlier after : State}
    (burns : ∀ call before burned, contracts.onWorld (fun world =>
      world.callSetToken (SetToken.burn ⟨world.controller, module.address⟩ call quantity)) before =
        .ok burned → SetToken.SamePositions (contracts.world before).setToken
          (contracts.world burned).setToken)
    (started : startOrder contracts isIssue msgSender quantity recipient earlier module =
      .ok state)
    (returned : executeOrder contracts isIssue msgSender quantity checkedComponents limits
      recipient earlier module = .ok (transfers, after)) :
    ∃ hooked required, Computes contracts module isIssue quantity state hooked required ∧
      ∀ isEquity component,
        moved isEquity component transfers = quantityOf isEquity component required := by
  cases isIssue with
  | true =>
    simp only [startOrder, if_true] at started
    simp only [executeOrder, if_true, issueWithSlippage, bind_eq_ok] at returned
    obtain ⟨_, _, _, _, called, calling, completed⟩ := returned
    rw [started, Except.ok.injEq] at calling
    exact completeIssueWithSlippage_moves (calling ▸ completed)
  | false =>
    simp only [startOrder, Bool.false_eq_true, if_false, pure_eq_ok] at started
    simp only [executeOrder, Bool.false_eq_true, if_false] at returned
    exact redeemWithSlippage_moves burns (started ▸ returned)

end Orders

/-! ### What the preview returns -/

section Preview

variable {setToken : SetToken} {quantity : Nat} {isIssue : Bool} {components : List Address}

theorem addAdjustments_map {first second : Address → Int} :
    ∀ {components : List Address} {sums : List Int},
      addAdjustments (components.map first) (components.map second) = .ok sums →
        sums = components.map fun component => first component + second component := by
  intro components
  induction components with
  | nil => exact fun returned => ((pure_eq_ok _ _).mp returned).symm
  | cons component rest inductionHypothesis =>
    intro sums returned
    simp only [List.map_cons, addAdjustments, bind_eq_ok, SignedSafeMath.add_eq_ok,
      pure_eq_ok] at returned
    obtain ⟨_, ⟨_, rfl⟩, _, remaining, rfl⟩ := returned
    rw [inductionHypothesis remaining, List.map_cons]

theorem adjustedQuantities_eq_ok {entry : (Address × Nat × Nat) × Int × Int}
    {adjusted : Address × Nat × Nat}
    (returned : adjustedQuantities quantity isIssue entry = .ok adjusted) :
    adjusted = (entry.1.1,
      equityQuantity isIssue (entry.1.2.1 + entry.2.1).toNat quantity,
      LeverageHooks.notionalDebt isIssue (entry.1.2.2 - entry.2.2).toNat quantity) := by
  simp only [adjustedQuantities, bind_eq_ok, SafeCast.toInt256_eq_ok, SignedSafeMath.add_eq_ok,
    SignedSafeMath.sub_eq_ok, SafeCast.toUint256_eq_ok, pure_eq_ok] at returned
  obtain ⟨_, ⟨_, rfl⟩, _, ⟨_, rfl⟩, equity, equal, _, equityRounded, _, ⟨_, rfl⟩, _, ⟨_, rfl⟩, debt,
    same, _, debtRounded, rfl⟩ := returned
  unfold equityQuantity LeverageHooks.notionalDebt
  rw [equal, same, Int.toNat_natCast, Int.toNat_natCast]
  cases isIssue with
  | true =>
    simp only [if_true, preciseMulCeil_eq_ok, preciseMul_eq_ok] at equityRounded debtRounded ⊢
    rw [equityRounded.2, debtRounded.2]
  | false =>
    simp only [Bool.false_eq_true, if_false, preciseMulCeil_eq_ok, preciseMul_eq_ok]
      at equityRounded debtRounded ⊢
    rw [equityRounded.2, debtRounded.2]

/-- The quantities of a Set whose equity units are adjusted. -/
theorem calculateAdjusted_eq_ok {equityAdjustment : Address → Int} {required : ComponentValues}
    (returned : calculateAdjustedComponentIssuanceUnits setToken quantity isIssue
      (setToken.components.map equityAdjustment) (setToken.components.map fun _ => 0) =
        .ok required) :
    required = setToken.components.map fun component => (component,
      equityQuantity isIssue (equityUnit setToken component + equityAdjustment component).toNat
        quantity,
      LeverageHooks.notionalDebt isIssue (debtUnit setToken component) quantity) := by
  simp only [calculateAdjustedComponentIssuanceUnits, bind_eq_ok] at returned
  obtain ⟨units, computed, rounded⟩ := returned
  rw [getTotalIssuanceUnits_eq_ok computed, List.zip_map', List.zip_map'] at rounded
  rw [mapM_eq_map _ (fun _ _ => adjustedQuantities_eq_ok) _ _ rounded, List.map_map]
  refine List.map_congr_left fun component _ => ?_
  simp

end Preview

end SlippageIssuanceModule

end IndexProtocol

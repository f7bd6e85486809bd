/-
This file describes what the calls of the debt issuance module return and emit.
The equity unit of a component is its default unit and its positive external
units, the debt unit the sum of the others, and an order emits exactly the
transfers of its quantities and the responses of the position modules, pass by
pass and component by component.
-/

import IndexProtocol.Modules.DebtIssuanceModule

namespace IndexProtocol

open Revert PreciseUnitMath

namespace DebtIssuanceModule

variable {Ledger : Type}

/-! ### Units and quantities -/

/-- The default unit of a component and its positive external units. -/
def equityUnit (setToken : SetToken) (component : Address) : Nat :=
  (setToken.defaultRealUnit component +
    ((setToken.externalPositionModules component).map fun module =>
      max (setToken.externalRealUnit component module) 0).sum).toNat

/-- The debt units of a component. -/
def debtUnit (setToken : SetToken) (component : Address) : Nat :=
  ((setToken.externalPositionModules component).map fun module =>
    LeverageHooks.debtUnit module component setToken).sum

/-- The quantity of an equity unit: more than the exact share on issuance, less on
redemption. -/
def equityQuantity (isIssue : Bool) (unit quantity : Nat) : Nat :=
  if isIssue then Rounding.mulCeil preciseUnit unit quantity
  else Rounding.mulFloor preciseUnit unit quantity

/-- The quantity of a unit in one of the passes. -/
def passQuantity (isIssue isEquity : Bool) (quantity : Nat) (units : Address × Nat × Nat) : Nat :=
  if isEquity then equityQuantity isIssue units.2.1 quantity
  else LeverageHooks.notionalDebt isIssue units.2.2 quantity

section Units

variable {setToken : SetToken} {component : Address} {units : ComponentValues}

/-- The loop adds the positive units to the equity and the others to the debt. -/
theorem cumulate_loop (modules : List Address) :
    ∀ cumulative total : Int × Int,
      modules.foldlM (cumulate setToken component) cumulative = .ok total →
        total.1 = cumulative.1 + (modules.map fun module =>
          max (setToken.externalRealUnit component module) 0).sum ∧
        total.2 = cumulative.2 - ((modules.map fun module =>
          LeverageHooks.debtUnit module component setToken).sum : Nat) := by
  induction modules with
  | nil =>
    intro cumulative total returned
    obtain rfl := (pure_eq_ok _ _).mp returned
    simp
  | cons module rest inductionHypothesis =>
    intro cumulative total returned
    rw [List.foldlM_cons, bind_eq_ok] at returned
    obtain ⟨next, first, remaining⟩ := returned
    obtain ⟨equity, debt⟩ := inductionHypothesis next total remaining
    simp only [cumulate, bind_eq_ok, SetToken.getExternalPositionRealUnit_eq_ok] at first
    obtain ⟨_, ⟨_, rfl⟩, added⟩ := first
    rw [equity, debt, List.map_cons, List.sum_cons, List.map_cons, List.sum_cons]
    unfold LeverageHooks.debtUnit
    split at added
    · rename_i positive
      simp only [bind_eq_ok, SignedSafeMath.add_eq_ok, pure_eq_ok] at added
      obtain ⟨_, ⟨_, rfl⟩, rfl⟩ := added
      rw [max_eq_left positive.le, Int.toNat_of_nonpos (by omega)]
      constructor
      · ring
      · rw [zero_add]
    · rename_i notPositive
      simp only [bind_eq_ok, SignedSafeMath.add_eq_ok, pure_eq_ok] at added
      obtain ⟨_, ⟨_, rfl⟩, rfl⟩ := added
      rw [max_eq_right (not_lt.mp notPositive)]
      constructor
      · ring
      · push_cast
        rw [Int.toNat_of_nonneg (by omega)]
        ring

theorem cumulativeUnits_eq_ok {defaultUnit : Int} {total : Nat × Nat}
    (returned : cumulativeUnits setToken component defaultUnit = .ok total) :
    (total.1 : Int) = defaultUnit + ((setToken.externalPositionModules component).map
      fun module => max (setToken.externalRealUnit component module) 0).sum ∧
    total.2 = debtUnit setToken component := by
  simp only [cumulativeUnits, bind_eq_ok, Prod.exists, SafeCast.toUint256_eq_ok,
    SignedSafeMath.mul_eq_ok, pure_eq_ok] at returned
  obtain ⟨_, _, looped, equity, rfl, _, ⟨_, rfl⟩, debt, negated, rfl⟩ := returned
  obtain ⟨summed, owed⟩ := cumulate_loop _ _ _ looped
  refine ⟨summed, ?_⟩
  unfold debtUnit
  simp only at owed ⊢
  omega

theorem totalIssuanceUnits_eq_ok {entry : Address × Nat × Nat}
    (returned : totalIssuanceUnits setToken component = .ok entry) :
    entry = (component, equityUnit setToken component, debtUnit setToken component) := by
  simp only [totalIssuanceUnits, bind_eq_ok, SetToken.getDefaultPositionRealUnit_eq_ok,
    pure_eq_ok, Prod.exists] at returned
  obtain ⟨_, ⟨_, rfl⟩, equity, debt, cumulative, rfl⟩ := returned
  obtain ⟨summed, rfl⟩ := cumulativeUnits_eq_ok cumulative
  unfold equityUnit
  rw [← summed, Int.toNat_natCast]

/-- The units of a Set, component by component. -/
theorem getTotalIssuanceUnits_eq_ok (returned : getTotalIssuanceUnits setToken = .ok units) :
    units = setToken.components.map fun component =>
      (component, equityUnit setToken component, debtUnit setToken component) :=
  mapM_eq_map _ (fun _ _ => totalIssuanceUnits_eq_ok) _ _ returned

theorem orderUnits_eq (returned : getTotalIssuanceUnits setToken = .ok units) :
    orderUnits setToken = units := by
  unfold orderUnits
  rw [returned]

theorem requiredQuantities_eq_ok {quantity : Nat} {isIssue : Bool}
    {unit entry : Address × Nat × Nat}
    (returned : requiredQuantities quantity isIssue unit = .ok entry) :
    entry = (unit.1, passQuantity isIssue true quantity unit,
      passQuantity isIssue false quantity unit) := by
  unfold passQuantity equityQuantity LeverageHooks.notionalDebt
  cases isIssue with
  | true =>
    simp only [requiredQuantities, bind_eq_ok, if_true, preciseMulCeil_eq_ok, preciseMul_eq_ok,
      pure_eq_ok] at returned
    obtain ⟨_, ⟨_, rfl⟩, _, ⟨_, rfl⟩, rfl⟩ := returned
    simp only [if_true, Bool.false_eq_true, if_false]
  | false =>
    simp only [requiredQuantities, bind_eq_ok, Bool.false_eq_true, if_false,
      preciseMulCeil_eq_ok, preciseMul_eq_ok, pure_eq_ok] at returned
    obtain ⟨_, ⟨_, rfl⟩, _, ⟨_, rfl⟩, rfl⟩ := returned
    simp only [if_true, Bool.false_eq_true, if_false]

/-- The quantities an order requires are those of the units it is computed from. -/
theorem calculateRequired_eq_ok {quantity : Nat} {isIssue : Bool} {required : ComponentValues}
    (returned : calculateRequiredComponentIssuanceUnits setToken quantity isIssue =
      .ok required) :
    (∃ units, getTotalIssuanceUnits setToken = .ok units) ∧
    required = (orderUnits setToken).map fun unit =>
      (unit.1, passQuantity isIssue true quantity unit,
        passQuantity isIssue false quantity unit) := by
  simp only [calculateRequiredComponentIssuanceUnits, bind_eq_ok] at returned
  obtain ⟨units, computed, rounded⟩ := returned
  rw [orderUnits_eq computed]
  exact ⟨⟨units, computed⟩, mapM_eq_map _ (fun _ _ => requiredQuantities_eq_ok) _ _ rounded⟩

end Units

/-! ### What the passes emit -/

/-- What the position modules of a component do in a pass. -/
def hookEvents (deployment : Deployment Ledger) (isIssue isEquity : Bool) (quantity : Nat)
    (setToken : SetToken) (component : Address) : List Event :=
  (setToken.externalPositionModules component).flatMap fun module =>
    (deployment.response isIssue isEquity quantity setToken component module).map .operated

/-- What a pass emits for one component: nothing if its quantity is zero. -/
def positionEvents (deployment : Deployment Ledger) (isIssue isEquity : Bool) (quantity : Nat)
    (setToken : SetToken) (component : Address) (componentQuantity : Nat) : List Event :=
  let transferred : Event := .transferred ⟨isIssue, isEquity, component, componentQuantity⟩
  let hooked := hookEvents deployment isIssue isEquity quantity setToken component
  if 0 < componentQuantity then
    if isIssue = isEquity then transferred :: hooked else hooked ++ [transferred]
  else []

def passEvents (deployment : Deployment Ledger) (isIssue isEquity : Bool) (quantity : Nat)
    (setToken : SetToken) : List Event :=
  (orderUnits setToken).flatMap fun unit =>
    positionEvents deployment isIssue isEquity quantity setToken unit.1
      (passQuantity isIssue isEquity quantity unit)

/-- What both passes emit: equity first on issuance, debt first on redemption. -/
def resolutionEvents (deployment : Deployment Ledger) (isIssue : Bool) (quantity : Nat)
    (setToken : SetToken) : List Event :=
  passEvents deployment isIssue isIssue quantity setToken ++
    passEvents deployment isIssue (!isIssue) quantity setToken

section Passes

variable {module : DebtIssuanceModule} {deployment : Deployment Ledger} {movement : Movement Ledger}
  {component : Address} {quantity componentQuantity : Nat} {isIssue isEquity : Bool}
  {before after : Execution Ledger}

/-- A movement that changes nothing but balances and emits the transfer it carries out. -/
structure Movement.OnlyBalances (movement : Movement Ledger) : Prop where
  transferIn : ∀ transfer execution next,
    movement.transferIn transfer execution = .ok next →
      Execution.Emits [.transferred transfer] execution next
  transferOut : ∀ transfer execution next,
    movement.transferOut transfer execution = .ok next →
      Execution.Emits [.transferred transfer] execution next

theorem exactMovement_onlyBalances (msgSender recipient : Address) :
    (module.exactMovement msgSender recipient : Movement Ledger).OnlyBalances where
  transferIn _ _ _ := Execution.carryOut_emits fun _ => Execution.onWorld_emits fun _ returned =>
    (World.explicitTransferFrom_eq_ok returned).1
  transferOut _ _ _ := Execution.carryOut_emits fun _ => Execution.onWorld_emits fun _ returned =>
    (World.strictInvokeTransfer_eq_ok returned).1

theorem hookEvents_congr {setToken other : SetToken} (same : setToken.SamePositions other) :
    hookEvents deployment isIssue isEquity quantity other component =
      hookEvents deployment isIssue isEquity quantity setToken component := by
  unfold hookEvents
  rw [same.externalPositionModules]
  simp only [Deployment.response_congr same]

theorem executeExternalPositionHooks_emits
    (returned : module.executeExternalPositionHooks deployment quantity component isIssue isEquity
      before = .ok after) :
    Execution.Emits (hookEvents deployment isIssue isEquity quantity before.world.setToken
      component) before after := by
  refine Execution.foldlM_emits _ (fun state item next _ only called => ?_) returned
  have emitted := Deployment.callComponentHook_emits called
  rwa [Deployment.response_congr only.samePositions] at emitted

theorem resolvePosition_emits (moves : movement.OnlyBalances)
    (returned : module.resolvePosition deployment movement quantity isIssue isEquity component
      componentQuantity before = .ok after) :
    Execution.Emits (positionEvents deployment isIssue isEquity quantity before.world.setToken
      component componentQuantity) before after := by
  unfold resolvePosition at returned
  unfold positionEvents
  split at returned
  · rename_i positive
    rw [if_pos positive]
    split at returned
    · rename_i collects
      rw [if_pos collects]
      rw [bind_eq_ok] at returned
      obtain ⟨collected, collecting, hooked⟩ := returned
      have paid := moves.transferIn _ _ _ collecting
      have emitted := executeExternalPositionHooks_emits hooked
      rw [hookEvents_congr paid.onlyBalances.samePositions] at emitted
      exact paid.trans emitted
    · rename_i pays
      rw [if_neg pays]
      rw [bind_eq_ok] at returned
      obtain ⟨hooked, hooking, sending⟩ := returned
      exact (executeExternalPositionHooks_emits hooking).trans (moves.transferOut _ _ _ sending)
  · rename_i zero
    rw [if_neg zero]
    exact (pure_eq_ok _ _).mp returned ▸ Execution.Emits.refl _

theorem resolvePass_onlyBalances {required : ComponentValues} (moves : movement.OnlyBalances)
    (returned : module.resolvePass deployment movement quantity isIssue isEquity required before =
      .ok after) : World.OnlyBalances before.world after.world :=
  foldlM_invariant _ (fun state => World.OnlyBalances before.world state.world) required
    (fun _ _ _ _ only called => only.trans (resolvePosition_emits moves called).onlyBalances)
    before after (World.OnlyBalances.refl _) returned

/-- A pass over the quantities of an order emits what the positions of the Set, before any
transfer of the order, determine. -/
theorem resolvePass_emits {start : World} {required : ComponentValues}
    (moves : movement.OnlyBalances) (only : World.OnlyBalances start before.world)
    (quantities : required = (orderUnits start.setToken).map fun unit =>
      (unit.1, passQuantity isIssue true quantity unit,
        passQuantity isIssue false quantity unit))
    (returned : module.resolvePass deployment movement quantity isIssue isEquity required
      before = .ok after) :
    Execution.Emits (passEvents deployment isIssue isEquity quantity start.setToken)
      before after := by
  unfold passEvents
  have emitted := Execution.foldlM_emits
    (fun entry => positionEvents deployment isIssue isEquity quantity start.setToken entry.1
      (if isEquity then entry.2.1 else entry.2.2))
    (fun state entry next _ kept called => ?_) returned
  · have selected : ∀ unit, (if isEquity = true then passQuantity isIssue true quantity unit
        else passQuantity isIssue false quantity unit) =
        passQuantity isIssue isEquity quantity unit := by
      intro unit
      cases isEquity <;> simp
    rw [quantities, List.flatMap_map] at emitted
    simpa only [selected] using emitted
  · have step := resolvePosition_emits moves called
    unfold positionEvents at step ⊢
    rwa [hookEvents_congr (only.trans kept).samePositions] at step

end Passes

/-! ### Minting and burning -/

section Minting

variable {module : DebtIssuanceModule} {recipient : Address} {quantity : Nat}
  {before after : Execution Ledger}

/-- The tokens are added to the supply, no balance falls, and no position changes. -/
structure Mints (mints : List (Address × Nat)) (before after : Execution Ledger) : Prop where
  totalSupply : after.world.setToken.totalSupply =
    before.world.setToken.totalSupply + (mints.map Prod.snd).sum
  trace : after.events = before.events ++ mints.map fun mint => .minted mint.1 mint.2
  balances : ∀ account,
    before.world.setToken.balanceOf account ≤ after.world.setToken.balanceOf account
  frame : ∃ supply balances, after.world = { before.world with
    setToken := { before.world.setToken with totalSupply := supply, balanceOf := balances } }

theorem Mints.nil (execution : Execution Ledger) : Mints [] execution execution :=
  ⟨rfl, (List.append_nil _).symm, fun _ => le_rfl, execution.world.setToken.totalSupply,
    execution.world.setToken.balanceOf, rfl⟩

theorem mint_eq_ok (returned : module.mint recipient quantity before = .ok after) :
    Mints [(recipient, quantity)] before after := by
  obtain ⟨minted, minting, rfl⟩ := Execution.carryOut_eq_ok.mp returned
  obtain ⟨called, stored⟩ := Execution.onWorld_eq_ok minting
  obtain ⟨entered, written⟩ := World.callSetToken_eq_ok called
  obtain ⟨_, edited⟩ := SetToken.mint_eq_ok entered
  have supply : minted.world.setToken.totalSupply =
      before.world.setToken.totalSupply + quantity := by rw [edited]
  rw [edited] at written
  refine ⟨supply, ?_, fun account => ?_, _, _, written⟩
  · rw [stored]
    rfl
  · show _ ≤ minted.world.setToken.balanceOf account
    rw [edited]
    show _ ≤ Function.update before.world.setToken.balanceOf recipient _ account
    rcases eq_or_ne account recipient with rfl | other
    · rw [Function.update_self]
      exact Nat.le_add_right _ _
    · rw [Function.update_of_ne other]

theorem Mints.trans {middle : Execution Ledger} {first second : List (Address × Nat)}
    (start : Mints first before middle) (rest : Mints second middle after) :
    Mints (first ++ second) before after := by
  obtain ⟨_, _, stored⟩ := rest.frame
  obtain ⟨_, _, written⟩ := start.frame
  refine ⟨?_, ?_, fun account => (start.balances account).trans (rest.balances account),
    after.world.setToken.totalSupply, after.world.setToken.balanceOf, ?_⟩
  · rw [rest.totalSupply, start.totalSupply, List.map_append, List.sum_append, Nat.add_assoc]
  · rw [rest.trace, start.trace, List.map_append, List.append_assoc]
  · rw [stored, written]

/-- The fee tokens: none without a manager fee. -/
def feeMints (module : DebtIssuanceModule) (controller : Controller)
    (managerFee protocolFee : Nat) : List (Address × Nat) :=
  if 0 < managerFee then
    (module.feeRecipient, managerFee) ::
      (if 0 < protocolFee then [(controller.feeRecipient, protocolFee)] else [])
  else []

theorem resolveFees_eq_ok {managerFee protocolFee : Nat}
    (returned : module.resolveFees managerFee protocolFee before = .ok after) :
    Mints (module.feeMints before.world.controller managerFee protocolFee) before after := by
  unfold resolveFees at returned
  unfold feeMints
  split at returned
  · rename_i managerPaid
    rw [if_pos managerPaid]
    rw [bind_eq_ok] at returned
    obtain ⟨minted, first, remaining⟩ := returned
    have paid := mint_eq_ok first
    obtain ⟨_, _, stored⟩ := paid.frame
    split at remaining
    · rename_i protocolPaid
      rw [if_pos protocolPaid]
      have second := mint_eq_ok remaining
      rw [stored] at second
      exact paid.trans second
    · rename_i unpaid
      rw [if_neg unpaid]
      exact (pure_eq_ok _ _).mp remaining ▸ paid
  · rename_i unpaid
    rw [if_neg unpaid]
    exact (pure_eq_ok _ _).mp returned ▸ Mints.nil _

/-- The burn of a quantity, after which nothing else has changed but the balances. -/
structure Burns (quantity : Nat) (before after : Execution Ledger) : Prop where
  enough : quantity ≤ before.world.setToken.totalSupply
  frame : ∃ balances, after = { before with world := { before.world with setToken :=
    { before.world.setToken with
      totalSupply := before.world.setToken.totalSupply - quantity
      balanceOf := balances } } }

theorem burn_eq_ok {burner account : Address}
    (returned : before.onWorld (fun world => world.callSetToken
      (SetToken.burn ⟨world.controller, burner⟩ account quantity)) = .ok after) :
    Burns quantity before after := by
  obtain ⟨called, stored⟩ := Execution.onWorld_eq_ok returned
  obtain ⟨entered, written⟩ := World.callSetToken_eq_ok called
  obtain ⟨_, enough, edited⟩ := SetToken.burn_eq_ok entered
  rw [edited] at written
  rw [written] at stored
  exact ⟨enough, _, stored⟩

end Minting

/-! ### Before an order -/

section Preparation

variable {module : DebtIssuanceModule} {deployment : Deployment Ledger}
  {msgSender recipient : Address} {quantity : Nat} {before after : Execution Ledger}

theorem prepareIssue_eq_ok
    (returned : module.prepareIssue deployment msgSender quantity recipient before =
      .ok after) : 0 < quantity ∧ Execution.Prepares before after := by
  simp only [prepareIssue, bind_eq_ok, require_eq_ok] at returned
  obtain ⟨_, _, _, positive, hooked, calling, looped⟩ := returned
  have first : Execution.Prepares before hooked := by
    unfold callManagerPreIssueHooks at calling
    split at calling
    · simp only [bind_eq_ok, pure_eq_ok, Prod.exists] at calling
      obtain ⟨_, _, called, rfl⟩ := calling
      exact ⟨rfl, deployment.preIssueHook_bookkeeping _ _ _ _ _ _ _ _ called⟩
    · exact (pure_eq_ok _ _).mp calling ▸ Execution.Prepares.refl _
  exact ⟨positive, first.trans
    (Execution.foldlM_prepares (fun _ _ _ => Deployment.callModuleHook_prepares) looped)⟩

theorem prepareRedeem_eq_ok
    (returned : module.prepareRedeem deployment quantity before = .ok after) :
    0 < quantity ∧ Execution.Prepares before after := by
  simp only [prepareRedeem, bind_eq_ok, require_eq_ok] at returned
  obtain ⟨_, _, _, positive, looped⟩ := returned
  exact ⟨positive,
    Execution.foldlM_prepares (fun _ _ _ => Deployment.callModuleHook_prepares) looped⟩

end Preparation

/-! ### Issue and redeem -/

section Orders

variable {module : DebtIssuanceModule} {deployment : Deployment Ledger}
  {msgSender recipient : Address} {quantity : Nat} {before after : Execution Ledger}

/-- Both passes over the quantities of an order emit what the positions of the Set, before the
order is recorded, determine. -/
theorem resolution_emits {isIssue : Bool} {total : Nat} {required : ComponentValues}
    {first second : Movement Ledger} {collected resolved : Execution Ledger}
    (firstMoves : first.OnlyBalances) (secondMoves : second.OnlyBalances)
    (computed : calculateRequiredComponentIssuanceUnits before.world.setToken total isIssue =
      .ok required)
    (collecting : module.resolvePass deployment first total isIssue isIssue required
      (before.record (.ordered ⟨isIssue, quantity, orderUnits before.world.setToken⟩)) =
        .ok collected)
    (resolving : module.resolvePass deployment second total isIssue (!isIssue) required
      collected = .ok resolved) :
    Execution.Emits (.ordered ⟨isIssue, quantity, orderUnits before.world.setToken⟩ ::
      resolutionEvents deployment isIssue total before.world.setToken) before resolved := by
  obtain ⟨_, quantities⟩ := calculateRequired_eq_ok computed
  have ordered := Execution.emits_record
    (.ordered ⟨isIssue, quantity, orderUnits before.world.setToken⟩) before
  have firstPass := resolvePass_emits firstMoves ordered.onlyBalances quantities collecting
  have secondPass := resolvePass_emits secondMoves
    (ordered.trans firstPass).onlyBalances quantities resolving
  exact ordered.trans (firstPass.trans secondPass)

/-- The fee of an order, at the rate for its kind. -/
def totalFee (module : DebtIssuanceModule) (isIssue : Bool) (quantity : Nat) : Nat :=
  Rounding.mulFloor preciseUnit
    (if isIssue then module.managerIssueFee else module.managerRedeemFee) quantity

/-- The fee is split between the manager and the protocol; it is issued on top of the quantity
or kept from it. -/
theorem calculateTotalFees_eq_ok {isIssue : Bool} {world : World} {fees : TotalFees}
    (returned : module.calculateTotalFees quantity isIssue world = .ok fees) :
    fees.protocolFee = Rounding.mulFloor preciseUnit (module.totalFee isIssue quantity)
      (world.controller.getModuleFee module.address protocolFeeSplitIndex) ∧
    fees.managerFee + fees.protocolFee = module.totalFee isIssue quantity ∧
    (isIssue = true → fees.totalQuantity = quantity + module.totalFee true quantity) ∧
    (isIssue = false → fees.totalQuantity + module.totalFee false quantity = quantity) := by
  simp only [calculateTotalFees, bind_eq_ok, preciseMul_eq_ok, SafeMath.sub_eq_ok,
    pure_eq_ok] at returned
  obtain ⟨_, ⟨_, rfl⟩, _, ⟨_, rfl⟩, _, ⟨within, rfl⟩, summed, adjusted, rfl⟩ := returned
  refine ⟨rfl, Nat.sub_add_cancel within, ?_, ?_⟩
  · rintro rfl
    rw [if_pos rfl, SafeMath.add_eq_ok] at adjusted
    exact adjusted.2.symm
  · rintro rfl
    rw [if_neg (by simp), SafeMath.sub_eq_ok] at adjusted
    obtain ⟨kept, rfl⟩ := adjusted
    exact Nat.sub_add_cancel kept

/-- Without a fee rate the whole quantity is issued or redeemed. -/
theorem calculateTotalFees_feeless {isIssue : Bool} {world : World} {fees : TotalFees}
    (feeless : (if isIssue then module.managerIssueFee else module.managerRedeemFee) = 0)
    (returned : module.calculateTotalFees quantity isIssue world = .ok fees) :
    fees.totalQuantity = quantity := by
  obtain ⟨_, _, issued, redeemed⟩ := calculateTotalFees_eq_ok returned
  have none : module.totalFee isIssue quantity = 0 := by
    unfold totalFee Rounding.mulFloor
    rw [feeless, zero_mul, Nat.zero_div]
  cases isIssue with
  | true => rw [issued rfl, none, Nat.add_zero]
  | false => rw [← redeemed rfl, none, Nat.add_zero]

theorem completeIssue_eq_ok
    (returned : module.completeIssue deployment msgSender quantity recipient before =
      .ok after) :
    ∃ fees resolved, module.calculateTotalFees quantity true before.world = .ok fees ∧
      (∃ units, getTotalIssuanceUnits before.world.setToken = .ok units) ∧
      Execution.Emits (.ordered ⟨true, quantity, orderUnits before.world.setToken⟩ ::
        resolutionEvents deployment true fees.totalQuantity before.world.setToken)
        before resolved ∧
      Mints (module.feeMints resolved.world.controller fees.managerFee fees.protocolFee ++
        [(recipient, quantity)]) resolved after := by
  simp only [completeIssue, bind_eq_ok] at returned
  obtain ⟨fees, charged, required, computed, collected, collecting, resolved, resolving, paid,
    paying, minting⟩ := returned
  refine ⟨fees, resolved, charged, (calculateRequired_eq_ok computed).1, ?_,
    (resolveFees_eq_ok paying).trans (mint_eq_ok minting)⟩
  exact resolution_emits (exactMovement_onlyBalances _ _) (exactMovement_onlyBalances _ _)
    computed collecting resolving

theorem completeRedeem_eq_ok
    (returned : module.completeRedeem deployment msgSender quantity recipient before =
      .ok after) :
    ∃ burned fees resolved,
      Burns quantity before burned ∧
      module.calculateTotalFees quantity false burned.world = .ok fees ∧
      (∃ units, getTotalIssuanceUnits burned.world.setToken = .ok units) ∧
      Execution.Emits (.ordered ⟨false, quantity, orderUnits burned.world.setToken⟩ ::
        resolutionEvents deployment false fees.totalQuantity burned.world.setToken)
        burned resolved ∧
      Mints (module.feeMints resolved.world.controller fees.managerFee fees.protocolFee)
        resolved after := by
  simp only [completeRedeem, bind_eq_ok] at returned
  obtain ⟨burned, burning, fees, charged, required, computed, collected, collecting, resolved,
    resolving, paying⟩ := returned
  refine ⟨burned, fees, resolved, burn_eq_ok burning, charged,
    (calculateRequired_eq_ok computed).1, ?_, resolveFees_eq_ok paying⟩
  exact resolution_emits (exactMovement_onlyBalances _ _) (exactMovement_onlyBalances _ _)
    computed collecting resolving

end Orders

/-! ### The trace of a whole order -/

section Congruence

variable {module : DebtIssuanceModule} {deployment : Deployment Ledger}
  {isIssue isEquity : Bool} {quantity : Nat} {setToken other : SetToken} {world : World}

/-- The units of a Set depend on its positions alone. -/
theorem getTotalIssuanceUnits_congr (same : setToken.SamePositions other) :
    getTotalIssuanceUnits other = getTotalIssuanceUnits setToken := by
  unfold getTotalIssuanceUnits totalIssuanceUnits cumulativeUnits cumulate
    SetToken.getDefaultPositionRealUnit SetToken.getExternalPositionRealUnit
    SetToken.convertVirtualToRealUnit SetToken.defaultPositionVirtualUnit
    SetToken.externalPositionVirtualUnit SetToken.externalPositionModules
  simp only [same.components, same.componentPositions, same.positionMultiplier]

theorem resolutionEvents_congr (same : setToken.SamePositions other) :
    resolutionEvents deployment isIssue quantity other =
      resolutionEvents deployment isIssue quantity setToken := by
  unfold resolutionEvents passEvents orderUnits positionEvents
  simp only [getTotalIssuanceUnits_congr same, hookEvents_congr same]

/-- The quantities an order requires depend on the positions alone. -/
theorem calculateRequired_congr (same : setToken.SamePositions other) :
    calculateRequiredComponentIssuanceUnits other quantity isIssue =
      calculateRequiredComponentIssuanceUnits setToken quantity isIssue := by
  unfold calculateRequiredComponentIssuanceUnits
  rw [getTotalIssuanceUnits_congr same]

/-- The fees depend on the world through the controller alone. -/
theorem calculateTotalFees_congr {other : World} (same : other.controller = world.controller) :
    module.calculateTotalFees quantity isIssue other =
      module.calculateTotalFees quantity isIssue world := by
  unfold calculateTotalFees
  rw [same]

end Congruence

/-- The quantity an order is resolved with: with the fee on issuance, net of it on
redemption. -/
def resolvedQuantity (module : DebtIssuanceModule) (isIssue : Bool) (quantity : Nat) : Nat :=
  if isIssue then quantity + module.totalFee true quantity
  else quantity - module.totalFee false quantity

section Traces

variable {module : DebtIssuanceModule} {deployment : Deployment Ledger}
  {msgSender recipient : Address} {quantity : Nat} {start prepared after : Execution Ledger}

/-- What an order leaves in an empty trace: the order, what its passes emit at the positions
after the hooks, and the mints. -/
structure Traced (module : DebtIssuanceModule) (deployment : Deployment Ledger) (isIssue : Bool)
    (quantity : Nat) (setToken : SetToken) (events : List Event) : Prop where
  bookkeeping : PositionBookkeeping setToken
  computed : ∃ units, getTotalIssuanceUnits setToken = .ok units
  trace : ∃ (units : ComponentValues) (mints : List (Address × Nat)),
    events = (Event.ordered ⟨isIssue, quantity, units⟩ ::
      resolutionEvents deployment isIssue (module.resolvedQuantity isIssue quantity) setToken) ++
        mints.map fun mint => Event.minted mint.1 mint.2

/-- What an issuance emits and mints after the hooks is its trace. -/
theorem Traced.of_issue {fees : TotalFees} {resolved : Execution Ledger}
    {mints : List (Address × Nat)} (kept : PositionBookkeeping start.world.setToken)
    (empty : start.events = [])
    (preparing : module.prepareIssue deployment msgSender quantity recipient start =
      .ok prepared)
    (charged : module.calculateTotalFees quantity true prepared.world = .ok fees)
    (computed : ∃ units, getTotalIssuanceUnits prepared.world.setToken = .ok units)
    (emitted : Execution.Emits (.ordered ⟨true, quantity, orderUnits prepared.world.setToken⟩ ::
      resolutionEvents deployment true fees.totalQuantity prepared.world.setToken)
      prepared resolved)
    (minted : Mints mints resolved after) :
    Traced module deployment true quantity prepared.world.setToken after.events := by
  obtain ⟨_, trace, bookkeeping⟩ := prepareIssue_eq_ok preparing
  obtain ⟨_, _, whole, _⟩ := calculateTotalFees_eq_ok charged
  refine ⟨bookkeeping kept, computed, orderUnits prepared.world.setToken, mints, ?_⟩
  rw [minted.trace, emitted.trace, trace, empty, whole rfl, List.nil_append, resolvedQuantity,
    if_pos rfl]

theorem issue_traced (kept : PositionBookkeeping start.world.setToken)
    (empty : start.events = [])
    (preparing : module.prepareIssue deployment msgSender quantity recipient start =
      .ok prepared)
    (issued : module.issue deployment msgSender quantity recipient start = .ok after) :
    Traced module deployment true quantity prepared.world.setToken after.events := by
  rw [issue, preparing] at issued
  obtain ⟨fees, resolved, charged, computed, emitted, minted⟩ := completeIssue_eq_ok issued
  exact .of_issue kept empty preparing charged computed emitted minted

theorem redeem_traced (kept : PositionBookkeeping start.world.setToken)
    (empty : start.events = [])
    (preparing : module.prepareRedeem deployment quantity start = .ok prepared)
    (redeemed : module.redeem deployment msgSender quantity recipient start = .ok after) :
    Traced module deployment false quantity prepared.world.setToken after.events := by
  rw [redeem, preparing] at redeemed
  obtain ⟨_, trace, bookkeeping⟩ := prepareRedeem_eq_ok preparing
  obtain ⟨burned, fees, resolved, ⟨_, _, stored⟩, charged, computed, emitted, minted⟩ :=
    completeRedeem_eq_ok redeemed
  obtain ⟨_, _, _, whole⟩ := calculateTotalFees_eq_ok charged
  have net : fees.totalQuantity = module.resolvedQuantity false quantity := by
    have sum := whole rfl
    rw [resolvedQuantity, if_neg Bool.false_ne_true]
    omega
  have same : prepared.world.setToken.SamePositions burned.world.setToken := by
    rw [stored]
    exact ⟨rfl, rfl, rfl⟩
  have silent : burned.events = [] := by rw [stored, trace, empty]
  refine ⟨bookkeeping kept, ?_, orderUnits burned.world.setToken,
    module.feeMints resolved.world.controller fees.managerFee fees.protocolFee, ?_⟩
  · rwa [getTotalIssuanceUnits_congr same] at computed
  · rw [minted.trace, emitted.trace, silent, net, List.nil_append, resolutionEvents_congr same]

end Traces

end DebtIssuanceModule

end IndexProtocol

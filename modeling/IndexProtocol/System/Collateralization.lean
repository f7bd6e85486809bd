/-
This file proves that the second version of the debt issuance module leaves every
component it touches collateralized, whatever the tokens do. The check after each
transfer is made with a predicted supply. A transfer of another token does not
undo what it establishes, and the supply after the order is at most the
prediction, as no more than the fee is minted on top of the quantity.
-/

import IndexProtocol.Modules.DebtIssuanceModuleV2
import IndexProtocol.System.OrderAccounting

namespace IndexProtocol

open Revert PreciseUnitMath

/-- The Set holds of a component what a supply requires at the component's default unit, rounded
up. -/
def World.Covers (world : World) (supply : Nat) (component : Address) : Prop :=
  ∃ unit : Nat, world.setToken.defaultRealUnit component = unit ∧
    Rounding.mulCeil preciseUnit supply unit ≤ world.held component

/-- The Set holds of a component what its own supply requires. -/
def World.Collateralized (world : World) (component : Address) : Prop :=
  world.Covers world.setToken.totalSupply component

namespace World

variable {world next : World} {component token : Address} {supply less : Nat}

/-- A cover for a supply covers a smaller one. -/
theorem Covers.mono (covered : world.Covers supply component) (fewer : less ≤ supply) :
    world.Covers less component := by
  obtain ⟨unit, read, enough⟩ := covered
  exact ⟨unit, read, (Rounding.mulCeil_mono preciseUnit_pos fewer).trans enough⟩

/-- Two shares rounded up cover the share of both. -/
theorem covers_add {first second unit : Nat}
    (read : world.setToken.defaultRealUnit component = unit)
    (enough : Rounding.mulCeil preciseUnit first unit + Rounding.mulCeil preciseUnit unit second ≤
      world.held component) : world.Covers (first + second) component := by
  refine ⟨unit, read, ((Rounding.mulCeil_le_iff preciseUnit (first + second) unit
    preciseUnit_pos _).mpr ?_).trans enough⟩
  rw [Nat.add_mul, Nat.add_mul, mul_comm second unit]
  exact Nat.add_le_add (Rounding.le_mulCeil_mul preciseUnit first unit preciseUnit_pos)
    (Rounding.le_mulCeil_mul preciseUnit unit second preciseUnit_pos)

/-- A change of another token's balances keeps the cover. -/
theorem Covers.onlyToken (covered : world.Covers supply component)
    (only : OnlyToken token world next) (different : component ≠ token) :
    next.Covers supply component := by
  obtain ⟨unit, read, enough⟩ := covered
  refine ⟨unit, (only.onlyBalances.defaultRealUnit component).trans read, ?_⟩
  have same : next.held component = world.held component := by
    unfold held
    rw [only.onlyBalances.address]
    exact only.others component different _
  exact same ▸ enough

end World

/-! ### What minting leaves to the cover -/

namespace DebtIssuanceModule

variable {Ledger : Type} {module : DebtIssuanceModule} {before after : Execution Ledger}
  {mints : List (Address × Nat)} {supply : Nat} {component : Address}

/-- Minting takes nothing from the Set, not even of its own tokens. -/
theorem Mints.held_le (minted : Mints mints before after) (component : Address) :
    before.world.held component ≤ after.world.held component := by
  have balances := minted.balances
  obtain ⟨_, _, stored⟩ := minted.frame
  rw [stored] at balances ⊢
  unfold World.held World.balanceOf World.token
  by_cases self : component = before.world.setToken.address
  · rw [if_pos self, if_pos self]
    exact balances _
  · rw [if_neg self, if_neg self]

theorem Mints.covers (minted : Mints mints before after)
    (covered : before.world.Covers supply component) : after.world.Covers supply component := by
  obtain ⟨unit, read, enough⟩ := covered
  refine ⟨unit, ?_, enough.trans (minted.held_le component)⟩
  obtain ⟨_, _, stored⟩ := minted.frame
  rw [stored, ← read]
  rfl

/-- No more fee tokens are minted than the fee. -/
theorem feeMints_sum_le (module : DebtIssuanceModule) (controller : Controller)
    (managerFee protocolFee : Nat) :
    ((module.feeMints controller managerFee protocolFee).map Prod.snd).sum ≤
      managerFee + protocolFee := by
  unfold feeMints
  split
  · split <;> simp
  · exact Nat.zero_le _

/-! ### Sets without external positions -/

variable {deployment : Deployment Ledger} {movement : Movement Ledger}
  {quantity componentQuantity : Nat} {isIssue isEquity : Bool}

theorem executeExternalPositionHooks_bare
    (bare : before.world.setToken.externalPositionModules component = []) :
    module.executeExternalPositionHooks deployment quantity component isIssue isEquity before =
      .ok before := by
  unfold executeExternalPositionHooks
  rw [bare]
  rfl

/-- Without external positions a component is transferred if its quantity is positive, and
nothing else happens. -/
theorem resolvePosition_bare (moves : movement.OnlyBalances)
    (bare : before.world.setToken.externalPositionModules component = [])
    (returned : module.resolvePosition deployment movement quantity isIssue isEquity component
      componentQuantity before = .ok after) :
    componentQuantity = 0 ∧ after = before ∨
    ∃ moved, (if isIssue = isEquity then
          movement.transferIn ⟨isIssue, isEquity, component, componentQuantity⟩ before
        else movement.transferOut ⟨isIssue, isEquity, component, componentQuantity⟩ before) =
          .ok moved ∧
      after.world = moved.world := by
  unfold resolvePosition at returned
  split at returned
  · right
    split at returned
    · rename_i collects
      rw [if_pos collects]
      rw [bind_eq_ok] at returned
      obtain ⟨collected, collecting, hooked⟩ := returned
      have same := (moves.transferIn _ _ _ collecting).onlyBalances.samePositions
      have stillBare : collected.world.setToken.externalPositionModules component = [] :=
        (same.externalPositionModules component).trans bare
      rw [executeExternalPositionHooks_bare stillBare] at hooked
      obtain rfl := Except.ok.inj hooked
      exact ⟨collected, collecting, rfl⟩
    · rename_i pays
      rw [if_neg pays]
      rw [executeExternalPositionHooks_bare bare] at returned
      simp only [bind_eq_ok, Except.ok.injEq, exists_eq_left'] at returned
      exact ⟨after, returned, rfl⟩
  · rename_i zero
    exact Or.inl ⟨Nat.eq_zero_of_not_pos zero, ((pure_eq_ok _ _).mp returned).symm⟩

/-- If each transfer changes one token and leaves the component covered, a pass leaves every
component covered whose quantity is positive. -/
theorem resolvePass_covers {base : World} {start final : Execution Ledger}
    {required : ComponentValues} {units : Address → Nat × Nat} (supply : Nat)
    (components : List Address)
    (listed : required = components.map fun component => (component, units component))
    (bare : ∀ component, base.setToken.externalPositionModules component = [])
    (moves : movement.OnlyBalances)
    (covers : ∀ component execution moved, World.OnlyBalances base execution.world →
      (if isIssue = isEquity then movement.transferIn ⟨isIssue, isEquity, component,
          if isEquity then (units component).1 else (units component).2⟩ execution
        else movement.transferOut ⟨isIssue, isEquity, component,
          if isEquity then (units component).1 else (units component).2⟩ execution) =
          .ok moved →
        World.OnlyToken component execution.world moved.world ∧
          moved.world.Covers supply component)
    (only : World.OnlyBalances base start.world)
    (returned : module.resolvePass deployment movement quantity isIssue isEquity required start =
      .ok final) :
    World.OnlyBalances base final.world ∧
      ∀ component ∈ components, 0 < (if isEquity then (units component).1
        else (units component).2) → final.world.Covers supply component := by
  rw [listed] at returned
  unfold resolvePass at returned
  rw [List.foldlM_map] at returned
  have loop := foldlM_establishes _
    (fun state => World.OnlyBalances base state.world)
    (fun component state => 0 < (if isEquity = true then (units component).1
      else (units component).2) → state.world.Covers supply component)
    components (fun state component next holds called => ?_) start final only returned
  · exact ⟨loop.1, loop.2.1⟩
  · rcases resolvePosition_bare moves
      ((holds.samePositions.externalPositionModules component).trans (bare component)) called
      with ⟨zero, rfl⟩ | ⟨moved, moving, stored⟩
    · exact ⟨holds, fun positive => absurd zero positive.ne', fun _ _ held => held⟩
    · obtain ⟨touched, established⟩ := covers component state moved holds moving
      rw [stored]
      exact ⟨holds.trans touched.onlyBalances, fun _ => established,
        fun other different held positive => (held positive).onlyToken touched different⟩

/-- A pass whose quantities are all zero does nothing. -/
theorem resolvePass_nothing {start final : Execution Ledger} {required : ComponentValues}
    (zero : ∀ entry ∈ required, (if isEquity then entry.2.1 else entry.2.2) = 0)
    (returned : module.resolvePass deployment movement quantity isIssue isEquity required start =
      .ok final) : final = start := by
  refine foldlM_invariant _ (fun state => state = start) required
    (fun state entry next member same called => ?_) start final rfl returned
  rw [zero entry member, resolvePosition, if_neg (lt_irrefl 0), pure_eq_ok] at called
  exact called ▸ same

section Bare

variable {setToken : SetToken}

theorem equityUnit_bare (bare : setToken.externalPositionModules component = []) :
    equityUnit setToken component = (setToken.defaultRealUnit component).toNat := by
  unfold equityUnit
  rw [bare, List.map_nil, List.sum_nil, add_zero]

theorem debtUnit_bare (bare : setToken.externalPositionModules component = []) :
    debtUnit setToken component = 0 := by
  unfold debtUnit
  rw [bare, List.map_nil, List.sum_nil]

/-- Without external positions there is equity alone. -/
theorem calculateRequired_bare {required : ComponentValues}
    (bare : ∀ component, setToken.externalPositionModules component = [])
    (returned : calculateRequiredComponentIssuanceUnits setToken quantity isIssue =
      .ok required) :
    required = setToken.components.map fun component => (component,
      equityQuantity isIssue (setToken.defaultRealUnit component).toNat quantity, 0) := by
  obtain ⟨⟨units, computed⟩, quantities⟩ := calculateRequired_eq_ok returned
  rw [quantities, orderUnits_eq computed, getTotalIssuanceUnits_eq_ok computed, List.map_map]
  refine List.map_congr_left fun component _ => ?_
  have none : LeverageHooks.notionalDebt isIssue 0 quantity = 0 := by
    unfold LeverageHooks.notionalDebt Rounding.mulFloor Rounding.mulCeil
    rw [zero_mul, Nat.zero_div, zero_ceilDiv, ite_self]
  simp only [Function.comp_apply, passQuantity, if_true, Bool.false_eq_true, if_false,
    equityUnit_bare (bare component), debtUnit_bare (bare component), none]

end Bare

end DebtIssuanceModule

/-! ### The transfers of the second version -/

namespace DebtIssuanceModuleV2

open DebtIssuanceModule IssuanceValidationUtils

variable {Ledger : Type} {module : DebtIssuanceModule} {tokens : TokenContracts Ledger}
  {msgSender recipient component : Address} {initialSetSupply finalSetSupply quantity : Nat}
  {before after : Execution Ledger}

theorem safeTransferFrom_eq_ok {spender sender : Address}
    (returned : before.safeTransferFrom tokens component spender sender recipient quantity =
      .ok after) :
    World.OnlyToken component before.world after.world ∧ after.events = before.events := by
  simp only [Execution.safeTransferFrom, bind_eq_ok, pure_eq_ok, Prod.exists] at returned
  obtain ⟨_, _, called, rfl⟩ := returned
  exact ⟨tokens.transferFrom_onlyToken _ _ _ _ _ _ _ _ _ called, rfl⟩

theorem invokeTransfer_eq_ok
    (returned : before.invokeTransfer tokens module.address component recipient quantity =
      .ok after) :
    World.OnlyToken component before.world after.world ∧ after.events = before.events := by
  unfold Execution.invokeTransfer at returned
  split at returned
  · simp only [bind_eq_ok, pure_eq_ok, Prod.exists] at returned
    obtain ⟨_, _, _, _, called, rfl⟩ := returned
    exact ⟨tokens.transfer_onlyToken _ _ _ _ _ _ _ _ called, rfl⟩
  · obtain rfl := (pure_eq_ok _ _).mp returned
    exact ⟨⟨World.OnlyBalances.refl _, fun _ _ _ => rfl⟩, rfl⟩

/-- After a transfer in, the Set holds what the supply before the order requires, and the
quantity. -/
theorem transferIn_eq_ok {transfer : Transfer}
    (returned : (looseMovement module tokens msgSender recipient initialSetSupply
      finalSetSupply).transferIn transfer before = .ok after) :
    World.OnlyToken transfer.component before.world after.world ∧
      after.events = before.events ++ [.transferred transfer] ∧
      ∃ unit : Nat, after.world.setToken.defaultRealUnit transfer.component = unit ∧
        Rounding.mulCeil preciseUnit initialSetSupply unit + transfer.quantity ≤
          after.world.held transfer.component := by
  simp only [looseMovement, bind_eq_ok, pure_eq_ok, Execution.carryOut_eq_ok] at returned
  obtain ⟨_, ⟨moved, collecting, rfl⟩, _, checked, rfl⟩ := returned
  obtain ⟨touched, silent⟩ := safeTransferFrom_eq_ok collecting
  exact ⟨touched, congrArg (· ++ [_]) silent,
    validateCollateralizationPostTransferInPreHook_eq_ok checked⟩

theorem transferOut_eq_ok {transfer : Transfer}
    (returned : (looseMovement module tokens msgSender recipient initialSetSupply
      finalSetSupply).transferOut transfer before = .ok after) :
    World.OnlyToken transfer.component before.world after.world ∧
      after.events = before.events ++ [.transferred transfer] ∧
      after.world.Covers finalSetSupply transfer.component := by
  simp only [looseMovement, bind_eq_ok, pure_eq_ok, Execution.carryOut_eq_ok] at returned
  obtain ⟨_, ⟨moved, sending, rfl⟩, _, checked, rfl⟩ := returned
  obtain ⟨touched, silent⟩ := invokeTransfer_eq_ok sending
  exact ⟨touched, congrArg (· ++ [_]) silent,
    validateCollateralizationPostTransferOut_eq_ok checked⟩

theorem looseMovement_onlyBalances :
    (looseMovement module tokens msgSender recipient initialSetSupply
      finalSetSupply).OnlyBalances where
  transferIn _ _ _ returned := by
    obtain ⟨touched, trace, _⟩ := transferIn_eq_ok returned
    exact ⟨touched.onlyBalances, trace⟩
  transferOut _ _ _ returned := by
    obtain ⟨touched, trace, _⟩ := transferOut_eq_ok returned
    exact ⟨touched.onlyBalances, trace⟩

/-! ### The calls -/

section Orders

variable {deployment : Deployment Ledger}

theorem completeIssue_eq_ok
    (returned : completeIssue module deployment tokens msgSender quantity recipient before =
      .ok after) :
    ∃ fees required collected resolved,
      module.calculateTotalFees quantity true before.world = .ok fees ∧
      calculateRequiredComponentIssuanceUnits before.world.setToken fees.totalQuantity true =
        .ok required ∧
      module.resolvePass deployment (looseMovement module tokens msgSender recipient
          before.world.setToken.totalSupply
          (before.world.setToken.totalSupply + fees.totalQuantity)) fees.totalQuantity true true
          required (before.record (.ordered ⟨true, quantity, orderUnits before.world.setToken⟩)) =
        .ok collected ∧
      module.resolvePass deployment (looseMovement module tokens msgSender msgSender
          before.world.setToken.totalSupply
          (before.world.setToken.totalSupply + fees.totalQuantity)) fees.totalQuantity true false
          required collected = .ok resolved ∧
      Mints (module.feeMints resolved.world.controller fees.managerFee fees.protocolFee ++
        [(recipient, quantity)]) resolved after := by
  simp only [completeIssue, bind_eq_ok, SafeMath.add_eq_ok] at returned
  obtain ⟨fees, charged, required, computed, _, ⟨_, rfl⟩, collected, collecting, resolved,
    resolving, paid, paying, minting⟩ := returned
  exact ⟨fees, required, collected, resolved, charged, computed, collecting, resolving,
    (resolveFees_eq_ok paying).trans (mint_eq_ok minting)⟩

theorem completeRedeem_eq_ok
    (returned : completeRedeem module deployment tokens msgSender quantity recipient before =
      .ok after) :
    ∃ burned fees required collected resolved,
      Burns quantity before burned ∧
      module.calculateTotalFees quantity false burned.world = .ok fees ∧
      calculateRequiredComponentIssuanceUnits burned.world.setToken fees.totalQuantity false =
        .ok required ∧
      module.resolvePass deployment (looseMovement module tokens msgSender msgSender
          before.world.setToken.totalSupply
          (before.world.setToken.totalSupply - fees.totalQuantity)) fees.totalQuantity false false
          required (burned.record (.ordered ⟨false, quantity,
            orderUnits burned.world.setToken⟩)) = .ok collected ∧
      module.resolvePass deployment (looseMovement module tokens msgSender recipient
          before.world.setToken.totalSupply
          (before.world.setToken.totalSupply - fees.totalQuantity)) fees.totalQuantity false true
          required collected = .ok resolved ∧
      Mints (module.feeMints resolved.world.controller fees.managerFee fees.protocolFee)
        resolved after := by
  simp only [completeRedeem, bind_eq_ok, SafeMath.sub_eq_ok] at returned
  obtain ⟨burned, burning, fees, charged, required, computed, _, ⟨_, rfl⟩, collected,
    collecting, resolved, resolving, paying⟩ := returned
  exact ⟨burned, fees, required, collected, resolved, burn_eq_ok burning, charged, computed,
    collecting, resolving, resolveFees_eq_ok paying⟩

/-- The quantities of a Set without external positions: nothing is owed. -/
theorem quantity_of_required {setToken : SetToken} {isIssue : Bool} {total : Nat}
    {required : ComponentValues}
    (bare : ∀ component, setToken.externalPositionModules component = [])
    (computed : calculateRequiredComponentIssuanceUnits setToken total isIssue = .ok required)
    {entry : Address × Nat × Nat} (member : entry ∈ required) :
    entry.1 ∈ setToken.components ∧
      entry.2.1 = equityQuantity isIssue (setToken.defaultRealUnit entry.1).toNat total ∧
      entry.2.2 = 0 := by
  rw [calculateRequired_bare bare computed] at member
  obtain ⟨component, listed, rfl⟩ := List.mem_map.mp member
  exact ⟨listed, rfl, rfl⟩

/-- The check after each transfer in is for the supply with the whole fee. -/
theorem completeIssue_covers {fees : TotalFees} {required : ComponentValues}
    (bare : ∀ component, before.world.setToken.externalPositionModules component = [])
    (charged : module.calculateTotalFees quantity true before.world = .ok fees)
    (computed : calculateRequiredComponentIssuanceUnits before.world.setToken fees.totalQuantity
      true = .ok required)
    (returned : completeIssue module deployment tokens msgSender quantity recipient before =
      .ok after) :
    ∀ entry ∈ required, 0 < entry.2.1 ∨ 0 < entry.2.2 → after.world.Collateralized entry.1 := by
  obtain ⟨used, quantities, collected, resolved, chargedAgain, computedAgain, collecting,
    resolving, minted⟩ := completeIssue_eq_ok returned
  obtain rfl : used = fees := Except.ok.inj (chargedAgain.symm.trans charged)
  obtain rfl : quantities = required := Except.ok.inj (computedAgain.symm.trans computed)
  have covers := resolvePass_covers (before.world.setToken.totalSupply + used.totalQuantity)
    _ (calculateRequired_bare bare computed) bare
    looseMovement_onlyBalances (fun component execution moved holds called => ?_)
    (Execution.emits_record _ before).onlyBalances collecting
  · intro entry member positive
    obtain ⟨listed, equity, none⟩ := quantity_of_required bare computed member
    obtain ⟨kept, covered⟩ := covers
    have unchanged := resolvePass_nothing (fun other found => (if_neg Bool.false_ne_true).trans
      (quantity_of_required bare computed found).2.2) resolving
    have supply := minted.totalSupply
    have paid := feeMints_sum_le module resolved.world.controller used.managerFee used.protocolFee
    obtain ⟨_, whole, issuedQuantity, _⟩ := calculateTotalFees_eq_ok charged
    have exactly := issuedQuantity rfl
    rw [List.map_append, List.sum_append, unchanged, kept.totalSupply] at supply
    simp only [List.map_cons, List.map_nil, List.sum_cons, List.sum_nil] at supply
    rw [unchanged] at minted paid
    refine (minted.covers (covered entry.1 listed ?_)).mono (by omega)
    rw [if_pos rfl, ← equity]
    omega
  · rw [if_pos rfl, if_pos rfl] at called
    obtain ⟨touched, _, unit, read, enough⟩ := transferIn_eq_ok called
    have same : before.world.setToken.defaultRealUnit component = unit := by
      rw [← read, touched.onlyBalances.defaultRealUnit, holds.defaultRealUnit]
    rw [same, Int.toNat_natCast, equityQuantity, if_pos rfl] at enough
    exact ⟨touched, World.covers_add read enough⟩

/-- The check after each transfer out is for the supply without the fee, which is at least what
is left when the fee is minted again. -/
theorem completeRedeem_covers {fees : TotalFees} {required : ComponentValues}
    (bare : ∀ component, before.world.setToken.externalPositionModules component = [])
    (charged : module.calculateTotalFees quantity false before.world = .ok fees)
    (computed : calculateRequiredComponentIssuanceUnits before.world.setToken fees.totalQuantity
      false = .ok required)
    (returned : completeRedeem module deployment tokens msgSender quantity recipient before =
      .ok after) :
    ∀ entry ∈ required, 0 < entry.2.1 ∨ 0 < entry.2.2 → after.world.Collateralized entry.1 := by
  obtain ⟨burned, used, quantities, collected, resolved, ⟨enough, _, stored⟩, chargedAgain,
    computedAgain, collecting, resolving, minted⟩ := completeRedeem_eq_ok returned
  have same : before.world.setToken.SamePositions burned.world.setToken := by
    rw [stored]
    exact ⟨rfl, rfl, rfl⟩
  have supplyBurned : burned.world.setToken.totalSupply =
      before.world.setToken.totalSupply - quantity := by rw [stored]
  have sameController : burned.world.controller = before.world.controller := by rw [stored]
  rw [calculateTotalFees_congr sameController] at chargedAgain
  obtain rfl : used = fees := Except.ok.inj (chargedAgain.symm.trans charged)
  rw [calculateRequired_congr same] at computedAgain
  obtain rfl : quantities = required := Except.ok.inj (computedAgain.symm.trans computed)
  have unchanged := resolvePass_nothing (fun other found => (if_neg Bool.false_ne_true).trans
    (quantity_of_required bare computed found).2.2) collecting
  rw [unchanged] at resolving
  have ordered := Execution.emits_record (.ordered ⟨false, quantity,
    orderUnits burned.world.setToken⟩) burned
  have covers := resolvePass_covers (before.world.setToken.totalSupply - used.totalQuantity)
    _ (calculateRequired_bare bare computed)
    (fun component => (same.externalPositionModules component).trans (bare component))
    looseMovement_onlyBalances (fun component execution moved holds called => ?_)
    ordered.onlyBalances resolving
  · intro entry member positive
    obtain ⟨listed, equity, none⟩ := quantity_of_required bare computed member
    obtain ⟨kept, covered⟩ := covers
    have supply := minted.totalSupply
    have paid := feeMints_sum_le module resolved.world.controller used.managerFee used.protocolFee
    obtain ⟨_, whole, _, redeemedQuantity⟩ := calculateTotalFees_eq_ok charged
    have exactly := redeemedQuantity rfl
    rw [kept.totalSupply, supplyBurned] at supply
    refine (minted.covers (covered entry.1 listed ?_)).mono (by omega)
    rw [if_pos rfl, ← equity]
    omega
  · rw [if_neg Bool.false_ne_true] at called
    obtain ⟨touched, _, covered⟩ := transferOut_eq_ok called
    exact ⟨touched, covered⟩

end Orders

/-- After an issuance or a redemption of a Set without external positions, every component
whose computed quantity is positive is collateralized at the supply the order leaves, whatever
amounts the tokens have moved. -/
theorem collateralized_after (module : DebtIssuanceModule) (deployment : Deployment Ledger)
    (tokens : TokenContracts Ledger) (msgSender : Address) (quantity : Nat) (recipient : Address)
    (start : Execution Ledger) :
    (∀ prepared fees required after,
      module.prepareIssue deployment msgSender quantity recipient start = .ok prepared →
      (∀ component, prepared.world.setToken.externalPositionModules component = []) →
      module.calculateTotalFees quantity true prepared.world = .ok fees →
      calculateRequiredComponentIssuanceUnits prepared.world.setToken fees.totalQuantity true =
        .ok required →
      issue module deployment tokens msgSender quantity recipient start = .ok after →
      ∀ entry ∈ required, 0 < entry.2.1 ∨ 0 < entry.2.2 →
        after.world.Collateralized entry.1) ∧
    (∀ prepared fees required after,
      module.prepareRedeem deployment quantity start = .ok prepared →
      (∀ component, prepared.world.setToken.externalPositionModules component = []) →
      module.calculateTotalFees quantity false prepared.world = .ok fees →
      calculateRequiredComponentIssuanceUnits prepared.world.setToken fees.totalQuantity false =
        .ok required →
      redeem module deployment tokens msgSender quantity recipient start = .ok after →
      ∀ entry ∈ required, 0 < entry.2.1 ∨ 0 < entry.2.2 →
        after.world.Collateralized entry.1) := by
  constructor
  · intro prepared fees required after preparing bare charged computed issued
    rw [issue, preparing] at issued
    exact completeIssue_covers bare charged computed issued
  · intro prepared fees required after preparing bare charged computed redeemed
    rw [redeem, preparing] at redeemed
    exact completeRedeem_covers bare charged computed redeemed

end DebtIssuanceModuleV2

/-! ### A token that is off by one -/

/-- The recipient receives one more than is sent. -/
def roundingTransfer (token sender recipient : Address) (quantity : Nat) (world : World)
    (ledger : Unit) : Outcome (World × Unit) := do
  let moved ← world.callToken token fun token => do
    let senderBalance ← SafeMath.sub (token.balanceOf sender) quantity
    let debited := Function.update token.balanceOf sender senderBalance
    pure { token with
      balanceOf := Function.update debited recipient (debited recipient + quantity + 1) }
  pure (moved, ledger)

theorem roundingTransfer_onlyToken (token sender recipient : Address) (quantity : Nat)
    (world : World) (ledger : Unit) (next : World) (nextLedger : Unit)
    (returned : roundingTransfer token sender recipient quantity world ledger =
      .ok (next, nextLedger)) : World.OnlyToken token world next := by
  simp only [roundingTransfer, bind_eq_ok, pure_eq_ok, Prod.mk.injEq] at returned
  obtain ⟨_, called, rfl, _⟩ := returned
  obtain ⟨stored, moved, rfl⟩ := World.callToken_eq_ok called
  simp only [bind_eq_ok, pure_eq_ok] at moved
  obtain ⟨_, _, rfl⟩ := moved
  exact ⟨World.onlyBalances_storeToken _ _ rfl,
    fun _ different account => World.balanceOf_storeToken_other account _ different⟩

def roundingTokens : TokenContracts Unit where
  transfer := roundingTransfer
  transferFrom token _ := roundingTransfer token
  transfer_onlyToken := roundingTransfer_onlyToken
  transferFrom_onlyToken token _ := roundingTransfer_onlyToken token

/-- An issuance with a token that is off by one leaves its component collateralized. -/
theorem collateralized_after_rounding :
    ∃ after, DebtIssuanceModuleV2.issue (sampleIssuance 0) sampleDeployment roundingTokens 7 5 7
        (sampleExecution (10 ^ 18 / 3) [] 0) = .ok after ∧ after.world.Collateralized 3 := by
  have issued : returns (DebtIssuanceModuleV2.issue (sampleIssuance 0) sampleDeployment
      roundingTokens 7 5 7 (sampleExecution (10 ^ 18 / 3) [] 0)) (fun _ => true) = true := by
    decide +kernel
  have charged : returns ((sampleIssuance 0).calculateTotalFees 5 true
      (sampleExecution (10 ^ 18 / 3) [] 0).world)
      (fun fees => decide (fees.totalQuantity = 5)) = true := by decide +kernel
  have computed : returns (DebtIssuanceModule.calculateRequiredComponentIssuanceUnits
      (sampleExecution (10 ^ 18 / 3) [] 0).world.setToken 5 true)
      (fun required => decide ((3, 2, 0) ∈ required)) = true := by decide +kernel
  obtain ⟨after, returned, _⟩ := exists_of_returns issued
  obtain ⟨fees, charging, whole⟩ := exists_of_returns charged
  obtain ⟨required, computing, listed⟩ := exists_of_returns computed
  refine ⟨after, returned, (DebtIssuanceModuleV2.collateralized_after (sampleIssuance 0)
    sampleDeployment roundingTokens 7 5 7 (sampleExecution (10 ^ 18 / 3) [] 0)).1
      (sampleExecution (10 ^ 18 / 3) [] 0) fees required after rfl (fun component => ?_) charging
      ?_ returned (3, 2, 0) (of_decide_eq_true listed) (Or.inl Nat.two_pos)⟩
  · show (if component = 3 then _ else _ : ComponentPosition).externalPositionModules = []
    split <;> rfl
  · rw [of_decide_eq_true whole]
    exact computing

end IndexProtocol

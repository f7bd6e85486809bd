/-
This file proves when the ledger of settled funding is right. The trace of an
execution has a payment for every call that makes the protocol settle what is
pending, and the amounts the manager withdraws; the ledger is right when it is
the sum of these, stopped at zero. Each function of the module tracks the pending
funding, has the protocol settle it, does both or does neither, and after one
settlement nothing is pending. So a call keeps the ledger right exactly when it
tracks and settles together, or what is pending does not move the ledger.
-/

import IndexProtocol.Modules.PerpV2BasisTradingModule
import IndexProtocol.System.PerpValuation

namespace IndexProtocol

open Revert PreciseUnitMath UnitConversionUtils

/-! ### The ledger a trace determines -/

/-- A payment is added to the ledger, which stops at zero. -/
def track (ledger : Nat) (payment : Int) : Nat := (ledger + payment).toNat

namespace FundingEvent

def enter (ledger : Nat) : FundingEvent → Nat
  | .settled payment => track ledger payment
  | .withdrawn amount => ledger - amount

/-- The running sum of the payments settled less the amounts withdrawn, stopped at zero. -/
def ledgerOf (events : List FundingEvent) : Nat := events.foldl enter 0

theorem ledgerOf_append (events later : List FundingEvent) :
    ledgerOf (events ++ later) = later.foldl enter (ledgerOf events) :=
  List.foldl_append

/-- Payments of nothing do not move the ledger. -/
theorem foldl_enter_zeros (count ledger : Nat) :
    (List.replicate count (settled 0)).foldl enter ledger = ledger := by
  induction count with
  | zero => rfl
  | succ count inductionHypothesis =>
    rw [List.replicate_succ, List.foldl_cons]
    have same : enter ledger (settled 0) = ledger := by simp [enter, track]
    rw [same, inductionHypothesis]

end FundingEvent

open FundingEvent

/-- After a trade or a withdrawal nothing is pending for the account. -/
structure PerpV2.SettlesFunding {Ledger : Type} (perp : PerpV2 Ledger) : Prop where
  openPosition : ∀ params world ledger base quote next nextLedger,
    perp.openPosition params world ledger = .ok (base, quote, next, nextLedger) →
      perp.getAllPendingFundingPayment world.setToken.address nextLedger = 0
  withdraw : ∀ asset quantity world ledger next nextLedger,
    perp.withdraw asset quantity world ledger = .ok (next, nextLedger) →
      perp.getAllPendingFundingPayment world.setToken.address nextLedger = 0

namespace PerpExecution

variable {Ledger : Type} {perp : PerpV2 Ledger} {before middle after : PerpExecution Ledger}

/-! ### What settles and what does not -/

/-- Nothing is settled, and what is pending stays pending. -/
structure Idle (perp : PerpV2 Ledger) (before after : PerpExecution Ledger) : Prop where
  events : after.events = before.events
  pending : after.pendingFunding perp = before.pendingFunding perp

/-- What is pending is settled, and anything settled after it is nothing. -/
structure Settles (perp : PerpV2 Ledger) (before after : PerpExecution Ledger) : Prop where
  events : ∃ more, after.events =
    before.events ++ .settled (before.pendingFunding perp) :: List.replicate more (.settled 0)
  pending : after.pendingFunding perp = 0

theorem Idle.refl (execution : PerpExecution Ledger) : Idle perp execution execution :=
  ⟨rfl, rfl⟩

theorem Idle.trans (first : Idle perp before middle) (second : Idle perp middle after) :
    Idle perp before after :=
  ⟨second.events.trans first.events, second.pending.trans first.pending⟩

theorem Settles.idle (first : Settles perp before middle) (second : Idle perp middle after) :
    Settles perp before after := by
  obtain ⟨more, events⟩ := first.events
  exact ⟨⟨more, second.events.trans events⟩, second.pending.trans first.pending⟩

theorem Settles.trans (first : Settles perp before middle) (second : Settles perp middle after) :
    Settles perp before after := by
  obtain ⟨more, events⟩ := first.events
  obtain ⟨again, later⟩ := second.events
  refine ⟨⟨more + (1 + again), ?_⟩, second.pending⟩
  rw [later, events, first.pending, List.append_assoc, List.cons_append, List.replicate_add,
    List.replicate_add, List.replicate_one, List.singleton_append]

/-- The ledger a settlement leaves. -/
theorem Settles.ledgerOf (settled : Settles perp before after) :
    ledgerOf after.events = track (ledgerOf before.events) (before.pendingFunding perp) := by
  obtain ⟨more, events⟩ := settled.events
  rw [events, ledgerOf_append, List.foldl_cons, foldl_enter_zeros]
  rfl

/-- A call that keeps the Set's address settles nothing by itself. -/
theorem onWorld_idle {call : World → Outcome World}
    (address : ∀ world, call before.world = .ok world →
      world.setToken.address = before.world.setToken.address)
    (returned : before.onWorld call = .ok after) : Idle perp before after := by
  obtain ⟨called, stored⟩ := onWorld_eq_ok returned
  rw [stored]
  refine ⟨rfl, ?_⟩
  unfold pendingFunding
  rw [address _ called]

theorem invokeOpenPosition_settles (settling : perp.SettlesFunding) {module : Address}
    {params : OpenPositionParams} {base quote : Nat}
    (returned : before.invokeOpenPosition perp module params = .ok (base, quote, after)) :
    Settles perp before after := by
  obtain ⟨opened, stored⟩ := invokeOpenPosition_eq_ok returned
  have only := perp.openPosition_onlyBalances _ _ _ _ _ _ _ opened
  refine ⟨⟨0, by rw [stored]; rfl⟩, ?_⟩
  unfold pendingFunding
  rw [only.address, settling.openPosition _ _ _ _ _ _ _ opened, neg_zero]

theorem invokeWithdraw_settles (settling : perp.SettlesFunding) {module asset : Address}
    {amount : Nat} (returned : before.invokeWithdraw perp module asset amount = .ok after) :
    Settles perp before after := by
  obtain ⟨withdrawn, stored⟩ := invokeWithdraw_eq_ok returned
  have only := perp.withdraw_onlyBalances _ _ _ _ _ _ withdrawn
  refine ⟨⟨0, by rw [stored]; rfl⟩, ?_⟩
  unfold pendingFunding
  rw [only.address, settling.withdraw _ _ _ _ _ _ withdrawn, neg_zero]

end PerpExecution

namespace PerpV2LeverageModuleV2

open PerpExecution

variable {Ledger : Type} {perp : PerpV2 Ledger} {msgSender : Address}
  {before after : PerpExecution Ledger} {module next : PerpV2LeverageModuleV2}

/-! ### What the functions for positions settle -/

/-- Withdrawing nothing does nothing. -/
theorem withdrawCollateral_cases (settling : perp.SettlesFunding) {quantity : Nat}
    (returned : module.withdrawCollateral perp quantity before = .ok after) :
    quantity = 0 ∧ after = before ∨ quantity ≠ 0 ∧ Settles perp before after := by
  unfold withdrawCollateral at returned
  split at returned
  · rename_i none
    exact Or.inl ⟨none, ((pure_eq_ok _ _).mp returned).symm⟩
  · rename_i some
    exact Or.inr ⟨some, invokeWithdraw_settles settling returned⟩

theorem updatePositions_idle {balance : Nat}
    (returned : module.updatePositions perp balance before = .ok after) :
    Idle perp before after := by
  simp only [updatePositions, updateExternalPositionUnit, bind_eq_ok] at returned
  obtain ⟨edited, editing, _, _, _, _, _, _, _, _, storing⟩ := returned
  refine (onWorld_idle ?_ editing).trans (onWorld_idle ?_ storing)
  · intro world called
    simp only [bind_eq_ok, Prod.exists, pure_eq_ok] at called
    obtain ⟨_, _, _, _, calculated, rfl⟩ := called
    exact (World.calculateAndEditDefaultPosition_keepsControl calculated).address
  · intro world called
    obtain ⟨called, _⟩ := World.callSetToken_eq_ok called
    obtain ⟨_, _, stored⟩ := (Position.editExternalPosition_editsOnly called).1.only
    rw [stored]

theorem storePositionUnit_idle {unit : Int}
    (returned : module.storePositionUnit unit before = .ok after) : Idle perp before after := by
  refine onWorld_idle (fun world called => ?_) returned
  obtain ⟨called, _⟩ := World.callSetToken_eq_ok called
  obtain ⟨_, _, _, stored⟩ := SetToken.editExternalPositionUnit_eq_ok called
  rw [stored]
  rfl

theorem accrueProtocolFee_cases (settling : perp.SettlesFunding) {quantity : Nat}
    (returned : module.accrueProtocolFee perp quantity before = .ok after) :
    Idle perp before after ∨ Settles perp before after := by
  simp only [accrueProtocolFee, bind_eq_ok] at returned
  obtain ⟨_, _, _, _, withdrawn, withdrawing, paying⟩ := returned
  have pays : Idle perp withdrawn after := by
    refine onWorld_idle (fun world called => ?_) paying
    exact (ModuleBase.payProtocolFeeFromSetToken_eq_ok called).1.address
  rcases withdrawCollateral_cases settling withdrawing with ⟨_, rfl⟩ | ⟨_, settles⟩
  · exact Or.inl pays
  · exact Or.inr (settles.idle pays)

theorem trade_settles (settling : perp.SettlesFunding) {baseToken : Address} {units : Int}
    {bound : Nat}
    (returned : module.trade perp msgSender baseToken units bound before = .ok (next, after)) :
    Settles perp before after := by
  simp only [trade, bind_eq_ok, Prod.exists, pure_eq_ok, Prod.mk.injEq] at returned
  obtain ⟨_, _, _, _, _, _, traded, trading, paid, paying, _, _, _, rfl⟩ := returned
  have trades : Settles perp before traded := invokeOpenPosition_settles settling trading
  rcases accrueProtocolFee_cases settling paying with idle | settles
  · exact trades.idle idle
  · exact trades.trans settles

theorem tradePosition_settles (settling : perp.SettlesFunding) {quantity supply : Int}
    {isIssue : Bool} {value issued : Int} {info : PerpV2Positions.PositionNotionalInfo}
    (returned : tradePosition perp module quantity supply isIssue false (value, before) info =
      .ok (issued, after)) : Settles perp before after := by
  obtain ⟨_, _, traded, _⟩ := tradePosition_eq_ok returned
  exact invokeOpenPosition_settles settling traded

/-- The loop settles if there is anything to trade. -/
theorem tradePositions_cases (settling : perp.SettlesFunding) {quantity supply : Int}
    {isIssue : Bool} (infos : List PerpV2Positions.PositionNotionalInfo) :
    ∀ (value : Int) (before : PerpExecution Ledger) {issued : Int},
      infos.foldlM (tradePosition perp module quantity supply isIssue false) (value, before) =
          .ok (issued, after) →
        if infos = [] then after = before else Settles perp before after := by
  induction infos with
  | nil =>
    intro value before issued returned
    rw [List.foldlM_nil, pure_eq_ok, Prod.mk.injEq] at returned
    rw [if_pos rfl]
    exact returned.2.symm
  | cons info rest inductionHypothesis =>
    intro value before issued returned
    simp only [List.foldlM_cons, bind_eq_ok, Prod.exists] at returned
    obtain ⟨valued, middle, traded, looped⟩ := returned
    have first := tradePosition_settles settling traded
    have later := inductionHypothesis valued middle looped
    rw [if_neg (List.cons_ne_nil info rest)]
    split at later
    · exact later ▸ first
    · exact first.trans later

/-- The account has a position that counts in a listed token. -/
def HoldsOpen (perp : PerpV2 Ledger) (execution : PerpExecution Ledger)
    (module : PerpV2LeverageModuleV2) : Prop :=
  ∃ baseToken ∈ module.positions, CountsOpen perp execution baseToken

instance (execution : PerpExecution Ledger) (module : PerpV2LeverageModuleV2) :
    Decidable (HoldsOpen perp execution module) :=
  inferInstanceAs (Decidable (∃ baseToken ∈ module.positions, _))

/-- The trades settle if the sync leaves anything to trade. -/
theorem executePositionTrades_cases (settling : perp.SettlesFunding)
    (nodup : module.positions.Nodup) {setTokenQuantity : Nat} {isIssue : Bool} {unit : Int}
    (returned : module.executePositionTrades perp setTokenQuantity isIssue false before =
      .ok (unit, next, after)) :
    ¬HoldsOpen perp before module ∧ after = before ∨
      HoldsOpen perp before module ∧ Settles perp before after := by
  simp only [executePositionTrades, bind_eq_ok, Prod.exists, pure_eq_ok, Prod.mk.injEq] at returned
  obtain ⟨synced, syncing, _, _, _, _, _, _, _, _, _, _, looped, _, _, _, _, rfl⟩ := returned
  obtain ⟨positions, rfl, filtered⟩ := syncPositionList_eq_ok nodup syncing
  have traded := tradePositions_cases settling _ _ _ looped
  have nothing : getPositionNotionalInfo perp before { module with positions := positions } = [] ↔
      ¬HoldsOpen perp before module := by
    unfold getPositionNotionalInfo PerpV2Positions.getPositionNotionalInfo HoldsOpen
    rw [List.map_eq_nil_iff, List.eq_nil_iff_forall_not_mem]
    simp only [filtered.mem_iff, List.mem_filter, decide_eq_true_eq]
    simp only [not_exists]
  split at traded
  · rename_i empty
    exact Or.inl ⟨nothing.mp empty, traded⟩
  · rename_i listed
    exact Or.inr ⟨not_not.mp fun closed => listed (nothing.mpr closed), traded⟩

theorem moduleHook_cases (settling : perp.SettlesFunding) (nodup : module.positions.Nodup)
    {setTokenQuantity : Nat} {isIssue : Bool}
    (returned : module.moduleHook perp msgSender setTokenQuantity isIssue before =
      .ok (next, after)) :
    ¬(module.hookProceeds before.world.setToken = true ∧ HoldsOpen perp before module) ∧
        Idle perp before after ∨
      (module.hookProceeds before.world.setToken = true ∧ HoldsOpen perp before module) ∧
        Settles perp before after := by
  rcases moduleHook_eq_ok returned with ⟨stops, _, rfl⟩ | ⟨proceeds, _, traded, executed, storing⟩
  · exact Or.inl ⟨fun both => stops both.1, Idle.refl _⟩
  · have stores : Idle perp traded after := storePositionUnit_idle storing
    rcases executePositionTrades_cases settling nodup executed with
      ⟨closed, rfl⟩ | ⟨holds, settles⟩
    · exact Or.inl ⟨fun both => closed both.2, stores⟩
    · exact Or.inr ⟨⟨proceeds, holds⟩, settles.idle stores⟩

/-- A deposit, by the manager or on an issuance, settles nothing. -/
theorem depositCollateral_events {quantity : Nat}
    (returned : module.depositCollateral perp quantity before = .ok after) :
    after.events = before.events := by
  simp only [depositCollateral, bind_eq_ok] at returned
  obtain ⟨approved, approving, deposited⟩ := returned
  rw [(invokeDeposit_eq_ok deposited).2, (onWorld_eq_ok approving).2]

theorem deposit_events {units : Nat}
    (returned : module.deposit perp msgSender units before = .ok after) :
    after.events = before.events := by
  simp only [deposit, depositAndUpdatePositions, bind_eq_ok] at returned
  obtain ⟨_, _, _, _, _, _, _, _, _, _, _, _, _, depositing, updating⟩ := returned
  have updated : Idle perp _ after := updatePositions_idle updating
  rw [updated.events, depositCollateral_events depositing]

theorem componentIssueHook_events {quantity : Nat} {component : Address} {isEquity : Bool}
    (returned : module.componentIssueHook perp msgSender quantity component isEquity before =
      .ok after) : after.events = before.events := by
  simp only [componentIssueHook, bind_eq_ok] at returned
  obtain ⟨_, _, returned⟩ := returned
  split at returned
  · simp only [bind_eq_ok] at returned
    obtain ⟨_, _, _, _, _, _, depositing⟩ := returned
    exact depositCollateral_events depositing
  · exact congrArg events ((pure_eq_ok _ _).mp returned).symm

/-- The collateral a component hook takes out of the account before a redemption. -/
def redeemedCollateral (setTokenQuantity : Nat) (component : Address)
    (execution : PerpExecution Ledger) (module : PerpV2LeverageModuleV2) : Nat :=
  match execution.world.setToken.getExternalPositionRealUnit component module.address with
  | .ok externalPositionUnit =>
    Rounding.mulFloor preciseUnit setTokenQuantity externalPositionUnit.toNat
  | .error _ => 0

theorem componentRedeemHook_cases (settling : perp.SettlesFunding) {quantity : Nat}
    {component : Address} {isEquity : Bool}
    (returned : module.componentRedeemHook perp msgSender quantity component isEquity before =
      .ok after) :
    if isEquity = true ∧ module.redeemedCollateral quantity component before ≠ 0 then
      Settles perp before after
    else after = before := by
  simp only [componentRedeemHook, bind_eq_ok] at returned
  obtain ⟨_, _, returned⟩ := returned
  cases isEquity with
  | false =>
    rw [if_neg fun both => Bool.false_ne_true both.1]
    exact ((pure_eq_ok _ _).mp returned).symm
  | true =>
    simp only [if_true, bind_eq_ok, SafeCast.toUint256_eq_ok, preciseMul_eq_ok] at returned
    obtain ⟨_, stored, unit, rfl, _, ⟨_, rfl⟩, withdrawing⟩ := returned
    have redeemed : module.redeemedCollateral quantity component before =
        Rounding.mulFloor preciseUnit quantity unit := by
      unfold redeemedCollateral
      rw [stored]
      rfl
    rw [redeemed]
    rcases withdrawCollateral_cases settling withdrawing with ⟨nothing, same⟩ | ⟨something, settles⟩
    · rwa [if_neg fun both => both.2 nothing]
    · rwa [if_pos ⟨rfl, something⟩]

/-- Without supply there is no unit to write. -/
theorem updatePositions_supply {balance : Nat}
    (returned : module.updatePositions perp balance before = .ok after) :
    before.world.setToken.totalSupply ≠ 0 := by
  simp only [updatePositions, updateExternalPositionUnit, bind_eq_ok,
    SafeCast.toInt256_eq_ok] at returned
  obtain ⟨edited, editing, _, _, _, ⟨_, rfl⟩, _, divided, _⟩ := returned
  have supplied := (preciseDivInt_eq_ok divided).1
  obtain ⟨called, _⟩ := onWorld_eq_ok editing
  simp only [bind_eq_ok, Prod.exists, pure_eq_ok] at called
  obtain ⟨_, _, _, _, calculated, rfl⟩ := called
  rw [World.calculateAndEditDefaultPosition_totalSupply calculated] at supplied
  exact Nat.cast_ne_zero.mp supplied

/-- A withdrawal of units always takes something out of the account. -/
theorem withdrawAndUpdatePositions_settles (settling : perp.SettlesFunding) {units : Nat}
    (positive : 0 < units)
    (returned : module.withdrawAndUpdatePositions perp units before = .ok after) :
    Settles perp before after := by
  simp only [withdrawAndUpdatePositions, bind_eq_ok, preciseMulCeil_eq_ok] at returned
  obtain ⟨_, ⟨_, rfl⟩, withdrawn, withdrawing, updating⟩ := returned
  rcases withdrawCollateral_cases settling withdrawing with ⟨nothing, rfl⟩ | ⟨_, settles⟩
  · have supplied := updatePositions_supply updating
    have product : 0 < units * withdrawn.world.setToken.totalSupply :=
      Nat.mul_pos positive (Nat.pos_of_ne_zero supplied)
    have empty := (Rounding.mulCeil_le_iff _ _ _ preciseUnit_pos 0).mp nothing.le
    rw [Nat.zero_mul] at empty
    omega
  · exact settles.idle (updatePositions_idle updating)

end PerpV2LeverageModuleV2

namespace PerpV2BasisTradingModule

open PerpExecution PerpV2LeverageModuleV2

variable {Ledger : Type} {perp : PerpV2 Ledger} {msgSender : Address}
  {before after : PerpExecution Ledger} {module next : PerpV2BasisTradingModule}

/-! ### The ledger the module keeps -/

/-- The module's ledger is the one the trace determines. -/
def Agrees (state : PerpV2BasisTradingModule × PerpExecution Ledger) : Prop :=
  state.1.settledFunding = ledgerOf state.2.events

/-- What is pending does not move the ledger. -/
def Harmless (perp : PerpV2 Ledger) (execution : PerpExecution Ledger)
    (module : PerpV2BasisTradingModule) : Prop :=
  track module.settledFunding (execution.pendingFunding perp) = module.settledFunding

theorem updateSettledFunding_eq_ok
    (returned : module.updateSettledFunding perp before = .ok next) :
    next = { module with
      settledFunding := track module.settledFunding (before.pendingFunding perp) } := by
  simp only [updateSettledFunding, getUpdatedSettledFunding, neg_eq_ok, bind_eq_ok,
    pure_eq_ok] at returned
  obtain ⟨updated, ⟨_, ⟨_, rfl⟩, chosen⟩, rfl⟩ := returned
  have tracked : updated = track module.settledFunding (before.pendingFunding perp) := by
    unfold track pendingFunding
    split at chosen
    · simp only [bind_eq_ok, SafeCast.toUint256_eq_ok, SafeMath.add_eq_ok] at chosen
      obtain ⟨_, gain, _, rfl⟩ := chosen
      omega
    · simp only [bind_eq_ok] at chosen
      obtain ⟨loss, sized, chosen⟩ := chosen
      have size := abs_eq_ok sized
      split at chosen
      · obtain ⟨_, rfl⟩ := (SafeMath.sub_eq_ok _ _ _).mp chosen
        omega
      · rw [pure_eq_ok] at chosen
        omega
  rw [tracked]

theorem inherited_eq_ok {call : Outcome (PerpV2LeverageModuleV2 × PerpExecution Ledger)}
    (returned : module.inherited call = .ok (next, after)) :
    ∃ extended, call = .ok (extended, after) ∧
      next = { module with toPerpV2LeverageModuleV2 := extended } := by
  simp only [inherited, bind_eq_ok, Prod.exists, pure_eq_ok, Prod.mk.injEq] at returned
  obtain ⟨extended, _, called, rfl, rfl⟩ := returned
  exact ⟨extended, called, rfl⟩

/-! ### Calls that track or settle -/

section Ledgers

variable (agrees : Agrees (module, before))

include agrees

theorem agrees_of_neither (same : next.settledFunding = module.settledFunding)
    (events : after.events = before.events) : Agrees (next, after) := by
  unfold Agrees at agrees ⊢
  rw [same, events, agrees]

theorem agrees_of_both
    (tracked : next.settledFunding = track module.settledFunding (before.pendingFunding perp))
    (settles : Settles perp before after) : Agrees (next, after) := by
  unfold Agrees at agrees ⊢
  rw [tracked, settles.ledgerOf, agrees]

theorem agrees_iff_of_tracked
    (tracked : next.settledFunding = track module.settledFunding (before.pendingFunding perp))
    (events : after.events = before.events) :
    Agrees (next, after) ↔ Harmless perp before module := by
  unfold Agrees at agrees ⊢
  unfold Harmless
  rw [tracked, events, ← agrees]

theorem agrees_iff_of_settled (same : next.settledFunding = module.settledFunding)
    (settles : Settles perp before after) : Agrees (next, after) ↔ Harmless perp before module := by
  unfold Agrees at agrees ⊢
  unfold Harmless
  rw [same, settles.ledgerOf, ← agrees]
  exact eq_comm

end Ledgers

/-! ### What the module's functions do -/

theorem tradeAndTrackFunding_agrees (settling : perp.SettlesFunding)
    (agrees : Agrees (module, before)) {baseToken : Address} {units : Int} {bound : Nat}
    (returned : module.tradeAndTrackFunding perp msgSender baseToken units bound before =
      .ok (next, after)) : Agrees (next, after) := by
  simp only [tradeAndTrackFunding, bind_eq_ok] at returned
  obtain ⟨_, _, tracked, tracking, trading⟩ := returned
  obtain rfl := updateSettledFunding_eq_ok tracking
  obtain ⟨_, traded, rfl⟩ := inherited_eq_ok trading
  exact agrees_of_both agrees rfl (trade_settles settling traded)

theorem withdraw_agrees (settling : perp.SettlesFunding) (agrees : Agrees (module, before))
    {units : Nat} (returned : module.withdraw perp msgSender units before = .ok (next, after)) :
    Agrees (next, after) := by
  simp only [withdraw, bind_eq_ok, require_eq_ok, pure_eq_ok, Prod.mk.injEq, exists_const]
    at returned
  obtain ⟨_, _, positive, tracked, tracking, withdrawn, withdrawing, rfl, rfl⟩ := returned
  obtain rfl := updateSettledFunding_eq_ok tracking
  exact agrees_of_both agrees rfl (withdrawAndUpdatePositions_settles settling positive withdrawing)

theorem trade_agrees_iff (settling : perp.SettlesFunding) (agrees : Agrees (module, before))
    {baseToken : Address} {units : Int} {bound : Nat}
    (returned : module.inherited (module.trade perp msgSender baseToken units bound before) =
      .ok (next, after)) : Agrees (next, after) ↔ Harmless perp before module := by
  obtain ⟨_, traded, rfl⟩ := inherited_eq_ok returned
  exact agrees_iff_of_settled agrees rfl (trade_settles settling traded)

/-- The hook before an issuance tracks in any case and settles what there is to trade. -/
theorem moduleIssueHook_agrees_iff (settling : perp.SettlesFunding)
    (agrees : Agrees (module, before)) (nodup : module.positions.Nodup) {quantity : Nat}
    (returned : module.moduleIssueHook perp msgSender quantity before = .ok (next, after)) :
    Agrees (next, after) ↔ Harmless perp before module ∨
      module.hookProceeds before.world.setToken = true ∧
        HoldsOpen perp before module.toPerpV2LeverageModuleV2 := by
  simp only [moduleIssueHook, bind_eq_ok] at returned
  obtain ⟨_, _, tracked, tracking, hooked⟩ := returned
  obtain rfl := updateSettledFunding_eq_ok tracking
  obtain ⟨_, called, rfl⟩ := inherited_eq_ok hooked
  rcases moduleHook_cases settling nodup called with ⟨stops, idle⟩ | ⟨trades, settles⟩
  · exact (agrees_iff_of_tracked agrees rfl idle.events).trans (or_iff_left stops).symm
  · exact iff_of_true (agrees_of_both agrees rfl settles) (Or.inr trades)

/-- The hook before a redemption tracks when it proceeds and settles what there is to trade. -/
theorem moduleRedeemHook_agrees_iff (settling : perp.SettlesFunding)
    (agrees : Agrees (module, before)) (nodup : module.positions.Nodup) {quantity : Nat}
    (returned : module.moduleRedeemHook perp msgSender quantity before = .ok (next, after)) :
    Agrees (next, after) ↔ (module.hookProceeds before.world.setToken = true →
      Harmless perp before module ∨ HoldsOpen perp before module.toPerpV2LeverageModuleV2) := by
  simp only [moduleRedeemHook, bind_eq_ok] at returned
  obtain ⟨_, _, returned⟩ := returned
  split at returned
  · rename_i proceeds
    simp only [bind_eq_ok, Prod.exists, pure_eq_ok, Prod.mk.injEq] at returned
    obtain ⟨tracked, tracking, _, _, traded, executed, _, _, stored, storing, rfl, rfl⟩ := returned
    obtain rfl := updateSettledFunding_eq_ok tracking
    have stores : Idle perp traded stored := storePositionUnit_idle storing
    rw [imp_iff_right proceeds]
    rcases executePositionTrades_cases settling nodup executed with
      ⟨closed, rfl⟩ | ⟨holds, settles⟩
    · exact (agrees_iff_of_tracked agrees rfl stores.events).trans (or_iff_left closed).symm
    · exact iff_of_true (agrees_of_both agrees rfl (settles.idle stores)) (Or.inr holds)
  · rename_i stops
    rw [pure_eq_ok, Prod.mk.injEq] at returned
    obtain ⟨rfl, rfl⟩ := returned
    exact iff_of_true agrees fun proceeds => absurd proceeds stops

theorem componentRedeemHook_agrees_iff (settling : perp.SettlesFunding)
    (agrees : Agrees (module, before)) {quantity : Nat} {component : Address} {isEquity : Bool}
    (returned : module.inherited (module.keepingModule (module.componentRedeemHook perp msgSender
      quantity component isEquity before)) = .ok (next, after)) :
    Agrees (next, after) ↔
      (isEquity = true ∧ module.redeemedCollateral quantity component before ≠ 0 →
        Harmless perp before module) := by
  obtain ⟨_, kept, rfl⟩ := inherited_eq_ok returned
  obtain ⟨rfl, hooked⟩ := keepingModule_eq_ok kept
  have settled := componentRedeemHook_cases settling hooked
  split at settled
  · rename_i withdraws
    rw [imp_iff_right withdraws]
    exact agrees_iff_of_settled agrees rfl settled
  · rename_i keeps
    exact iff_of_true (agrees_of_neither agrees rfl (congrArg events settled))
      fun withdraws => absurd withdraws keeps

/-- The fees are paid from what was withdrawn to the Set. -/
theorem handleFees_idle {amount : Nat}
    (returned : module.handleFees amount before = .ok after) : Idle perp before after := by
  unfold handleFees at returned
  dsimp only at returned
  split at returned
  · simp only [bind_eq_ok] at returned
    obtain ⟨_, _, _, _, _, _, managerPaid, transferring, paying⟩ := returned
    have transferred : Idle perp before managerPaid :=
      onWorld_idle (fun _ called => (World.strictInvokeTransfer_eq_ok called).1.address)
        transferring
    have paid : Idle perp managerPaid after :=
      onWorld_idle (fun _ called => (ModuleBase.payProtocolFeeFromSetToken_eq_ok called).1.address)
        paying
    exact transferred.trans paid
  · exact (pure_eq_ok _ _).mp returned ▸ Idle.refl before

/-- The ledger of the trace after a withdrawal of funding, which settles unless it is empty. -/
theorem withdrawFunding_ledgerOf (settling : perp.SettlesFunding) {amount : Nat}
    (returned : module.withdrawFunding perp amount before = .ok after) :
    ledgerOf after.events =
      if amount = 0 then ledgerOf before.events
      else track (ledgerOf before.events) (before.pendingFunding perp) -
        amount * decimalFactor module.collateralDecimals := by
  simp only [withdrawFunding, bind_eq_ok, pure_eq_ok] at returned
  obtain ⟨withdrawn, withdrawing, rfl⟩ := returned
  rw [ledgerOf_append]
  rcases withdrawCollateral_cases settling withdrawing with ⟨rfl, rfl⟩ | ⟨nonzero, settles⟩
  · rw [if_pos rfl, Nat.zero_mul]
    rfl
  · rw [if_neg nonzero, settles.ledgerOf]
    rfl

theorem updateWithdrawFundingState_eq_ok {amount balance : Nat}
    (returned : module.updateWithdrawFundingState perp amount balance before =
      .ok (next, after)) :
    next = { module with settledFunding :=
        module.settledFunding - amount * decimalFactor module.collateralDecimals } ∧
      Idle perp before after := by
  simp only [updateWithdrawFundingState, toPreciseUnitsFromDecimals, bind_eq_ok,
    SafeMath.mul_eq_ok, SafeMath.sub_eq_ok, pure_eq_ok, Prod.mk.injEq] at returned
  obtain ⟨edited, editing, _, ⟨_, rfl⟩, _, ⟨_, rfl⟩, rfl, rfl⟩ := returned
  exact ⟨rfl, updatePositions_idle editing⟩

/-- What is tracked is withdrawn only if there is at least one unit of the collateral of it; the
withdrawal is what settles. -/
theorem withdrawFundingAndAccrueFees_agrees_iff (settling : perp.SettlesFunding)
    (agrees : Agrees (module, before)) {notionalFunding : Nat}
    (returned : module.withdrawFundingAndAccrueFees perp msgSender notionalFunding before =
      .ok (next, after)) :
    Agrees (next, after) ↔ (notionalFunding ≠ 0 → Harmless perp before module ∨
      decimalFactor module.collateralDecimals ≤
        track module.settledFunding (before.pendingFunding perp)) := by
  simp only [withdrawFundingAndAccrueFees, bind_eq_ok] at returned
  obtain ⟨_, _, returned⟩ := returned
  split at returned
  · rename_i nothing
    rw [pure_eq_ok, Prod.mk.injEq] at returned
    obtain ⟨rfl, rfl⟩ := returned
    exact iff_of_true agrees fun something => absurd nothing something
  · rename_i something
    rw [imp_iff_right something]
    simp only [fromPreciseUnitToDecimals, bind_eq_ok, SafeMath.div_eq_ok] at returned
    obtain ⟨tracked, tracking, _, ⟨positive, rfl⟩, withdrawn, withdrawing, paid, paying,
      updating⟩ := returned
    obtain rfl := updateSettledFunding_eq_ok tracking
    have pays : Idle perp withdrawn paid := handleFees_idle paying
    obtain ⟨rfl, updates⟩ := updateWithdrawFundingState_eq_ok updating
    have ledger := withdrawFunding_ledgerOf settling withdrawing
    unfold Agrees at agrees ⊢
    rw [(pays.trans updates).events, ledger, ← agrees]
    by_cases small : track module.settledFunding (before.pendingFunding perp) <
        decimalFactor module.collateralDecimals
    · -- Less than one unit of the collateral was tracked, so nothing is withdrawn or settled.
      have empty := (Nat.div_eq_zero_iff_lt positive).mpr small
      rw [or_iff_left (not_le.mpr small), empty, if_pos (Nat.pos_of_ne_zero something), if_pos rfl,
        Nat.zero_mul]
      rfl
    · have whole := Nat.div_pos (not_lt.mp small) positive
      refine iff_of_true (if_neg ?_).symm (Or.inr (not_lt.mp small))
      split
      · exact whole.ne'
      · exact something

/-- Adjustments of a redemption are computed from simulated trades, and the fee from a ledger
that is not stored. -/
theorem getRedemptionAdjustments_same {setTokenQuantity : Nat}
    {adjustments : List Int × List Int}
    (returned : module.getRedemptionAdjustments perp setTokenQuantity before =
      .ok (adjustments, next, after)) :
    after = before ∧ next.settledFunding = module.settledFunding := by
  simp only [getRedemptionAdjustments, bind_eq_ok, Prod.exists, pure_eq_ok, Prod.mk.injEq]
    at returned
  obtain ⟨_, synced, simulated, chosen, _, _, _, _, rfl, rfl⟩ := returned
  refine ⟨?_, rfl⟩
  split at chosen
  · simp only [bind_eq_ok, Prod.exists, pure_eq_ok, Prod.mk.injEq] at chosen
    obtain ⟨_, _, _, _, _, executed, _, _, _, _, rfl⟩ := chosen
    exact executePositionTrades_simulated executed
  · rw [pure_eq_ok, Prod.mk.injEq, Prod.mk.injEq] at chosen
    exact chosen.2.2.symm

/-! ### The list of positions stays without duplicates -/

/-- The functions of the extended module keep it so. -/
theorem extended_nodup (entryPoint : PerpV2LeverageModuleV2.EntryPoint)
    {extended : PerpV2LeverageModuleV2} (nodup : module.positions.Nodup)
    (returned : entryPoint.call perp msgSender before module.toPerpV2LeverageModuleV2 =
      .ok (extended, after)) : extended.positions.Nodup := by
  have transacted : PerpV2LeverageModuleV2.transact perp (module.toPerpV2LeverageModuleV2, before)
      ⟨msgSender, before.world, before.ledger, entryPoint⟩ = .ok (extended, after) := returned
  exact (transact_positions nodup transacted).1

theorem synced_nodup {synced : PerpV2LeverageModuleV2} (nodup : module.positions.Nodup)
    (returned : module.syncPositionList perp before = .ok synced) : synced.positions.Nodup := by
  obtain ⟨_, rfl, filtered⟩ := syncPositionList_eq_ok nodup returned
  exact filtered.nodup_iff.mpr (nodup.filter _)

theorem withdrawFundingAndAccrueFees_extended {notionalFunding : Nat}
    (returned : module.withdrawFundingAndAccrueFees perp msgSender notionalFunding before =
      .ok (next, after)) :
    next.toPerpV2LeverageModuleV2 = module.toPerpV2LeverageModuleV2 := by
  simp only [withdrawFundingAndAccrueFees, bind_eq_ok] at returned
  obtain ⟨_, _, returned⟩ := returned
  split at returned
  · rw [pure_eq_ok, Prod.mk.injEq] at returned
    rw [returned.1]
  · simp only [bind_eq_ok] at returned
    obtain ⟨_, tracking, _, _, _, _, _, _, updating⟩ := returned
    obtain rfl := updateSettledFunding_eq_ok tracking
    obtain ⟨rfl, _⟩ := updateWithdrawFundingState_eq_ok updating
    rfl

theorem moduleRedeemHook_nodup (nodup : module.positions.Nodup) {quantity : Nat}
    (returned : module.moduleRedeemHook perp msgSender quantity before = .ok (next, after)) :
    next.positions.Nodup := by
  simp only [moduleRedeemHook, bind_eq_ok] at returned
  obtain ⟨_, _, returned⟩ := returned
  split at returned
  · simp only [bind_eq_ok, Prod.exists, pure_eq_ok, Prod.mk.injEq] at returned
    obtain ⟨_, tracking, _, _, _, executed, _, _, _, _, rfl, _⟩ := returned
    obtain rfl := updateSettledFunding_eq_ok tracking
    exact synced_nodup nodup (executePositionTrades_synced executed)
  · rw [pure_eq_ok, Prod.mk.injEq] at returned
    exact returned.1 ▸ nodup

theorem getRedemptionAdjustments_nodup (nodup : module.positions.Nodup) {quantity : Nat}
    {adjustments : List Int × List Int}
    (returned : module.getRedemptionAdjustments perp quantity before =
      .ok (adjustments, next, after)) : next.positions.Nodup := by
  simp only [getRedemptionAdjustments, bind_eq_ok, Prod.exists, pure_eq_ok, Prod.mk.injEq]
    at returned
  obtain ⟨_, _, _, chosen, _, _, _, _, rfl, _⟩ := returned
  split at chosen
  · simp only [bind_eq_ok, Prod.exists, pure_eq_ok, Prod.mk.injEq] at chosen
    obtain ⟨_, _, _, _, _, executed, _, _, _, rfl, _⟩ := chosen
    exact synced_nodup nodup (executePositionTrades_synced executed)
  · rw [pure_eq_ok, Prod.mk.injEq, Prod.mk.injEq] at chosen
    exact chosen.2.1 ▸ nodup

/-! ### Runs -/

/-- A call of the module, with the chain and the protocol as it finds them. What is pending
changes between calls in any way. -/
structure Transaction (Ledger : Type) where
  msgSender : Address
  world : World
  ledger : Ledger
  entryPoint : EntryPoint

def Transaction.start (transaction : Transaction Ledger) (events : List FundingEvent) :
    PerpExecution Ledger where
  world := transaction.world
  ledger := transaction.ledger
  events := events

def transact (perp : PerpV2 Ledger) (state : PerpV2BasisTradingModule × PerpExecution Ledger)
    (transaction : Transaction Ledger) :
    Outcome (PerpV2BasisTradingModule × PerpExecution Ledger) :=
  transaction.entryPoint.call perp transaction.msgSender (transaction.start state.2.events) state.1

/-- When a call settles exactly what it tracks, in terms of the state it finds. -/
def TracksSettlement (perp : PerpV2 Ledger)
    (state : PerpV2BasisTradingModule × PerpExecution Ledger)
    (transaction : Transaction Ledger) : Prop :=
  let module := state.1
  let execution := transaction.start state.2.events
  match transaction.entryPoint with
  | .trade _ _ _ => Harmless perp execution module
  | .moduleIssueHook _ => Harmless perp execution module ∨
      module.hookProceeds transaction.world.setToken = true ∧
        HoldsOpen perp execution module.toPerpV2LeverageModuleV2
  | .moduleRedeemHook _ => module.hookProceeds transaction.world.setToken = true →
      Harmless perp execution module ∨ HoldsOpen perp execution module.toPerpV2LeverageModuleV2
  | .componentRedeemHook quantity component isEquity =>
      isEquity = true ∧ module.redeemedCollateral quantity component execution ≠ 0 →
        Harmless perp execution module
  | .withdrawFundingAndAccrueFees notionalFunding => notionalFunding ≠ 0 →
      Harmless perp execution module ∨ decimalFactor module.collateralDecimals ≤
        track module.settledFunding (execution.pendingFunding perp)
  | _ => True

section Step

variable {state after : PerpV2BasisTradingModule × PerpExecution Ledger}
  {transaction : Transaction Ledger}

theorem transact_agrees_iff (settling : perp.SettlesFunding) (nodup : state.1.positions.Nodup)
    (agrees : Agrees state) (returned : transact perp state transaction = .ok after) :
    Agrees after ↔ TracksSettlement perp state transaction := by
  obtain ⟨msgSender, world, ledger, entryPoint⟩ := transaction
  have found : Agrees (state.1, (⟨world, ledger, state.2.events⟩ : PerpExecution Ledger)) := agrees
  cases entryPoint with
  | trade baseToken units bound => exact trade_agrees_iff settling found returned
  | tradeAndTrackFunding baseToken units bound =>
    exact iff_of_true (tradeAndTrackFunding_agrees settling found returned) trivial
  | deposit units =>
    obtain ⟨_, kept, same⟩ := inherited_eq_ok returned
    obtain ⟨rfl, deposited⟩ := keepingModule_eq_ok kept
    refine iff_of_true (agrees_of_neither found ?_ (deposit_events deposited)) trivial
    rw [same]
  | withdraw units => exact iff_of_true (withdraw_agrees settling found returned) trivial
  | withdrawFundingAndAccrueFees notionalFunding =>
    exact withdrawFundingAndAccrueFees_agrees_iff settling found returned
  | moduleIssueHook quantity => exact moduleIssueHook_agrees_iff settling found nodup returned
  | moduleRedeemHook quantity => exact moduleRedeemHook_agrees_iff settling found nodup returned
  | componentIssueHook quantity component isEquity =>
    obtain ⟨_, kept, same⟩ := inherited_eq_ok returned
    obtain ⟨rfl, hooked⟩ := keepingModule_eq_ok kept
    refine iff_of_true (agrees_of_neither found ?_ (componentIssueHook_events hooked)) trivial
    rw [same]
  | componentRedeemHook quantity component isEquity =>
    exact componentRedeemHook_agrees_iff settling found returned
  | getIssuanceAdjustments quantity =>
    simp only [transact, EntryPoint.call, bind_eq_ok, Prod.exists, pure_eq_ok] at returned
    obtain ⟨_, _, _, _, adjusted, rfl⟩ := returned
    have same := (getAdjustments_eq_ok adjusted).1
    exact iff_of_true (agrees_of_neither found rfl (congrArg events same)) trivial
  | getRedemptionAdjustments quantity =>
    simp only [transact, EntryPoint.call, bind_eq_ok, Prod.exists, pure_eq_ok] at returned
    obtain ⟨_, _, next, simulated, adjusted, rfl⟩ := returned
    obtain ⟨same, kept⟩ := getRedemptionAdjustments_same adjusted
    exact iff_of_true (agrees_of_neither found kept (congrArg events same)) trivial
  | updatePerformanceFee newFee =>
    simp only [transact, EntryPoint.call, updatePerformanceFee, bind_eq_ok, pure_eq_ok] at returned
    obtain ⟨_, ⟨_, _, _, _, _, _, _, _, rfl⟩, rfl⟩ := returned
    exact iff_of_true (agrees_of_neither found rfl rfl) trivial
  | updateFeeRecipient newFeeRecipient =>
    simp only [transact, EntryPoint.call, updateFeeRecipient, bind_eq_ok, pure_eq_ok] at returned
    obtain ⟨_, ⟨_, _, _, _, rfl⟩, rfl⟩ := returned
    exact iff_of_true (agrees_of_neither found rfl rfl) trivial

theorem transact_nodup (nodup : state.1.positions.Nodup)
    (returned : transact perp state transaction = .ok after) : after.1.positions.Nodup := by
  obtain ⟨msgSender, world, ledger, entryPoint⟩ := transaction
  cases entryPoint with
  | trade baseToken units bound =>
    obtain ⟨_, called, same⟩ := inherited_eq_ok returned
    exact same ▸ extended_nodup (.trade baseToken units bound) nodup called
  | tradeAndTrackFunding baseToken units bound =>
    simp only [transact, EntryPoint.call, tradeAndTrackFunding, bind_eq_ok] at returned
    obtain ⟨_, _, tracked, tracking, trading⟩ := returned
    obtain rfl := updateSettledFunding_eq_ok tracking
    obtain ⟨_, called, same⟩ := inherited_eq_ok trading
    exact same ▸ extended_nodup (.trade baseToken units bound) nodup called
  | deposit units | componentIssueHook quantity component isEquity
  | componentRedeemHook quantity component isEquity =>
    obtain ⟨_, kept, same⟩ := inherited_eq_ok returned
    obtain ⟨rfl, _⟩ := keepingModule_eq_ok kept
    exact same ▸ nodup
  | withdraw units =>
    simp only [transact, EntryPoint.call, withdraw, bind_eq_ok, pure_eq_ok] at returned
    obtain ⟨_, _, _, _, tracked, tracking, _, _, rfl⟩ := returned
    obtain rfl := updateSettledFunding_eq_ok tracking
    exact nodup
  | withdrawFundingAndAccrueFees notionalFunding =>
    have same := withdrawFundingAndAccrueFees_extended returned
    exact same ▸ nodup
  | moduleIssueHook quantity =>
    simp only [transact, EntryPoint.call, moduleIssueHook, bind_eq_ok] at returned
    obtain ⟨_, _, tracked, tracking, hooked⟩ := returned
    obtain rfl := updateSettledFunding_eq_ok tracking
    obtain ⟨_, called, same⟩ := inherited_eq_ok hooked
    exact same ▸ extended_nodup (.moduleIssueHook quantity) nodup called
  | moduleRedeemHook quantity => exact moduleRedeemHook_nodup nodup returned
  | getIssuanceAdjustments quantity =>
    simp only [transact, EntryPoint.call, bind_eq_ok, Prod.exists, pure_eq_ok] at returned
    obtain ⟨_, _, _, _, adjusted, rfl⟩ := returned
    exact synced_nodup nodup (getAdjustments_synced adjusted)
  | getRedemptionAdjustments quantity =>
    simp only [transact, EntryPoint.call, bind_eq_ok, Prod.exists, pure_eq_ok] at returned
    obtain ⟨_, _, _, _, adjusted, rfl⟩ := returned
    exact getRedemptionAdjustments_nodup nodup adjusted
  | updatePerformanceFee newFee =>
    simp only [transact, EntryPoint.call, updatePerformanceFee, bind_eq_ok, pure_eq_ok] at returned
    obtain ⟨_, ⟨_, _, _, _, _, _, _, _, rfl⟩, rfl⟩ := returned
    exact nodup
  | updateFeeRecipient newFeeRecipient =>
    simp only [transact, EntryPoint.call, updateFeeRecipient, bind_eq_ok, pure_eq_ok] at returned
    obtain ⟨_, ⟨_, _, _, _, rfl⟩, rfl⟩ := returned
    exact nodup

end Step

theorem samplePerp_settlesFunding : samplePerp.SettlesFunding where
  openPosition := by
    intro params world account base quote next nextAccount returned
    cases returned
    rfl
  withdraw := by
    intro asset quantity world account next nextAccount returned
    change (sampleMove asset 99 world.setToken.address quantity world >>= fun moved =>
      pure (moved, account.withdraw quantity)) = .ok (next, nextAccount) at returned
    simp only [bind_eq_ok, pure_eq_ok, Prod.mk.injEq] at returned
    obtain ⟨_, _, rfl, rfl⟩ := returned
    rfl

def sampleStart : PerpV2BasisTradingModule × PerpExecution SampleAccount :=
  ({ toPerpV2LeverageModuleV2 := sampleModule
     feeSettings :=
      { feeRecipient := 8, maxPerformanceFeePercentage := 0, performanceFeePercentage := 0 }
     settledFunding := 0 },
   { world := sampleWorld, ledger := ⟨0, 0, 0, 0, 0⟩, events := [] })

/-- A call by the manager while the amount is pending for the account. -/
def sampleCall (pending : Int) (entryPoint : EntryPoint) : Transaction SampleAccount where
  msgSender := 6
  world := sampleWorld
  ledger := ⟨0, 0, 0, 0, -pending⟩
  entryPoint := entryPoint

/-- A gain of five units of the collateral, a loss of seven, a gain of three, and a withdrawal
of two. -/
def sampleCalls : List (Transaction SampleAccount) :=
  [sampleCall (5 * 10 ^ 12) (.tradeAndTrackFunding 20 10 0),
    sampleCall (-7 * 10 ^ 12) (.tradeAndTrackFunding 20 10 0),
    sampleCall (3 * 10 ^ 12) (.tradeAndTrackFunding 20 10 0),
    sampleCall 0 (.withdrawFundingAndAccrueFees 2)]

end PerpV2BasisTradingModule

end IndexProtocol

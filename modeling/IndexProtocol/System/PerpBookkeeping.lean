/-
This file proves when the module for perpetual positions keeps the bookkeeping of
the Set. Trades and the hooks for a component move tokens only; a deposit and a
withdrawal write both positions of the collateral through the position library,
which keeps its lists. The hooks before an issuance and a redemption write the
external unit alone, so they keep the bookkeeping exactly when the unit they
write is zero for an unlisted module and not zero for a listed one.
-/

import IndexProtocol.System.PerpValuation
import IndexProtocol.Protocol.PositionBookkeeping

namespace IndexProtocol

open Revert PreciseUnitMath UnitConversionUtils

namespace PerpExecution

variable {Ledger : Type} {perp : PerpV2 Ledger} {module asset : Address}
  {before after : PerpExecution Ledger} {base quote amount : Nat}

/-! ### Calls of the protocol move tokens only -/

theorem invokeOpenPosition_onlyBalances {params : OpenPositionParams}
    (returned : before.invokeOpenPosition perp module params = .ok (base, quote, after)) :
    World.OnlyBalances before.world after.world :=
  perp.openPosition_onlyBalances _ _ _ _ _ _ _ (invokeOpenPosition_eq_ok returned).1

theorem invokeDeposit_onlyBalances
    (returned : before.invokeDeposit perp module asset amount = .ok after) :
    World.OnlyBalances before.world after.world :=
  perp.deposit_onlyBalances _ _ _ _ _ _ (invokeDeposit_eq_ok returned).1

theorem invokeWithdraw_onlyBalances
    (returned : before.invokeWithdraw perp module asset amount = .ok after) :
    World.OnlyBalances before.world after.world :=
  perp.withdraw_onlyBalances _ _ _ _ _ _ (invokeWithdraw_eq_ok returned).1

end PerpExecution

namespace PerpV2LeverageModuleV2

open PerpExecution

variable {Ledger : Type} {perp : PerpV2 Ledger} {msgSender : Address}
  {before after : PerpExecution Ledger} {module next : PerpV2LeverageModuleV2}

/-! ### Functions that move tokens only -/

theorem withdrawCollateral_onlyBalances {quantity : Nat}
    (returned : module.withdrawCollateral perp quantity before = .ok after) :
    World.OnlyBalances before.world after.world := by
  unfold withdrawCollateral at returned
  split at returned
  · exact (pure_eq_ok _ _).mp returned ▸ World.OnlyBalances.refl _
  · exact invokeWithdraw_onlyBalances returned

theorem depositCollateral_onlyBalances {quantity : Nat}
    (returned : module.depositCollateral perp quantity before = .ok after) :
    World.OnlyBalances before.world after.world := by
  simp only [depositCollateral, bind_eq_ok] at returned
  obtain ⟨approved, approving, deposited⟩ := returned
  obtain ⟨called, _⟩ := onWorld_eq_ok approving
  exact (World.invokeApprove_eq_ok called).trans (invokeDeposit_onlyBalances deposited)

theorem trade_onlyBalances {baseToken : Address} {units : Int} {bound : Nat}
    (returned : module.trade perp msgSender baseToken units bound before = .ok (next, after)) :
    World.OnlyBalances before.world after.world := by
  simp only [trade, accrueProtocolFee, bind_eq_ok, Prod.exists, pure_eq_ok, Prod.mk.injEq]
    at returned
  obtain ⟨_, _, _, _, _, _, traded, trading, paid, ⟨_, _, _, _, withdrawn, withdrawing, paying⟩, _,
    _, _, rfl⟩ := returned
  obtain ⟨called, _⟩ := onWorld_eq_ok paying
  exact ((invokeOpenPosition_onlyBalances trading).trans
    (withdrawCollateral_onlyBalances withdrawing)).trans
      (ModuleBase.payProtocolFeeFromSetToken_eq_ok called).1

theorem tradePosition_onlyBalances {quantity supply : Int} {isIssue isSimulation : Bool}
    {value issued : Int} {info : PerpV2Positions.PositionNotionalInfo}
    (returned : tradePosition perp module quantity supply isIssue isSimulation (value, before)
      info = .ok (issued, after)) : World.OnlyBalances before.world after.world := by
  obtain ⟨_, _, answered, _⟩ := tradePosition_eq_ok returned
  unfold answer at answered
  split at answered
  · exact (invokeSwap_eq_ok answered).2 ▸ World.OnlyBalances.refl _
  · exact invokeOpenPosition_onlyBalances answered

theorem executePositionTrades_onlyBalances {setTokenQuantity : Nat} {isIssue isSimulation : Bool}
    {unit : Int}
    (returned : module.executePositionTrades perp setTokenQuantity isIssue isSimulation before =
      .ok (unit, next, after)) :
    World.OnlyBalances before.world after.world ∧
      ∃ positions, next = { module with positions := positions } := by
  simp only [executePositionTrades, bind_eq_ok, Prod.exists, pure_eq_ok, Prod.mk.injEq] at returned
  obtain ⟨synced, syncing, _, _, _, _, _, _, _, _, _, _, looped, _, _, _, rfl, rfl⟩ := returned
  refine ⟨?_, syncPositionList_stored syncing⟩
  exact foldlM_invariant _ (fun traded : Int × PerpExecution Ledger =>
      World.OnlyBalances before.world traded.2.world) _
    (fun _ _ _ _ moved stepped => moved.trans (tradePosition_onlyBalances stepped)) _ _
    (World.OnlyBalances.refl _) looped

theorem componentHook_onlyBalances {quantity : Nat} {component : Address} {isEquity : Bool}
    (returned : module.componentIssueHook perp msgSender quantity component isEquity before =
        .ok after ∨
      module.componentRedeemHook perp msgSender quantity component isEquity before = .ok after) :
    World.OnlyBalances before.world after.world := by
  rcases returned with issued | redeemed
  · simp only [componentIssueHook, bind_eq_ok] at issued
    obtain ⟨_, _, issued⟩ := issued
    split at issued
    · simp only [bind_eq_ok] at issued
      obtain ⟨_, _, _, _, _, _, depositing⟩ := issued
      exact depositCollateral_onlyBalances depositing
    · exact (pure_eq_ok _ _).mp issued ▸ World.OnlyBalances.refl _
  · simp only [componentRedeemHook, bind_eq_ok] at redeemed
    obtain ⟨_, _, redeemed⟩ := redeemed
    split at redeemed
    · simp only [bind_eq_ok] at redeemed
      obtain ⟨_, _, _, _, _, _, withdrawing⟩ := redeemed
      exact withdrawCollateral_onlyBalances withdrawing
    · exact (pure_eq_ok _ _).mp redeemed ▸ World.OnlyBalances.refl _

/-! ### Functions that write positions -/

/-- Both positions of the collateral are written through the position library. -/
theorem updatePositions_bookkeeping {balance : Nat}
    (kept : PositionBookkeeping before.world.setToken)
    (returned : module.updatePositions perp balance before = .ok after) :
    PositionBookkeeping after.world.setToken := by
  simp only [updatePositions, updateExternalPositionUnit, bind_eq_ok] at returned
  obtain ⟨edited, editing, _, _, _, _, _, _, _, _, storing⟩ := returned
  obtain ⟨called, _⟩ := onWorld_eq_ok editing
  simp only [bind_eq_ok, Prod.exists, pure_eq_ok] at called
  obtain ⟨_, _, _, _, calculated, rfl⟩ := called
  obtain ⟨_, defaultEdited, _⟩ := World.calculateAndEditDefaultPosition_eq_ok calculated
  obtain ⟨stored, _⟩ := onWorld_eq_ok storing
  exact (kept.editDefaultPosition defaultEdited).editExternalPosition
    (World.callSetToken_eq_ok stored).1

theorem deposit_bookkeeping {units : Nat} (kept : PositionBookkeeping before.world.setToken)
    (returned : module.deposit perp msgSender units before = .ok after) :
    PositionBookkeeping after.world.setToken := by
  simp only [deposit, depositAndUpdatePositions, bind_eq_ok] at returned
  obtain ⟨_, _, _, _, _, _, _, _, _, _, _, _, _, depositing, updating⟩ := returned
  exact updatePositions_bookkeeping
    (kept.congr (depositCollateral_onlyBalances depositing).samePositions) updating

theorem withdraw_bookkeeping {units : Nat} (kept : PositionBookkeeping before.world.setToken)
    (returned : module.withdraw perp msgSender units before = .ok after) :
    PositionBookkeeping after.world.setToken := by
  simp only [withdraw, withdrawAndUpdatePositions, bind_eq_ok] at returned
  obtain ⟨_, _, _, _, _, _, _, withdrawing, updating⟩ := returned
  exact updatePositions_bookkeeping
    (kept.congr (withdrawCollateral_onlyBalances withdrawing).samePositions) updating

/-! ### The bookkeeping of the collateral -/

/-- The module is listed for the collateral if and only if its external unit is not zero, and the
collateral is a component if and only if it has a default unit or an external position. -/
def Bookkept (module : PerpV2LeverageModuleV2) (setToken : SetToken) : Prop :=
  (module.address ∈ setToken.externalPositionModules module.collateralToken ↔
    setToken.externalPositionVirtualUnit module.collateralToken module.address ≠ 0) ∧
  (module.collateralToken ∈ setToken.components ↔
    setToken.defaultPositionVirtualUnit module.collateralToken ≠ 0 ∨
      setToken.externalPositionModules module.collateralToken ≠ [])

instance (module : PerpV2LeverageModuleV2) (setToken : SetToken) :
    Decidable (Bookkept module setToken) :=
  inferInstanceAs (Decidable ((_ ↔ _) ∧ (_ ↔ _)))

theorem bookkept_of_bookkeeping {setToken : SetToken} (kept : PositionBookkeeping setToken) :
    Bookkept module setToken := by
  have position := kept.positions module.collateralToken
  refine ⟨position.modules.mem_iff _, (kept.mem_components_iff _).trans (or_congr ?_ Iff.rfl)⟩
  exact lt_iff_le_and_ne.trans ((and_iff_right position.defaultNonneg).trans ne_comm)

/-- Where the hook proceeds, the module is listed exactly if what it stores is not zero, in terms
of what the protocol reports and answers. -/
def StoresListed (perp : PerpV2 Ledger) (setTokenQuantity : Nat) (isIssue : Bool)
    (execution : PerpExecution Ledger) (module : PerpV2LeverageModuleV2) : Prop :=
  module.hookProceeds execution.world.setToken = true →
    (module.address ∈ execution.world.setToken.externalPositionModules module.collateralToken ↔
      module.BacksUnit (module.realizedValue perp setTokenQuantity isIssue false execution)
        setTokenQuantity isIssue)

instance (setTokenQuantity : Nat) (isIssue : Bool) (execution : PerpExecution Ledger) :
    Decidable (module.StoresListed perp setTokenQuantity isIssue execution) :=
  inferInstanceAs (Decidable (_ → (_ ↔ _)))

/-- The unit written on its own leaves everything else of the collateral as it was. -/
theorem bookkept_edit_iff {setToken edited : SetToken} {call : Call} {unit : Int}
    (kept : PositionBookkeeping setToken)
    (returned : setToken.editExternalPositionUnit call module.collateralToken module.address unit =
      .ok edited) : Bookkept module edited ↔
    (module.address ∈ setToken.externalPositionModules module.collateralToken ↔ unit ≠ 0) := by
  have written := (kept.editExternalPositionUnit returned).1
  have tracked := (@bookkept_of_bookkeeping module setToken kept).2
  obtain ⟨_, _, _, rfl⟩ := SetToken.editExternalPositionUnit_eq_ok returned
  unfold Bookkept
  rw [written]
  unfold SetToken.externalPositionModules SetToken.defaultPositionVirtualUnit at tracked ⊢
  rw [SetToken.editComponent_self]
  exact and_iff_left tracked

theorem moduleHook_bookkeeping {setTokenQuantity : Nat} {isIssue : Bool}
    (kept : PositionBookkeeping before.world.setToken)
    (returned : module.moduleHook perp msgSender setTokenQuantity isIssue before =
      .ok (next, after)) :
    (∃ positions, next = { module with positions := positions }) ∧
    (Bookkept module after.world.setToken ↔
      module.StoresListed perp setTokenQuantity isIssue before) ∧
    (module.StoresListed perp setTokenQuantity isIssue before →
      PositionBookkeeping after.world.setToken) := by
  rcases moduleHook_eq_ok returned with
    ⟨stops, rfl, rfl⟩ | ⟨proceeds, unit, traded, executed, storing⟩
  · exact ⟨⟨_, rfl⟩, iff_of_true (bookkept_of_bookkeeping kept)
      (fun proceeds => absurd proceeds stops), fun _ => kept⟩
  · have unitBacked := (issuedPositionUnit_eq_ok (executePositionTrades_value executed)).2
    obtain ⟨only, positions, rfl⟩ := executePositionTrades_onlyBalances executed
    have same := only.samePositions
    have moved := kept.congr same
    obtain ⟨called, _⟩ := onWorld_eq_ok storing
    have written := (World.callSetToken_eq_ok called).1
    have listed : (module.address ∈
        traded.world.setToken.externalPositionModules module.collateralToken ↔ unit ≠ 0) ↔
        module.StoresListed perp setTokenQuantity isIssue before := by
      unfold StoresListed
      rw [imp_iff_right proceeds, unitBacked, same.externalPositionModules]
    refine ⟨⟨positions, rfl⟩, (bookkept_edit_iff moved written).trans listed, fun stores => ?_⟩
    exact (moved.editExternalPositionUnit written).2 (listed.mpr stores)

theorem positions_stored {entryPoint : EntryPoint}
    (returned : entryPoint.call perp msgSender before module = .ok (next, after)) :
    ∃ positions, next = { module with positions := positions } := by
  cases entryPoint with
  | trade baseToken units bound =>
    rcases updatePositionList_eq_ok (trade_updated returned) with
      ⟨_, _, rfl⟩ | ⟨_, _, positions, _, rfl⟩ | ⟨_, rfl⟩
    · exact ⟨_, rfl⟩
    · exact ⟨positions, rfl⟩
    · exact ⟨_, rfl⟩
  | deposit units | withdraw units | componentIssueHook quantity component isEquity
  | componentRedeemHook quantity component isEquity =>
    obtain ⟨rfl, _⟩ := keepingModule_eq_ok returned
    exact ⟨_, rfl⟩
  | moduleIssueHook quantity | moduleRedeemHook quantity =>
    have synced := moduleHook_synced returned
    split at synced
    · exact syncPositionList_stored synced
    · exact ⟨_, synced⟩
  | getIssuanceAdjustments quantity | getRedemptionAdjustments quantity =>
    simp only [EntryPoint.call, bind_eq_ok, Prod.exists, pure_eq_ok, Prod.mk.injEq] at returned
    obtain ⟨_, _, _, _, adjusted, rfl, _⟩ := returned
    exact syncPositionList_stored (getAdjustments_synced adjusted)
  | removeModule =>
    simp only [EntryPoint.call, removeModule, bind_eq_ok, pure_eq_ok, Prod.mk.injEq] at returned
    obtain ⟨_, ⟨_, _, _, _, _, _, _, _, _, _, rfl⟩, rfl, _⟩ := returned
    exact ⟨_, rfl⟩

/-- What a call needs to keep the bookkeeping. -/
def EntryPoint.KeepsBookkeeping (perp : PerpV2 Ledger) (execution : PerpExecution Ledger)
    (module : PerpV2LeverageModuleV2) : EntryPoint → Prop
  | .moduleIssueHook setTokenQuantity => module.StoresListed perp setTokenQuantity true execution
  | .moduleRedeemHook setTokenQuantity => module.StoresListed perp setTokenQuantity false execution
  | _ => True

theorem call_bookkeeping {entryPoint : EntryPoint}
    (kept : PositionBookkeeping before.world.setToken)
    (returned : entryPoint.call perp msgSender before module = .ok (next, after)) :
    (Bookkept module after.world.setToken ↔ entryPoint.KeepsBookkeeping perp before module) ∧
      (entryPoint.KeepsBookkeeping perp before module →
        PositionBookkeeping after.world.setToken) := by
  have unconditional : PositionBookkeeping after.world.setToken →
      (Bookkept module after.world.setToken ↔ True) ∧
        (True → PositionBookkeeping after.world.setToken) := fun keeps =>
    ⟨iff_true_intro (bookkept_of_bookkeeping keeps), fun _ => keeps⟩
  cases entryPoint with
  | trade baseToken units bound =>
    exact unconditional (kept.congr (trade_onlyBalances returned).samePositions)
  | deposit units => exact unconditional (deposit_bookkeeping kept (keepingModule_eq_ok returned).2)
  | withdraw units =>
    exact unconditional (withdraw_bookkeeping kept (keepingModule_eq_ok returned).2)
  | moduleIssueHook quantity | moduleRedeemHook quantity =>
    exact (moduleHook_bookkeeping kept returned).2
  | componentIssueHook quantity component isEquity =>
    have only := componentHook_onlyBalances (Or.inl (keepingModule_eq_ok returned).2)
    exact unconditional (kept.congr only.samePositions)
  | componentRedeemHook quantity component isEquity =>
    have only := componentHook_onlyBalances (Or.inr (keepingModule_eq_ok returned).2)
    exact unconditional (kept.congr only.samePositions)
  | getIssuanceAdjustments quantity | getRedemptionAdjustments quantity =>
    simp only [EntryPoint.call, bind_eq_ok, Prod.exists, pure_eq_ok, Prod.mk.injEq] at returned
    obtain ⟨_, _, _, _, adjusted, _, rfl⟩ := returned
    obtain ⟨rfl, _⟩ := getAdjustments_eq_ok adjusted
    exact unconditional kept
  | removeModule =>
    simp only [EntryPoint.call, bind_eq_ok, pure_eq_ok, Prod.mk.injEq] at returned
    obtain ⟨_, _, _, rfl⟩ := returned
    exact unconditional kept

/-! ### Runs -/

/-- The execution a call starts from: the chain and the protocol as the call finds them, and the
positions of the Set as the last call of the module left them. -/
def Transaction.carrying (transaction : Transaction Ledger) (previous : PerpExecution Ledger) :
    PerpExecution Ledger where
  world :=
    { transaction.world with
      setToken :=
        { transaction.world.setToken with
          components := previous.world.setToken.components
          componentPositions := previous.world.setToken.componentPositions
          positionMultiplier := previous.world.setToken.positionMultiplier } }
  ledger := transaction.ledger
  events := previous.events

def transactCarrying (perp : PerpV2 Ledger)
    (state : PerpV2LeverageModuleV2 × PerpExecution Ledger) (transaction : Transaction Ledger) :
    Outcome (PerpV2LeverageModuleV2 × PerpExecution Ledger) :=
  transaction.entryPoint.call perp transaction.msgSender (transaction.carrying state.2) state.1

/-- Along a run from a Set in order, whatever the protocol reports, the bookkeeping of the
collateral holds in every state exactly when every hook that proceeds finds the module listed if
and only if what it stores is not zero. -/
theorem bookkept_iff (start : PerpV2LeverageModuleV2 × PerpExecution Ledger)
    (kept : PositionBookkeeping start.2.world.setToken)
    (transactions : List (Transaction Ledger)) :
    (∀ front, front <+: transactions →
      Bookkept (run (transactCarrying perp) start front).1
        (run (transactCarrying perp) start front).2.world.setToken) ↔
      ∀ front transaction next, front ++ [transaction] <+: transactions →
        transactCarrying perp (run (transactCarrying perp) start front) transaction = .ok next →
          transaction.entryPoint.KeepsBookkeeping perp
            (transaction.carrying (run (transactCarrying perp) start front).2)
            (run (transactCarrying perp) start front).1 := by
  refine run_holds_iff (transactCarrying perp)
    (fun state => PositionBookkeeping state.2.world.setToken)
    (fun state => Bookkept state.1 state.2.world.setToken)
    (fun state transaction => transaction.entryPoint.KeepsBookkeeping perp
      (transaction.carrying state.2) state.1) ?_ kept (bookkept_of_bookkeeping kept) transactions
  intro state transaction next found returned
  have carried : PositionBookkeeping (transaction.carrying state.2).world.setToken :=
    found.congr ⟨rfl, rfl, rfl⟩
  obtain ⟨decides, keeps⟩ := call_bookkeeping carried returned
  obtain ⟨positions, same⟩ := positions_stored returned
  refine ⟨?_, keeps⟩
  rw [same]
  exact decides

/-! ### A deposit and an issuance -/

def sampleDeposit : Transaction SampleAccount where
  msgSender := 6
  world := sampleWorld
  ledger := ⟨0, 0, 0, 0, 0⟩
  entryPoint := .deposit 100

/-- One Set token is issued while the account has a hundred of the collateral and an amount owed
to it that is not settled yet. -/
def sampleIssue (owed : Int) : Transaction SampleAccount where
  msgSender := 5
  world := sampleWorld
  ledger := ⟨0, 0, 100, owed, 0⟩
  entryPoint := .moduleIssueHook (10 ^ 18)

theorem sampleStart_bookkeeping : PositionBookkeeping sampleStart.2.world.setToken := by
  have created : SetTokenCreator.create 1 2 [3] [1000] [4, 5] 6
      { sampleController with isModule := fun account => account = 4 ∨ account = 5 } =
      .ok (SetToken.construct 2 [3] [1000] [4, 5] 6, _) := rfl
  exact (PositionBookkeeping.create created).congr ⟨rfl, rfl, rfl⟩

/-- An issuance while nothing else is owed keeps the deposit listed. -/
theorem bookkept_iff_sample :
    Bookkept
      (run (transactCarrying samplePerp) sampleStart [sampleDeposit, sampleIssue 0]).1
      (run (transactCarrying samplePerp) sampleStart
        [sampleDeposit, sampleIssue 0]).2.world.setToken := by
  refine (bookkept_iff sampleStart sampleStart_bookkeeping _).mpr ?_ _ (List.prefix_refl _)
  intro front transaction next within _
  have stores : StoresListed samplePerp (10 ^ 18) true
      ((sampleIssue 0).carrying (run (transactCarrying samplePerp) sampleStart [sampleDeposit]).2)
      (run (transactCarrying samplePerp) sampleStart [sampleDeposit]).1 := by
    decide
  rcases front with _ | ⟨first, _ | ⟨second, rest⟩⟩
  · obtain rfl : transaction = sampleDeposit := by simpa using within
    trivial
  · obtain ⟨rfl, rfl⟩ : first = sampleDeposit ∧ transaction = sampleIssue 0 := by
      simpa using within
    exact stores
  · have length := within.length_le
    simp at length

/-- Where what the account owes uses up the collateral, an issuance stores a zero unit for the
module that stays listed. -/
theorem bookkept_fails :
    ¬∀ front, front <+: [sampleDeposit, sampleIssue (-10 ^ 14)] →
      Bookkept (run (transactCarrying samplePerp) sampleStart front).1
        (run (transactCarrying samplePerp) sampleStart front).2.world.setToken := by
  intro always
  have fails : ¬Bookkept
      (run (transactCarrying samplePerp) sampleStart [sampleDeposit, sampleIssue (-10 ^ 14)]).1
      (run (transactCarrying samplePerp) sampleStart
        [sampleDeposit, sampleIssue (-10 ^ 14)]).2.world.setToken := by
    decide
  exact fails (always _ (List.prefix_refl _))

end PerpV2LeverageModuleV2

end IndexProtocol

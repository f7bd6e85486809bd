/-
This file proves what the leverage modules record when they lever and delever.
Whatever the exchange and the lending protocol do, the collateral on record is
at most what the Set holds and the debt on record at least what the lending
protocol reports, every other position stays as it is, and a debt is on record
exactly when some of it is left.
-/

import IndexProtocol.Modules.LeverageTrades
import IndexProtocol.System.LeverageSync
import IndexProtocol.System.TradingRuns

namespace IndexProtocol

open Revert PreciseUnitMath LeverageHooks

/-! ### The calls -/

/-- A position that a leverage module keeps for a Set: the collateral token it holds, the asset it
owes, and what the lending protocol says it owes. -/
structure LeveragePosition (Ledger : Type) where
  module : Address
  collateralToken : Address
  borrowAsset : Address
  debt : Execution Ledger → Nat

namespace CompoundLeverageStorage

/-- The debt is the balance that the market has stored. -/
def position {Ledger : Type} (storage : CompoundLeverageStorage) (protocols : Protocols Ledger)
    (collateralAsset borrowAsset : Address) : LeveragePosition Ledger where
  module := storage.address
  collateralToken := storage.underlyingToCToken collateralAsset
  borrowAsset := borrowAsset
  debt execution := protocols.borrowBalanceStored (storage.underlyingToCToken borrowAsset)
    execution.world.setToken.address execution.ledger

end CompoundLeverageStorage

namespace AaveLeverageStorage

/-- The debt is what the Set holds of the debt token. -/
def position (Ledger : Type) (storage : AaveLeverageStorage)
    (collateralAsset borrowAsset : Address) : LeveragePosition Ledger where
  module := storage.address
  collateralToken := (storage.underlyingToReserveTokens collateralAsset).aToken
  borrowAsset := borrowAsset
  debt execution :=
    execution.world.held (storage.underlyingToReserveTokens borrowAsset).variableDebtToken

end AaveLeverageStorage

/-- A call that changes the leverage of a Set in one of its positions. -/
inductive LeverageCall {Ledger : Type} :
    LeveragePosition Ledger → Execution Ledger → Execution Ledger → Prop
  | compoundLever {before after : Execution Ledger} (storage : CompoundLeverageStorage)
      (protocols : Protocols Ledger) (adapters : ExchangeAdapters Ledger)
      (msgSender borrowAsset collateralAsset : Address)
      (borrowQuantity minReceiveQuantity : Nat) (tradeAdapterName : String) (tradeData : Bytes)
      (change : LeverageChange)
      (returned : storage.lever msgSender protocols adapters borrowAsset collateralAsset
        borrowQuantity minReceiveQuantity tradeAdapterName tradeData before =
          .ok (after, change)) :
      LeverageCall (storage.position protocols collateralAsset borrowAsset) before after
  | compoundDelever {before after : Execution Ledger} (storage : CompoundLeverageStorage)
      (protocols : Protocols Ledger) (adapters : ExchangeAdapters Ledger)
      (msgSender collateralAsset repayAsset : Address) (redeemQuantity minRepayQuantity : Nat)
      (tradeAdapterName : String) (tradeData : Bytes) (change : LeverageChange)
      (returned : storage.delever msgSender protocols adapters collateralAsset repayAsset
        redeemQuantity minRepayQuantity tradeAdapterName tradeData before =
          .ok (after, change)) :
      LeverageCall (storage.position protocols collateralAsset repayAsset) before after
  | compoundDeleverToZero {before after : Execution Ledger} (storage : CompoundLeverageStorage)
      (protocols : Protocols Ledger) (adapters : ExchangeAdapters Ledger)
      (msgSender collateralAsset repayAsset : Address) (redeemQuantity : Nat)
      (tradeAdapterName : String) (tradeData : Bytes) (change : LeverageChange)
      (returned : storage.deleverToZeroBorrowBalance msgSender protocols adapters
        collateralAsset repayAsset redeemQuantity tradeAdapterName tradeData before =
          .ok (after, change)) :
      LeverageCall (storage.position protocols collateralAsset repayAsset) before after
  | aaveLever {before after : Execution Ledger} (storage : AaveLeverageStorage)
      (protocols : Protocols Ledger) (adapters : ExchangeAdapters Ledger)
      (msgSender borrowAsset collateralAsset : Address)
      (borrowQuantityUnits minReceiveQuantityUnits : Nat) (tradeAdapterName : String)
      (tradeData : Bytes) (change : LeverageChange)
      (returned : storage.lever msgSender protocols adapters borrowAsset collateralAsset
        borrowQuantityUnits minReceiveQuantityUnits tradeAdapterName tradeData before =
          .ok (after, change)) :
      LeverageCall (storage.position Ledger collateralAsset borrowAsset) before after
  | aaveDelever {before after : Execution Ledger} (storage : AaveLeverageStorage)
      (protocols : Protocols Ledger) (adapters : ExchangeAdapters Ledger)
      (msgSender collateralAsset repayAsset : Address)
      (redeemQuantityUnits minRepayQuantityUnits : Nat) (tradeAdapterName : String)
      (tradeData : Bytes) (change : LeverageChange)
      (returned : storage.delever msgSender protocols adapters collateralAsset repayAsset
        redeemQuantityUnits minRepayQuantityUnits tradeAdapterName tradeData before =
          .ok (after, change)) :
      LeverageCall (storage.position Ledger collateralAsset repayAsset) before after
  | aaveDeleverToZero {before after : Execution Ledger} (storage : AaveLeverageStorage)
      (protocols : Protocols Ledger) (adapters : ExchangeAdapters Ledger)
      (msgSender collateralAsset repayAsset : Address) (redeemQuantityUnits : Nat)
      (tradeAdapterName : String) (tradeData : Bytes) (change : LeverageChange)
      (returned : storage.deleverToZeroBorrowBalance msgSender protocols adapters
        collateralAsset repayAsset redeemQuantityUnits tradeAdapterName tradeData before =
          .ok (after, change)) :
      LeverageCall (storage.position Ledger collateralAsset repayAsset) before after

/-! ### What a change of leverage records -/

namespace LeverageTrades

section Recording

variable {module collateralToken asset : Address} {debt supply : Nat} {unit : Int}
  {world next : World}

/-- The unit of a debt that is nothing is zero. -/
theorem borrowPosition_zero (returned : borrowPosition 0 supply = .ok unit) : unit = 0 := by
  simp only [borrowPosition, preciseDivCeil, bind_eq_ok, require_eq_ok, exists_const, lt_irrefl,
    if_false, pure_eq_ok, SafeCast.toInt256_eq_ok, SignedSafeMath.mul_eq_ok] at returned
  obtain ⟨_, ⟨_, rfl⟩, _, ⟨_, rfl⟩, _, rfl⟩ := returned
  rfl

/-- Recording a debt changes no default unit. -/
theorem updateBorrowPosition_keeps
    (returned : updateBorrowPosition module asset unit world = .ok next) :
    World.KeepsOthers {asset} world next ∧
      ∀ component, next.setToken.defaultPositionVirtualUnit component =
        world.setToken.defaultPositionVirtualUnit component := by
  obtain ⟨called, stored⟩ := World.callSetToken_eq_ok returned
  obtain ⟨edits, default, _⟩ := Position.editExternalPosition_editsOnly called
  refine ⟨⟨edits, stored⟩, fun component => ?_⟩
  unfold SetToken.defaultPositionVirtualUnit
  by_cases same : component = asset
  · exact same ▸ default
  · rw [edits.positions component same]

/-- The debt that a module records covers what it owes, and a debt that is nothing is taken off
the record. -/
theorem updateBorrowPosition_covers (positive : 0 < world.setToken.positionMultiplier)
    (computed : borrowPosition debt supply = .ok unit)
    (returned : updateBorrowPosition module asset unit world = .ok next) :
    DebtCovered module supply debt asset next.setToken ∧
      (debt = 0 → next.setToken.externalRealUnit asset module = 0) := by
  obtain ⟨nonpos, covers⟩ := borrowPosition_eq_ok computed
  obtain ⟨called, _⟩ := World.callSetToken_eq_ok returned
  obtain ⟨edits, _, written, cleared⟩ := Position.editExternalPosition_editsOnly called
  have atMost : next.setToken.externalRealUnit asset module ≤ unit := by
    by_cases zero : unit = 0
    · exact (cleared zero).trans_le zero.ge
    · have readsBack := SetToken.readsBack_of_converted positive (written zero)
      unfold SetToken.externalRealUnit SetToken.realUnit
      rw [edits.positionMultiplier]
      exact readsBack.atMost
  refine ⟨⟨atMost.trans nonpos, covers.trans ?_⟩, fun none => ?_⟩
  · rw [abs_of_nonpos (atMost.trans nonpos)]
    exact Int.mul_le_mul_of_nonneg_right (neg_le_neg atMost) (Int.natCast_nonneg _)
  · subst none
    exact cleared (borrowPosition_zero computed)

/-- The collateral and the debt were recorded after some balances had moved. The default position
of the debt's asset was left, or recorded from its balance too. -/
structure Records (module collateralToken asset : Address) (debt : Nat) (world next : World) :
    Prop where
  edits : World.EditsBy module world next
  kept : ∃ paid, World.OnlyBalances world paid ∧
    World.KeepsOthers {collateralToken, asset} paid next
  collateral : 0 < world.setToken.positionMultiplier → PositionCovered next collateralToken
  default : next.setToken.defaultRealUnit asset = world.setToken.defaultRealUnit asset ∨
    (0 < world.setToken.positionMultiplier → PositionCovered next asset)
  owed : 0 < world.setToken.positionMultiplier →
    DebtCovered module next.setToken.totalSupply debt asset next.setToken ∧
      (debt = 0 → next.setToken.externalRealUnit asset module = 0)

/-- A token stays covered when no default unit and no balance changes. -/
theorem covered_of_debt {token : Address} (covered : PositionCovered world token)
    (kept : World.KeepsOthers {asset} world next)
    (defaults : ∀ component, next.setToken.defaultPositionVirtualUnit component =
      world.setToken.defaultPositionVirtualUnit component) : PositionCovered next token := by
  unfold PositionCovered SetToken.defaultRealUnit SetToken.realUnit at covered ⊢
  rwa [kept.totalSupply, kept.held, kept.edits.positionMultiplier, defaults]

/-- The positions that are recorded last are right, whatever was recorded before them. -/
theorem updateLeverPositions_records {start paid settled : World} {touched : Set Address}
    {borrowNotionalBalance : World → Nat}
    (stable : ∀ world next, World.KeepsOthers {asset} world next →
      borrowNotionalBalance next = borrowNotionalBalance world)
    (only : World.OnlyBalances start paid) (contained : touched ⊆ {asset})
    (settledBy : World.SettledBy module touched paid settled)
    (supplied : supply = start.setToken.totalSupply)
    (returned : updateLeverPositions module collateralToken asset borrowNotionalBalance supply
      settled = .ok next) :
    Records module collateralToken asset (borrowNotionalBalance next) start next := by
  simp only [updateLeverPositions, getCollateralPosition, bind_eq_ok, preciseDiv_eq_ok]
    at returned
  obtain ⟨_, ⟨_, _, rfl⟩, middle, collateral, unit, computed, borrow⟩ := returned
  have paidSupply : supply = settled.setToken.totalSupply :=
    supplied.trans (settledBy.settles.kept.totalSupply.trans only.totalSupply).symm
  have both : World.SettledBy module (touched ∪ {collateralToken}) paid middle :=
    settledBy.trans (World.editDefaultPosition_settledBy collateral
      (World.spread_le (paidSupply ▸ rfl) le_rfl))
  have middleSupply : middle.setToken.totalSupply = supply :=
    (both.settles.kept.totalSupply.trans only.totalSupply).trans supplied.symm
  have multiplier : middle.setToken.positionMultiplier = start.setToken.positionMultiplier :=
    both.settles.kept.edits.positionMultiplier.trans only.positionMultiplier
  obtain ⟨external, defaults⟩ := updateBorrowPosition_keeps borrow
  have lastSupply : next.setToken.totalSupply = supply := external.totalSupply.trans middleSupply
  have covered : 0 < start.setToken.positionMultiplier →
      ∀ token ∈ touched ∪ {collateralToken}, PositionCovered next token :=
    fun positive token member => covered_of_debt (both.settles.covered
      (only.positionMultiplier ▸ positive) token member) external defaults
  refine ⟨?_, ⟨paid, only, ?_⟩, fun positive => ?_, ?_, fun positive => ?_⟩
  · exact ((only.edits module).trans both.edits).trans (World.editExternalPosition_edits borrow)
  · refine (both.settles.kept.mono ?_).trans (external.mono ?_)
    · rintro token (member | same)
      · exact Or.inr (contained member)
      · exact Or.inl same
    · exact Set.subset_insert _ _
  · exact covered positive collateralToken (Or.inr rfl)
  · by_cases member : asset ∈ touched ∪ {collateralToken}
    · exact Or.inr fun positive => covered positive asset member
    · refine Or.inl ?_
      have same : next.setToken.defaultRealUnit asset = middle.setToken.defaultRealUnit asset := by
        unfold SetToken.defaultRealUnit SetToken.realUnit
        rw [defaults, external.edits.positionMultiplier]
      rw [same, both.settles.kept.defaultRealUnit member, only.defaultRealUnit]
  · rw [lastSupply, stable middle next external]
    exact updateBorrowPosition_covers (multiplier ▸ positive) computed borrow

end Recording

/-! ### The calls outside -/

section Trading

variable {Ledger : Type} {module sendToken receiveToken : Address} {protocols : Protocols Ledger}
  {adapters : ExchangeAdapters Ledger} {tradeInfo : TradeInfo} {data : Bytes} {received fee : Nat}
  {before after : Execution Ledger} {world paid : World}

theorem executeTrade_emits
    (returned : executeTrade module protocols adapters tradeInfo sendToken receiveToken data
      before = .ok (after, received)) : Execution.Emits [] before after := by
  simp only [executeTrade, bind_eq_ok, pure_eq_ok, Prod.exists, Prod.mk.injEq] at returned
  obtain ⟨_, approving, _, _, _, _, _, invoking, _, _, _, _, rfl, _⟩ := returned
  exact (Execution.invokeApprove_emits approving).then_silent
    (Execution.invokeUnchecked_emits invoking)

theorem accrueProtocolFee_onlyBalances
    (returned : accrueProtocolFee module receiveToken received world = .ok (paid, fee)) :
    World.OnlyBalances world paid := by
  simp only [accrueProtocolFee, bind_eq_ok, pure_eq_ok, Prod.mk.injEq] at returned
  obtain ⟨_, _, _, paying, rfl, _⟩ := returned
  exact (ModuleBase.payProtocolFeeFromSetToken_eq_ok paying).1

end Trading

end LeverageTrades

section Markets

variable {Ledger : Type} {protocols : Protocols Ledger} {cToken lendingPool token : Address}
  {quantity : Nat} {before after : Execution Ledger}

theorem CompoundLeverageModule.mintCToken_emits {module : CompoundLeverageModule}
    (returned : module.mintCToken protocols cToken token quantity before = .ok after) :
    Execution.Emits [] before after := by
  unfold mintCToken at returned
  split at returned
  · simp only [bind_eq_ok] at returned
    obtain ⟨_, unwrapping, minting⟩ := returned
    exact (Execution.invokeUnchecked_emits unwrapping).then_silent
      (Execution.invokeUnchecked_emits minting)
  · simp only [bind_eq_ok] at returned
    obtain ⟨_, approving, minting⟩ := returned
    exact (Execution.invokeApprove_emits approving).then_silent
      (Execution.invokeExpectingZero_emits minting)

theorem CompoundLeverageModule.redeemUnderlying_emits {module : CompoundLeverageModule}
    (returned : module.redeemUnderlying protocols cToken quantity before = .ok after) :
    Execution.Emits [] before after := by
  simp only [redeemUnderlying, bind_eq_ok] at returned
  obtain ⟨_, redeeming, wrapping⟩ := returned
  have first := Execution.invokeExpectingZero_emits redeeming
  split at wrapping
  · exact first.then_silent (Execution.invokeUnchecked_emits wrapping)
  · exact (pure_eq_ok _ _).mp wrapping ▸ first

namespace AaveLeverageStorage

variable {storage : AaveLeverageStorage}

theorem deposit_emits
    (returned : storage.deposit protocols lendingPool token quantity before = .ok after) :
    Execution.Emits [] before after := by
  simp only [deposit, bind_eq_ok] at returned
  obtain ⟨_, approving, depositing⟩ := returned
  exact (Execution.invokeApprove_emits approving).then_silent
    (Execution.invokeUnchecked_emits depositing)

theorem repayBorrow_emits
    (returned : storage.repayBorrow protocols lendingPool token quantity before = .ok after) :
    Execution.Emits [] before after := by
  simp only [repayBorrow, bind_eq_ok] at returned
  obtain ⟨_, approving, repaying⟩ := returned
  exact (Execution.invokeApprove_emits approving).then_silent
    (Execution.invokeUnchecked_emits repaying)

end AaveLeverageStorage

end Markets

/-! ### Every call records its position -/

open LeverageTrades

section Calls

variable {Ledger : Type} {protocols : Protocols Ledger} {before paid settled after : Execution Ledger}
  {collateralAsset borrowAsset : Address} {touched : Set Address}

namespace CompoundLeverageStorage

variable {storage : CompoundLeverageStorage} {info : ActionInfo}

/-- The data of a call is for the position between the assets it names. -/
structure ActionInfo.For (info : ActionInfo) (storage : CompoundLeverageStorage)
    (collateralAsset borrowAsset : Address) (world : World) : Prop where
  collateral : info.collateralCTokenAsset = storage.underlyingToCToken collateralAsset
  borrow : info.borrowCTokenAsset = storage.underlyingToCToken borrowAsset
  supply : info.setTotalSupply = world.setToken.totalSupply

theorem createNotional_for {registry : IntegrationRegistry} {sendToken receiveToken : Address}
    {send receive : Nat} {name : String} {isLever : Bool} {world : World}
    (returned : storage.createAndValidateActionInfoNotional registry sendToken receiveToken send
      receive name isLever world = .ok info) :
    info.For storage (if isLever then receiveToken else sendToken)
      (if isLever then sendToken else receiveToken) world := by
  simp only [createAndValidateActionInfoNotional, bind_eq_ok, pure_eq_ok] at returned
  obtain ⟨_, _, _, _, rfl⟩ := returned
  exact ⟨rfl, rfl, rfl⟩

theorem create_for {registry : IntegrationRegistry} {sendToken receiveToken : Address}
    {send receive : Nat} {name : String} {isLever : Bool} {world : World}
    (returned : storage.createAndValidateActionInfo registry sendToken receiveToken send
      receive name isLever world = .ok info) :
    info.For storage (if isLever then receiveToken else sendToken)
      (if isLever then sendToken else receiveToken) world := by
  simp only [createAndValidateActionInfo, bind_eq_ok] at returned
  obtain ⟨_, _, _, _, created⟩ := returned
  exact createNotional_for created

theorem updateLeverPositions_records
    (actionInfo : info.For storage collateralAsset borrowAsset before.world)
    (only : World.OnlyBalances before.world paid.world) (contained : touched ⊆ {borrowAsset})
    (settledBy : World.SettledBy storage.address touched paid.world settled.world)
    (returned : storage.updateLeverPositions protocols info borrowAsset settled = .ok after) :
    Records storage.address (storage.underlyingToCToken collateralAsset) borrowAsset
      ((storage.position protocols collateralAsset borrowAsset).debt after)
      before.world after.world := by
  obtain ⟨called, stored⟩ := Execution.onWorld_eq_ok returned
  have ledger : after.ledger = settled.ledger := by rw [stored]
  have recorded := LeverageTrades.updateLeverPositions_records (fun world next kept => by
    obtain ⟨_, _, written⟩ := kept.edits.only
    simp only [written]) only contained settledBy actionInfo.supply called
  unfold position
  rwa [actionInfo.collateral, actionInfo.borrow, ← ledger] at recorded

end CompoundLeverageStorage

namespace AaveLeverageStorage

variable {storage : AaveLeverageStorage} {info : ActionInfo}

theorem createNotional_eq_ok {registry : IntegrationRegistry} {sendToken receiveToken : Address}
    {send receive supply : Nat} {name : String} {isLever : Bool} {world : World}
    (returned : storage.createAndValidateActionInfoNotional registry sendToken receiveToken send
      receive name isLever supply world = .ok info) :
    info.collateralAsset = (if isLever then receiveToken else sendToken) ∧
      info.setTotalSupply = supply := by
  simp only [createAndValidateActionInfoNotional, bind_eq_ok, pure_eq_ok] at returned
  obtain ⟨_, _, _, _, rfl⟩ := returned
  exact ⟨rfl, rfl⟩

theorem create_eq_ok {registry : IntegrationRegistry} {sendToken receiveToken : Address}
    {send receive : Nat} {name : String} {isLever : Bool} {world : World}
    (returned : storage.createAndValidateActionInfo registry sendToken receiveToken send
      receive name isLever world = .ok info) :
    info.collateralAsset = (if isLever then receiveToken else sendToken) ∧
      info.setTotalSupply = world.setToken.totalSupply := by
  simp only [createAndValidateActionInfo, bind_eq_ok] at returned
  obtain ⟨_, _, _, _, created⟩ := returned
  exact createNotional_eq_ok created

theorem updateLeverPositions_records {world next : World}
    (collateral : info.collateralAsset = collateralAsset)
    (supply : info.setTotalSupply = before.world.setToken.totalSupply)
    (only : World.OnlyBalances before.world paid.world) (contained : touched ⊆ {borrowAsset})
    (settledBy : World.SettledBy storage.address touched paid.world world)
    (returned : storage.updateLeverPositions info borrowAsset world = .ok next) :
    Records storage.address (storage.underlyingToReserveTokens collateralAsset).aToken borrowAsset
      (next.held (storage.underlyingToReserveTokens borrowAsset).variableDebtToken)
      before.world next := by
  subst collateral
  exact LeverageTrades.updateLeverPositions_records (fun _ _ kept => by rw [kept.held])
    only contained settledBy supply returned

theorem updateDeleverPositions_records {next : World}
    (collateral : info.collateralAsset = collateralAsset)
    (supply : info.setTotalSupply = before.world.setToken.totalSupply)
    (only : World.OnlyBalances before.world paid.world)
    (returned : storage.updateDeleverPositions info borrowAsset paid.world = .ok next) :
    Records storage.address (storage.underlyingToReserveTokens collateralAsset).aToken borrowAsset
      (next.held (storage.underlyingToReserveTokens borrowAsset).variableDebtToken)
      before.world next := by
  unfold updateDeleverPositions at returned
  dsimp only at returned
  split at returned
  · simp only [bind_eq_ok, pure_eq_ok, Prod.exists] at returned
    obtain ⟨_, _, _, _, edited, _, rfl, updating⟩ := returned
    exact updateLeverPositions_records collateral supply only Set.Subset.rfl
      (World.calculateAndEditDefaultPosition_settledBy
        (supply.trans only.totalSupply.symm) edited) updating
  · simp only [bind_eq_ok, pure_eq_ok] at returned
    obtain ⟨_, rfl, updating⟩ := returned
    exact updateLeverPositions_records collateral supply only (Set.empty_subset _)
      ⟨World.Moves.refl _ _, World.Settles.none _⟩ updating

end AaveLeverageStorage

/-- Every change of leverage ends by recording its position. -/
theorem LeverageCall.records {position : LeveragePosition Ledger}
    (call : LeverageCall position before after) :
    Records position.module position.collateralToken position.borrowAsset (position.debt after)
      before.world after.world := by
  cases call with
  | compoundLever storage protocols adapters msgSender borrowAsset collateralAsset
      borrowQuantity minReceiveQuantity tradeAdapterName tradeData change returned =>
    simp only [CompoundLeverageStorage.lever, bind_eq_ok, pure_eq_ok, Prod.exists,
      Prod.mk.injEq] at returned
    obtain ⟨_, _, info, created, borrowed, borrowing, traded, _, trading, world, _, paying, _, _,
      minted, minting, _, updating, rfl, _⟩ := returned
    have first := (CompoundLeverageModule.borrow_emits borrowing).then_silent
      (executeTrade_emits trading)
    have only := (first.onlyBalances.trans (accrueProtocolFee_onlyBalances paying)).trans
      (CompoundLeverageModule.mintCToken_emits minting).onlyBalances
    exact CompoundLeverageStorage.updateLeverPositions_records
      (CompoundLeverageStorage.create_for created) only (Set.empty_subset _)
      ⟨World.Moves.refl _ _, World.Settles.none _⟩ updating
  | compoundDelever storage protocols adapters msgSender collateralAsset repayAsset
      redeemQuantity minRepayQuantity tradeAdapterName tradeData change returned =>
    simp only [CompoundLeverageStorage.delever, bind_eq_ok, pure_eq_ok, Prod.exists,
      Prod.mk.injEq] at returned
    obtain ⟨_, _, info, created, redeemed, redeeming, traded, _, trading, world, _, paying, _, _,
      repaid, repaying, _, updating, rfl, _⟩ := returned
    have first := (CompoundLeverageModule.redeemUnderlying_emits redeeming).then_silent
      (executeTrade_emits trading)
    have only := (first.onlyBalances.trans (accrueProtocolFee_onlyBalances paying)).trans
      (CompoundLeverageModule.repayBorrow_emits repaying).onlyBalances
    exact CompoundLeverageStorage.updateLeverPositions_records
      (CompoundLeverageStorage.create_for created) only (Set.empty_subset _)
      ⟨World.Moves.refl _ _, World.Settles.none _⟩ updating
  | compoundDeleverToZero storage protocols adapters msgSender collateralAsset repayAsset
      redeemQuantity tradeAdapterName tradeData change returned =>
    simp only [CompoundLeverageStorage.deleverToZeroBorrowBalance,
      CompoundLeverageModule.borrowBalance, if_true, bind_eq_ok, pure_eq_ok, Prod.exists,
      Prod.mk.injEq] at returned
    obtain ⟨_, _, _, _, _, _, _, _, ⟨_, ledger, _, _, rfl⟩, info, created, redeemed, redeeming,
      traded, _, trading, repaid, repaying, settled, _, _, _, settling, _, updating, rfl, _⟩ :=
      returned
    have actionInfo := CompoundLeverageStorage.createNotional_for created
    have only := ((CompoundLeverageModule.redeemUnderlying_emits redeeming).then_silent
      (executeTrade_emits trading)).onlyBalances.trans
        (CompoundLeverageModule.repayBorrow_emits repaying).onlyBalances
    have settledBy := World.calculateAndEditDefaultPosition_settledBy
      (actionInfo.supply.trans only.totalSupply.symm) settling
    refine CompoundLeverageStorage.updateLeverPositions_records actionInfo only Set.Subset.rfl ?_
      updating
    exact settledBy
  | aaveLever storage protocols adapters msgSender borrowAsset collateralAsset
      borrowQuantityUnits minReceiveQuantityUnits tradeAdapterName tradeData change returned =>
    simp only [AaveLeverageStorage.lever, bind_eq_ok, pure_eq_ok, Prod.exists,
      Prod.mk.injEq] at returned
    obtain ⟨_, _, info, created, borrowed, borrowing, traded, _, trading, world, _, paying, _, _,
      deposited, depositing, updated, updating, rfl, _⟩ := returned
    obtain ⟨collateral, supply⟩ := AaveLeverageStorage.create_eq_ok created
    have first := (Execution.invokeUnchecked_emits borrowing).then_silent
      (executeTrade_emits trading)
    have only := (first.onlyBalances.trans (accrueProtocolFee_onlyBalances paying)).trans
      (AaveLeverageStorage.deposit_emits depositing).onlyBalances
    exact AaveLeverageStorage.updateLeverPositions_records collateral supply only
      (Set.empty_subset _) ⟨World.Moves.refl _ _, World.Settles.none _⟩
      (Execution.onWorld_eq_ok updating).1
  | aaveDelever storage protocols adapters msgSender collateralAsset repayAsset
      redeemQuantityUnits minRepayQuantityUnits tradeAdapterName tradeData change returned =>
    simp only [AaveLeverageStorage.delever, bind_eq_ok, pure_eq_ok, Prod.exists,
      Prod.mk.injEq] at returned
    obtain ⟨_, _, info, created, withdrawn, withdrawing, traded, _, trading, world, _, paying, _,
      _, repaid, repaying, updated, updating, rfl, _⟩ := returned
    obtain ⟨collateral, supply⟩ := AaveLeverageStorage.create_eq_ok created
    have first := (Execution.invokeUnchecked_emits withdrawing).then_silent
      (executeTrade_emits trading)
    have only := (first.onlyBalances.trans (accrueProtocolFee_onlyBalances paying)).trans
      (AaveLeverageStorage.repayBorrow_emits repaying).onlyBalances
    exact AaveLeverageStorage.updateDeleverPositions_records collateral supply only
      (Execution.onWorld_eq_ok updating).1
  | aaveDeleverToZero storage protocols adapters msgSender collateralAsset repayAsset
      redeemQuantityUnits tradeAdapterName tradeData change returned =>
    simp only [AaveLeverageStorage.deleverToZeroBorrowBalance, bind_eq_ok, pure_eq_ok,
      Prod.exists, Prod.mk.injEq] at returned
    obtain ⟨_, _, _, _, _, _, _, _, info, created, withdrawn, withdrawing, traded, _, trading,
      repaid, repaying, updated, updating, rfl, _⟩ := returned
    obtain ⟨collateral, supply⟩ := AaveLeverageStorage.createNotional_eq_ok created
    have only := ((Execution.invokeUnchecked_emits withdrawing).then_silent
      (executeTrade_emits trading)).onlyBalances.trans
        (AaveLeverageStorage.repayBorrow_emits repaying).onlyBalances
    exact AaveLeverageStorage.updateDeleverPositions_records collateral supply only
      (Execution.onWorld_eq_ok updating).1

namespace LeverageCall

variable {position : LeveragePosition Ledger}

/-- After a change of leverage, whatever the exchange and the lending protocol did, the Set holds
what the units of the collateral token promise, the debt on record covers what the protocol
reports, and the supply, the multiplier and all positions in other tokens are as before. The
asset itself keeps its default unit or is recorded from its balance. -/
theorem conservative (positive : 0 < before.world.setToken.positionMultiplier)
    (call : LeverageCall position before after) :
    after.world.setToken.totalSupply = before.world.setToken.totalSupply ∧
    after.world.setToken.positionMultiplier = before.world.setToken.positionMultiplier ∧
    (∀ token, token ≠ position.collateralToken → token ≠ position.borrowAsset →
      after.world.setToken.componentPositions token =
          before.world.setToken.componentPositions token ∧
        (token ∈ after.world.setToken.components ↔
          token ∈ before.world.setToken.components)) ∧
    PositionCovered after.world position.collateralToken ∧
    (after.world.setToken.defaultRealUnit position.borrowAsset =
        before.world.setToken.defaultRealUnit position.borrowAsset ∨
      PositionCovered after.world position.borrowAsset) ∧
    DebtCovered position.module after.world.setToken.totalSupply (position.debt after)
      position.borrowAsset after.world.setToken := by
  obtain ⟨_, ⟨paid, only, kept⟩, collateral, default, owed⟩ := call.records
  refine ⟨kept.totalSupply.trans only.totalSupply,
    kept.edits.positionMultiplier.trans only.positionMultiplier,
    fun token notCollateral notAsset => ?_, collateral positive,
    default.imp_right fun covered => covered positive, (owed positive).1⟩
  have apart : token ∉ ({position.collateralToken, position.borrowAsset} : Set Address) := by
    rintro (same | same)
    · exact notCollateral same
    · exact notAsset same
  rw [kept.edits.positions token apart, kept.edits.listed token apart, only.components,
    only.samePositions.componentPositions]
  exact ⟨rfl, Iff.rfl⟩

/-- The Set has exchanged a quantity of one token for as much of another. -/
def sampleSwap (sent received : Address) (quantity : Nat) (world : World) : World :=
  (world.setHeld sent (world.held sent - quantity)).setHeld received
    (world.held received + quantity)

/-- A market whose ledger is the Set's debt in token 6, cToken 8 of token 7, and an exchange at
account 20 that swaps half a unit of these tokens. -/
def sampleMarket : Protocols Nat where
  execute := fun invocation world ledger =>
    match invocation.callData with
    | .borrow quantity =>
      .ok (0, world.setHeld 6 (world.held 6 + quantity), ledger + quantity)
    | .raw data =>
      if invocation.target = 20 then .ok (0, sampleSwap 6 7 (5 * 10 ^ 17) world, ledger)
      else .ok (0, sampleSwap 7 8 (AbiCoder.uint256 (data.drop 4) 0) world, ledger)
    | _ => .ok (0, world, ledger)
  onlyBalances := by
    intro invocation world ledger word next nextLedger returned
    have swapped : ∀ sent received quantity,
        World.OnlyBalances world (sampleSwap sent received quantity world) :=
      fun _ _ _ => (World.onlyBalances_setHeld _ _).trans (World.onlyBalances_setHeld _ _)
    split at returned
    · simp only [Except.ok.injEq, Prod.mk.injEq] at returned
      exact returned.2.1 ▸ World.onlyBalances_setHeld _ _
    · split at returned
      · simp only [Except.ok.injEq, Prod.mk.injEq] at returned
        exact returned.2.1 ▸ swapped _ _ _
      · simp only [Except.ok.injEq, Prod.mk.injEq] at returned
        exact returned.2.1 ▸ swapped _ _ _
    · simp only [Except.ok.injEq, Prod.mk.injEq] at returned
      exact returned.2.1 ▸ World.OnlyBalances.refl _
  borrowBalanceStored := fun _ _ ledger => ledger
  borrowBalanceCurrent := fun _ _ ledger => .ok (ledger, ledger)

def sampleMarkets : ExchangeAdapters Nat where
  getIntegrationAdapter := fun _ _ => 21
  exchangeAdapter := fun _ =>
    { getSpender := 20
      getTradeCalldata := fun _ _ _ _ _ _ _ _ => .ok (20, 0, []) }

/-- Token 7 is collateral with cToken 8, and token 6 is borrowed at cToken 9. -/
def sampleLeverage : CompoundLeverageStorage :=
  { CompoundLeverageStorage.construct 4 5 40 30 31 [(8, 7), (9, 6)] with
    collateralCTokenEnabled := fun cToken => cToken = 8
    borrowCTokenEnabled := fun cToken => cToken = 9 }

/-- The manager borrows half a unit of token 6 and deposits what token 7 it buys. -/
def sampleLever : Outcome (Execution Nat × LeverageChange) :=
  sampleLeverage.lever 5 sampleMarket sampleMarkets 6 7 (5 * 10 ^ 17) (4 * 10 ^ 17) "Exchange" []
    ⟨TradeModule.sampleTradeStart.world, 0, []⟩

theorem conservative_sample :
    ∃ after change, sampleLever = .ok (after, change) ∧
      after.world.setToken.defaultRealUnit 8 = 15 * 10 ^ 17 ∧ PositionCovered after.world 8 := by
  have succeeds : returns sampleLever (fun result => decide
      (result.1.world.setToken.defaultRealUnit 8 = 15 * 10 ^ 17)) = true := by
    decide +kernel
  obtain ⟨⟨after, change⟩, returned, unit⟩ := exists_of_returns succeeds
  have call := LeverageCall.compoundLever sampleLeverage sampleMarket sampleMarkets 5 6 7
    (5 * 10 ^ 17) (4 * 10 ^ 17) "Exchange" [] change returned
  exact ⟨after, change, returned, of_decide_eq_true unit,
    (conservative (by decide) call).2.2.2.1⟩

/-- The module is listed for the asset after a change of leverage exactly when the lending
protocol still reports a debt. -/
theorem debt_listed_iff (call : LeverageCall position before after)
    (kept : PositionBookkeeping before.world.setToken) :
    position.module ∈
        after.world.setToken.externalPositionModules position.borrowAsset ↔
      0 < position.debt after := by
  have records := call.records
  have bookkeeping : PositionBookkeeping after.world.setToken :=
    kept.moves (records.edits.mono fun _ edit => edit.1.2)
  have stored := bookkeeping.positions position.borrowAsset
  obtain ⟨covered, cleared⟩ := records.owed kept.multiplierPositive
  refine (stored.modules.mem_iff position.module).trans ⟨fun listed => ?_, fun owes => ?_⟩
  · by_contra none
    exact listed (stored.externalReal position.module (cleared (Nat.eq_zero_of_not_pos none)))
  · intro unlisted
    have unit : after.world.setToken.externalRealUnit position.borrowAsset position.module = 0 := by
      show after.world.setToken.realUnit _ = 0
      unfold SetToken.realUnit SetToken.externalPositionVirtualUnit
      rw [unlisted, zero_mul, Int.zero_ediv]
    have least := covered.2
    rw [unit, abs_zero, zero_mul] at least
    have most : 0 < (position.debt after * preciseUnit : Int) :=
      mul_pos (Int.natCast_pos.mpr owes) preciseUnit_int_pos
    exact absurd least (not_le.mpr most)

/-- Half a unit is owed after the sample, and the module is listed for it. -/
theorem debt_listed_iff_sample :
    ∃ after change, sampleLever = .ok (after, change) ∧
      (4 : Address) ∈ after.world.setToken.externalPositionModules 6 := by
  have succeeds : returns sampleLever (fun result => decide (0 < result.1.ledger)) = true := by
    decide +kernel
  obtain ⟨⟨after, change⟩, returned, owes⟩ := exists_of_returns succeeds
  have call := LeverageCall.compoundLever sampleLeverage sampleMarket sampleMarkets 5 6 7
    (5 * 10 ^ 17) (4 * 10 ^ 17) "Exchange" [] change returned
  have owed : 0 < (sampleLeverage.position sampleMarket 7 6).debt after := of_decide_eq_true owes
  have listed := debt_listed_iff call TradeModule.sampleTradeStart_bookkeeping
  exact ⟨after, change, returned, listed.mpr owed⟩

end LeverageCall

end Calls

end IndexProtocol

/-
This file proves what a sync of the leverage modules records. The unit of a
collateral token is rounded down and the unit of a debt away from zero, each
twice: when the balance is spread over the supply and when the unit is stored.
So the collateral on record is never more and the debt never less than the
lending protocol reports, and nothing else of the Set changes.
-/

import IndexProtocol.Modules.AaveLeverageModule
import IndexProtocol.Modules.CompoundLeverageModule
import IndexProtocol.System.StoredUnits

namespace IndexProtocol

open Revert PreciseUnitMath

namespace LeverageHooks

/-! ### What a sync records -/

/-- The default units of a token claim at most a balance. -/
def Backed (supply balance : Nat) (token : Address) (setToken : SetToken) : Prop :=
  setToken.defaultRealUnit token * supply ≤ balance * preciseUnit

/-- The external units of a module are a debt of at least a balance. -/
def DebtCovered (module : Address) (supply balance : Nat) (asset : Address)
    (setToken : SetToken) : Prop :=
  setToken.externalRealUnit asset module ≤ 0 ∧
    (balance * preciseUnit : Int) ≤ |setToken.externalRealUnit asset module| * supply

/-- Only the Set is written, and of the Set only what an edit of the touched components may
write. -/
structure SyncsOnly (touched : Set Address) (world next : World) : Prop where
  stored : next = { world with setToken := next.setToken }
  edits : Position.EditsOnly touched world.setToken next.setToken

namespace SyncsOnly

variable {touched larger : Set Address} {world middle next : World}

theorem refl (touched : Set Address) (world : World) : SyncsOnly touched world world :=
  ⟨rfl, Position.EditsOnly.refl _ _⟩

theorem trans (first : SyncsOnly touched world middle) (second : SyncsOnly touched middle next) :
    SyncsOnly touched world next where
  stored := by rw [second.stored, first.stored]
  edits := first.edits.trans second.edits

theorem mono (contained : touched ⊆ larger) (syncs : SyncsOnly touched world next) :
    SyncsOnly larger world next :=
  ⟨syncs.stored, syncs.edits.mono contained⟩

theorem positionMultiplier (syncs : SyncsOnly touched world next) :
    next.setToken.positionMultiplier = world.setToken.positionMultiplier :=
  syncs.edits.positionMultiplier

/-- A sync moves no token. -/
theorem held (syncs : SyncsOnly touched world next) : next.held = world.held := by
  obtain ⟨stored, edits⟩ := syncs
  obtain ⟨components, positions, written⟩ := edits.only
  rw [stored, written]
  rfl

theorem of_call {call : SetToken → Outcome SetToken}
    (edits : ∀ edited, call world.setToken = .ok edited →
      Position.EditsOnly touched world.setToken edited)
    (returned : world.callSetToken call = .ok next) : SyncsOnly touched world next := by
  obtain ⟨called, stored⟩ := World.callSetToken_eq_ok returned
  exact ⟨stored, edits _ called⟩

end SyncsOnly

/-- Reading two Sets that agree on the position of a component. -/
theorem Backed.congr {supply balance : Nat} {token : Address} {setToken other : SetToken}
    (unit : other.defaultPositionVirtualUnit token = setToken.defaultPositionVirtualUnit token)
    (multiplier : other.positionMultiplier = setToken.positionMultiplier)
    (backed : Backed supply balance token setToken) : Backed supply balance token other := by
  unfold Backed SetToken.defaultRealUnit SetToken.realUnit at backed ⊢
  rw [unit, multiplier]
  exact backed

theorem DebtCovered.congr {module asset : Address} {supply balance : Nat}
    {setToken other : SetToken}
    (position : other.componentPositions asset = setToken.componentPositions asset)
    (multiplier : other.positionMultiplier = setToken.positionMultiplier)
    (covered : DebtCovered module supply balance asset setToken) :
    DebtCovered module supply balance asset other := by
  unfold DebtCovered SetToken.externalRealUnit SetToken.realUnit
    SetToken.externalPositionVirtualUnit at covered ⊢
  rw [position, multiplier]
  exact covered

/-! ### One position -/

section Positions

variable {module token asset : Address} {supply balance : Nat} {world next : World}

/-- Whether or not it is written, the new unit claims at most the balance. -/
theorem syncCollateral_eq_ok (positive : 0 < world.setToken.positionMultiplier)
    (returned : syncCollateral module supply world token = .ok next) :
    SyncsOnly {token} world next ∧ Backed supply (world.held token) token next.setToken := by
  simp only [syncCollateral, bind_eq_ok, SetToken.getDefaultPositionRealUnit_eq_ok,
    SafeCast.toUint256_eq_ok, preciseDiv_eq_ok] at returned
  obtain ⟨_, ⟨_, rfl⟩, previous, read, newUnit, ⟨_, supplied, rfl⟩, synced⟩ := returned
  have spread : world.held token * preciseUnit / supply * supply ≤
      world.held token * preciseUnit := Nat.div_mul_le_self _ _
  have backed : ∀ unit : Int, unit ≤ (world.held token * preciseUnit / supply : Nat) →
      unit * supply ≤ world.held token * preciseUnit := by
    intro unit atMost
    exact (Int.mul_le_mul_of_nonneg_right atMost (Int.natCast_nonneg _)).trans
      (by exact_mod_cast spread)
  split at synced
  · refine ⟨SyncsOnly.of_call (fun _ => Position.editDefaultPosition_editsOnly) synced, ?_⟩
    obtain ⟨called, _⟩ := World.callSetToken_eq_ok synced
    obtain ⟨_, _, atMost, _⟩ := Position.editDefaultPosition_unit positive called
    exact backed _ atMost
  · rename_i same
    obtain rfl := (pure_eq_ok _ _).mp synced
    exact ⟨SyncsOnly.refl _ _, backed _ (read.trans_le (by rw [not_not.mp same]))⟩

/-- The unit of a borrow balance is negative or zero and covers it. -/
theorem borrowPosition_eq_ok {unit : Int}
    (returned : borrowPosition balance supply = .ok unit) :
    unit ≤ 0 ∧ (balance * preciseUnit : Int) ≤ -unit * supply := by
  simp only [borrowPosition, bind_eq_ok, SafeCast.toInt256_eq_ok, SignedSafeMath.mul_eq_ok]
    at returned
  obtain ⟨rounded, divided, _, ⟨_, rfl⟩, _, rfl⟩ := returned
  obtain ⟨_, covers⟩ := preciseDivCeil_eq_ok divided
  have least : (balance * preciseUnit : Int) ≤ rounded * supply := by exact_mod_cast covers
  refine ⟨by omega, ?_⟩
  rw [mul_neg_one, neg_neg]
  exact least

/-- Whether or not it is written, the new unit covers the borrow balance, and no default unit
changes. -/
theorem syncBorrow_eq_ok (positive : 0 < world.setToken.positionMultiplier)
    (returned : syncBorrow module asset balance supply world = .ok next) :
    SyncsOnly {asset} world next ∧ DebtCovered module supply balance asset next.setToken ∧
      ∀ component, next.setToken.defaultPositionVirtualUnit component =
        world.setToken.defaultPositionVirtualUnit component := by
  simp only [syncBorrow, bind_eq_ok, SetToken.getExternalPositionRealUnit_eq_ok] at returned
  obtain ⟨_, ⟨_, rfl⟩, newUnit, computed, synced⟩ := returned
  obtain ⟨nonpos, covers⟩ := borrowPosition_eq_ok computed
  have covered : ∀ unit : Int, unit ≤ newUnit →
      unit ≤ 0 ∧ (balance * preciseUnit : Int) ≤ |unit| * supply := by
    intro unit atMost
    refine ⟨atMost.trans nonpos, covers.trans ?_⟩
    rw [abs_of_nonpos (atMost.trans nonpos)]
    exact Int.mul_le_mul_of_nonneg_right (neg_le_neg atMost) (Int.natCast_nonneg _)
  split at synced
  · have syncs : SyncsOnly {asset} world next :=
      SyncsOnly.of_call (fun _ edited => (Position.editExternalPosition_editsOnly edited).1) synced
    obtain ⟨called, _⟩ := World.callSetToken_eq_ok synced
    obtain ⟨_, default, written, cleared⟩ := Position.editExternalPosition_editsOnly called
    refine ⟨syncs, covered _ ?_, fun component => ?_⟩
    · by_cases zero : newUnit = 0
      · exact (cleared zero).trans_le zero.ge
      · have readsBack := SetToken.readsBack_of_converted positive (written zero)
        unfold SetToken.externalRealUnit SetToken.realUnit
        rw [syncs.positionMultiplier]
        exact readsBack.atMost
    · unfold SetToken.defaultPositionVirtualUnit
      by_cases same : component = asset
      · exact same ▸ default
      · rw [syncs.edits.positions component same]
  · rename_i same
    obtain rfl := (pure_eq_ok _ _).mp synced
    exact ⟨SyncsOnly.refl _ _, covered _ (not_not.mp same).ge, fun _ => rfl⟩

end Positions

/-! ### The loops -/

section Loops

variable {module : Address} {supply : Nat} {world middle next : World}

/-- After the loop over the collateral tokens each of them is backed, also one that is listed
twice. -/
theorem syncCollaterals_eq_ok (tokens : List Address) :
    ∀ world, 0 < world.setToken.positionMultiplier →
      tokens.foldlM (syncCollateral module supply) world = .ok next →
      SyncsOnly {token | token ∈ tokens} world next ∧
        ∀ token ∈ tokens, Backed supply (world.held token) token next.setToken := by
  induction tokens with
  | nil =>
    intro world _ returned
    rw [List.foldlM_nil, pure_eq_ok] at returned
    exact returned ▸ ⟨SyncsOnly.refl _ _, fun token member => absurd member List.not_mem_nil⟩
  | cons token rest inductionHypothesis =>
    intro world positive returned
    rw [List.foldlM_cons, bind_eq_ok] at returned
    obtain ⟨middle, first, remaining⟩ := returned
    obtain ⟨one, backed⟩ := syncCollateral_eq_ok positive first
    obtain ⟨others, listed⟩ := inductionHypothesis middle
      (one.positionMultiplier ▸ positive) remaining
    rw [one.held] at listed
    refine ⟨(one.mono ?_).trans (others.mono fun _ => List.mem_cons_of_mem _),
      fun other member => ?_⟩
    · exact fun _ same => List.mem_cons.mpr (Or.inl same)
    · by_cases again : other ∈ rest
      · exact listed other again
      · obtain rfl := (List.mem_cons.mp member).resolve_right again
        refine backed.congr ?_ others.positionMultiplier
        unfold SetToken.defaultPositionVirtualUnit
        rw [others.edits.positions other again]

/-- A debt that is covered stays covered while other assets are synced. -/
theorem DebtCovered.of_syncsOnly {touched : Set Address} {asset : Address} {balance : Nat}
    (covered : DebtCovered module supply balance asset middle.setToken) (apart : asset ∉ touched)
    (others : SyncsOnly touched middle next) :
    DebtCovered module supply balance asset next.setToken :=
  covered.congr (others.edits.positions asset apart) others.positionMultiplier

theorem Backed.of_defaults {token : Address} {balance : Nat}
    {touched : Set Address} (backed : Backed supply balance token world.setToken)
    (syncs : SyncsOnly touched world next)
    (defaults : ∀ component, next.setToken.defaultPositionVirtualUnit component =
      world.setToken.defaultPositionVirtualUnit component) :
    Backed supply balance token next.setToken :=
  backed.congr (defaults token) syncs.positionMultiplier

end Loops

end LeverageHooks

/-! ### Aave -/

namespace AaveLeverageModule

open LeverageHooks

variable {module : AaveLeverageModule} {supply : Nat} {next : World}

/-- After the loop over the borrow assets the debt of each of them is covered. -/
theorem syncBorrows_eq_ok (assets : List Address) (distinct : assets.Nodup) :
    ∀ world, 0 < world.setToken.positionMultiplier →
      assets.foldlM (module.syncBorrow supply) world = .ok next →
      SyncsOnly {asset | asset ∈ assets} world next ∧
        (∀ component, next.setToken.defaultPositionVirtualUnit component =
          world.setToken.defaultPositionVirtualUnit component) ∧
        ∀ asset ∈ assets, DebtCovered module.address supply
          (world.held (module.underlyingToReserveTokens asset).variableDebtToken) asset
          next.setToken := by
  induction assets with
  | nil =>
    intro world _ returned
    rw [List.foldlM_nil, pure_eq_ok] at returned
    exact returned ▸ ⟨SyncsOnly.refl _ _, fun _ => rfl,
      fun asset member => absurd member List.not_mem_nil⟩
  | cons asset rest inductionHypothesis =>
    intro world positive returned
    obtain ⟨fresh, distinctRest⟩ := List.nodup_cons.mp distinct
    rw [List.foldlM_cons, bind_eq_ok] at returned
    obtain ⟨middle, first, remaining⟩ := returned
    obtain ⟨one, covered, default⟩ := LeverageHooks.syncBorrow_eq_ok positive first
    obtain ⟨others, defaults, listed⟩ := inductionHypothesis distinctRest middle
      (one.positionMultiplier ▸ positive) remaining
    rw [one.held] at listed
    refine ⟨(one.mono ?_).trans (others.mono fun _ => List.mem_cons_of_mem _),
      fun component => (defaults component).trans (default component), fun other member => ?_⟩
    · exact fun _ same => List.mem_cons.mpr (Or.inl same)
    · rcases List.mem_cons.mp member with rfl | member
      · exact covered.of_syncsOnly fresh others
      · exact listed other member

end AaveLeverageModule

/-! ### Compound -/

namespace CompoundLeverageModule

open LeverageHooks

variable {Ledger : Type} {protocols : Protocols Ledger} {module : CompoundLeverageModule}
  {supply : Nat} {after : Execution Ledger}

/-- The borrow balances an account has at the cTokens, read one after the other: each reading
accrues the interest of its cToken first. -/
inductive ReportsDebts (protocols : Protocols Ledger) (account : Address) :
    List Address → Ledger → List Nat → Ledger → Prop
  | nil (ledger : Ledger) : ReportsDebts protocols account [] ledger [] ledger
  | cons {cToken : Address} {rest : List Address} {ledger accrued final : Ledger} {balance : Nat}
      {balances : List Nat}
      (reported : protocols.borrowBalanceCurrent cToken account ledger = .ok (balance, accrued))
      (others : ReportsDebts protocols account rest accrued balances final) :
      ReportsDebts protocols account (cToken :: rest) ledger (balance :: balances) final

/-- After the loop over the borrow assets the debt of each of them covers what its cToken
reported. -/
theorem syncBorrows_eq_ok (borrows : List (Address × Address))
    (distinct : (borrows.map Prod.snd).Nodup) :
    ∀ before : Execution Ledger, 0 < before.world.setToken.positionMultiplier →
      borrows.foldlM (module.syncBorrow protocols supply true) before = .ok after →
      SyncsOnly {asset | asset ∈ borrows.map Prod.snd} before.world after.world ∧
        (∀ component, after.world.setToken.defaultPositionVirtualUnit component =
          before.world.setToken.defaultPositionVirtualUnit component) ∧
        ∃ balances, ReportsDebts protocols before.world.setToken.address
            (borrows.map Prod.fst) before.ledger balances after.ledger ∧
          List.Forall₂ (fun borrow balance =>
            DebtCovered module.address supply balance borrow.2 after.world.setToken)
            borrows balances := by
  induction borrows with
  | nil =>
    intro before _ returned
    rw [List.foldlM_nil, pure_eq_ok] at returned
    exact returned ▸ ⟨SyncsOnly.refl _ _, fun _ => rfl, [], .nil _, .nil⟩
  | cons borrow rest inductionHypothesis =>
    intro before positive returned
    rw [List.map_cons] at distinct
    obtain ⟨fresh, distinctRest⟩ := List.nodup_cons.mp distinct
    rw [List.foldlM_cons, bind_eq_ok] at returned
    obtain ⟨middle, first, remaining⟩ := returned
    simp only [syncBorrow, borrowBalance, if_true, bind_eq_ok, pure_eq_ok, Prod.exists,
      Prod.mk.injEq] at first
    obtain ⟨_, _, ⟨balance, ledger, reported, rfl, rfl⟩, edited⟩ := first
    obtain ⟨called, stored⟩ := Execution.onWorld_eq_ok edited
    obtain ⟨one, covered, default⟩ := LeverageHooks.syncBorrow_eq_ok positive called
    obtain ⟨others, defaults, balances, reports, listed⟩ := inductionHypothesis distinctRest middle
      (one.positionMultiplier ▸ positive) remaining
    have sameAddress : middle.world.setToken.address = before.world.setToken.address := by
      obtain ⟨_, _, written⟩ := one.edits.only
      rw [written]
    have accrued : middle.ledger = ledger := by rw [stored]
    rw [sameAddress, accrued] at reports
    refine ⟨(one.mono ?_).trans (others.mono fun _ => List.mem_cons_of_mem _),
      fun component => (defaults component).trans (default component), balance :: balances,
      .cons reported reports, .cons (covered.of_syncsOnly fresh others) listed⟩
    exact fun _ same => List.mem_cons.mpr (Or.inl same)

end CompoundLeverageModule

/-! ### The syncs -/

section Syncs

open LeverageHooks

theorem sublist_snd_zip (tokens : List Address) :
    ∀ assets : List Address, ((tokens.zip assets).map Prod.snd).Sublist assets := by
  induction tokens with
  | nil => exact fun assets => List.nil_sublist assets
  | cons token rest inductionHypothesis =>
    intro assets
    cases assets with
    | nil => exact List.Sublist.refl []
    | cons asset others => exact (inductionHypothesis others).cons_cons asset

/-- A sync with a supply records for each collateral token at most its balance and for each
borrow asset at least what the lending protocol reports, and writes no position of another
component; without a supply it changes nothing. -/
theorem sync_conservative {Ledger : Type} (protocols : Protocols Ledger) :
    (∀ (module : CompoundLeverageModule) (before after : Execution Ledger),
      0 < before.world.setToken.positionMultiplier → module.borrowAssets.Nodup →
      module.sync protocols true before = .ok after →
      let supply := before.world.setToken.totalSupply
      (supply = 0 → after = before) ∧
      SyncsOnly {component | component ∈ module.collateralCTokens ∨
        component ∈ module.borrowAssets} before.world after.world ∧
      (0 < supply →
        (∀ token ∈ module.collateralCTokens,
          Backed supply (before.world.held token) token after.world.setToken) ∧
        ∃ balances, CompoundLeverageModule.ReportsDebts protocols before.world.setToken.address
            ((module.borrowCTokens.zip module.borrowAssets).map Prod.fst) before.ledger balances
            after.ledger ∧
          List.Forall₂ (fun borrow balance =>
            DebtCovered module.address supply balance borrow.2 after.world.setToken)
            (module.borrowCTokens.zip module.borrowAssets) balances)) ∧
    (∀ (module : AaveLeverageModule) (before after : World),
      0 < before.setToken.positionMultiplier → module.borrowAssets.Nodup →
      module.sync before = .ok after →
      let supply := before.setToken.totalSupply
      let aToken := fun asset => (module.underlyingToReserveTokens asset).aToken
      let debtToken := fun asset => (module.underlyingToReserveTokens asset).variableDebtToken
      (supply = 0 → after = before) ∧
      SyncsOnly {component | component ∈ module.collateralAssets.map aToken ∨
        component ∈ module.borrowAssets} before after ∧
      (0 < supply →
        (∀ asset ∈ module.collateralAssets,
          Backed supply (before.held (aToken asset)) (aToken asset) after.setToken) ∧
        ∀ asset ∈ module.borrowAssets,
          DebtCovered module.address supply (before.held (debtToken asset)) asset
            after.setToken)) := by
  refine ⟨fun module before after positive distinct returned => ?_,
    fun module before after positive distinct returned => ?_⟩
  · rcases CompoundLeverageModule.sync_cases returned with
      ⟨none, rfl⟩ | ⟨supplied, middle, collateral, borrows⟩
    · exact ⟨fun _ => rfl, SyncsOnly.refl _ _, fun some => absurd none some.ne'⟩
    obtain ⟨looped, stored⟩ := Execution.onWorld_eq_ok collateral
    obtain ⟨first, backed⟩ := syncCollaterals_eq_ok _ _ positive looped
    obtain ⟨second, defaults, balances, reports, covered⟩ :=
      CompoundLeverageModule.syncBorrows_eq_ok _ ((sublist_snd_zip _ _).nodup distinct) _
        (first.positionMultiplier ▸ positive) borrows
    have sameAddress : middle.world.setToken.address = before.world.setToken.address := by
      obtain ⟨_, _, written⟩ := first.edits.only
      rw [written]
    have sameLedger : middle.ledger = before.ledger := by rw [stored]
    rw [sameAddress, sameLedger] at reports
    refine ⟨fun none => absurd none supplied.ne', ?_, fun _ => ⟨fun token member => ?_,
      balances, reports, covered⟩⟩
    · refine (first.mono fun _ => Or.inl).trans (second.mono fun component member => Or.inr ?_)
      obtain ⟨borrow, listed, rfl⟩ := List.mem_map.mp member
      exact (List.of_mem_zip listed).2
    · exact (backed token member).of_defaults second defaults
  · rcases AaveLeverageModule.sync_cases returned with
      ⟨none, rfl⟩ | ⟨supplied, middle, collateral, borrows⟩
    · exact ⟨fun _ => rfl, SyncsOnly.refl _ _, fun some => absurd none some.ne'⟩
    have looped : (module.collateralAssets.map fun asset =>
        (module.underlyingToReserveTokens asset).aToken).foldlM
          (syncCollateral module.address before.setToken.totalSupply) before = .ok middle := by
      rw [List.foldlM_map]
      exact collateral
    obtain ⟨first, backed⟩ := syncCollaterals_eq_ok _ _ positive looped
    obtain ⟨second, defaults, covered⟩ := AaveLeverageModule.syncBorrows_eq_ok _ distinct _
      (first.positionMultiplier ▸ positive) borrows
    rw [first.held] at covered
    refine ⟨fun none => absurd none supplied.ne', ?_, fun _ => ⟨fun asset member => ?_,
      covered⟩⟩
    · exact (first.mono fun _ => Or.inl).trans (second.mono fun _ => Or.inr)
    · exact (backed _ (List.mem_map_of_mem member)).of_defaults second defaults

/-- Every account owes seven of everything at Compound. -/
def sampleLending : Protocols Unit where
  execute := fun _ world ledger => .ok (0, world, ledger)
  onlyBalances := by
    intro _ world ledger word next nextLedger returned
    rw [Except.ok.injEq, Prod.mk.injEq, Prod.mk.injEq] at returned
    exact returned.2.1 ▸ World.OnlyBalances.refl world
  borrowBalanceStored := fun _ _ _ => 7
  borrowBalanceCurrent := fun _ _ ledger => .ok (7, ledger)

/-- The Set with a multiplier of seven tenths, registered and holding forty of every token. -/
def sampleSyncWorld : World :=
  { World.sampleSurplusWorld with
    controller := { sampleController with isSet := fun _ => true } }

def sampleCompound : CompoundLeverageModule where
  address := 4
  cEther := 30
  weth := 31
  underlyingToCToken := fun _ => 8
  collateralCTokens := [3]
  borrowCTokens := [8]
  borrowAssets := [6]

def sampleAave : AaveLeverageModule where
  address := 4
  lendingPool := 40
  underlyingToReserveTokens := fun _ => ⟨3, 9⟩
  collateralAssets := [7]
  borrowAssets := [6]

/-- The collateral of forty is backed, and the debts of seven and of forty are covered. -/
theorem sync_conservative_sample :
    (∃ after, sampleCompound.sync sampleLending true ⟨sampleSyncWorld, (), []⟩ = .ok after ∧
      Backed (3 * 10 ^ 18) 40 3 after.world.setToken) ∧
    ∃ after, sampleAave.sync sampleSyncWorld = .ok after ∧
      DebtCovered 4 (3 * 10 ^ 18) 40 6 after.setToken := by
  have compound : returns (sampleCompound.sync sampleLending true ⟨sampleSyncWorld, (), []⟩)
      (fun _ => true) = true := by
    decide
  have aave : returns (sampleAave.sync sampleSyncWorld) (fun _ => true) = true := by
    decide
  obtain ⟨synced, returned, _⟩ := exists_of_returns compound
  obtain ⟨aaveSynced, aaveReturned, _⟩ := exists_of_returns aave
  obtain ⟨backed, _⟩ := ((sync_conservative sampleLending).1 sampleCompound _ synced (by decide)
    (by decide) returned).2.2 (by decide)
  obtain ⟨_, covered⟩ := ((sync_conservative sampleLending).2 sampleAave _ aaveSynced (by decide)
    (by decide) aaveReturned).2.2 (by decide)
  exact ⟨⟨synced, returned, backed 3 List.mem_cons_self⟩,
    ⟨aaveSynced, aaveReturned, covered 6 List.mem_cons_self⟩⟩

end Syncs

end IndexProtocol

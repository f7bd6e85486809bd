/-
This file proves when a Set that the auction module locked can be unlocked after
its auction. The call reads the early-unlock condition even when the duration
has elapsed, so it succeeds exactly when every comparison it reaches can be
computed. The comparison of a unit with a target subtracts one from its second
operand, which is the target for the quote asset: a quote asset with no target
and no unit keeps the Set locked.
-/

import IndexProtocol.Protocol.PositionBookkeeping
import IndexProtocol.System.Impact

namespace IndexProtocol

open Revert PreciseUnitMath

/-! ### What can be read -/

/-- Every default position can be read: its product with the multiplier fits. -/
def SetToken.Readable (setToken : SetToken) : Prop :=
  ∀ component,
    FitsInt256 (setToken.defaultPositionVirtualUnit component * setToken.positionMultiplier)

theorem PositionBookkeeping.defaultRealUnit_nonneg {setToken : SetToken}
    (kept : PositionBookkeeping setToken) (component : Address) :
    0 ≤ setToken.defaultRealUnit component :=
  Int.ediv_nonneg (mul_nonneg (kept.positions component).defaultNonneg kept.multiplierPositive.le)
    preciseUnit_int_pos.le

theorem SetToken.Readable.currentUnit_lt {setToken : SetToken} (readable : setToken.Readable)
    (component : Address) : setToken.currentUnit component < 2 ^ 255 := by
  have fits := (readable component).2
  unfold SetToken.currentUnit SetToken.defaultRealUnit SetToken.realUnit
  have below : setToken.defaultPositionVirtualUnit component * setToken.positionMultiplier /
      preciseUnit < 2 ^ 255 := by
    refine Int.ediv_lt_of_lt_mul preciseUnit_int_pos (fits.trans_le ?_)
    exact le_mul_of_one_le_right (by decide) preciseUnit_int_pos
  omega

namespace AuctionRebalanceModuleV1

section Checks

variable {module : AuctionRebalanceModuleV1} {world : World} {component : Address}

theorem getDefaultPositionRealUnit_of_readable (kept : PositionBookkeeping world.setToken)
    (readable : world.setToken.Readable) {unit : Nat} :
    getDefaultPositionRealUnit world component = .ok unit ↔
      world.setToken.currentUnit component = unit := by
  rw [getDefaultPositionRealUnit_eq_ok, and_iff_right (readable component)]
  have nonneg := kept.defaultRealUnit_nonneg component
  unfold SetToken.currentUnit
  omega

/-! ### What unlocking reads -/

/-- A unit meets a target when it is away from it by at most one, or both are zero. -/
def MeetsTarget (target unit : Nat) : Prop :=
  0 < target ∧ target ≤ unit + 1 ∧ unit ≤ target + 1 ∨ target = 0 ∧ unit = 0

instance (target unit : Nat) : Decidable (MeetsTarget target unit) :=
  inferInstanceAs (Decidable (_ ∨ _))

/-- The unit of a component other than the quote asset does not meet its target. -/
def TargetMissed (module : AuctionRebalanceModuleV1) (setToken : SetToken)
    (component : Address) : Prop :=
  component ≠ module.rebalanceInfo.quoteAsset ∧
    ¬MeetsTarget (module.normalizedTargetUnit setToken component)
      (setToken.currentUnit component)

instance (setToken : SetToken) (component : Address) :
    Decidable (module.TargetMissed setToken component) :=
  inferInstanceAs (Decidable (_ ∧ _))

/-- The target of a component can be computed, and it is not one while the unit is zero. -/
def TargetReadable (module : AuctionRebalanceModuleV1) (setToken : SetToken)
    (component : Address) : Prop :=
  component = module.rebalanceInfo.quoteAsset ∨
    module.TargetComputable setToken component ∧
      ¬(module.normalizedTargetUnit setToken component = 1 ∧ setToken.currentUnit component = 0)

/-- Each target can be read that is reached before a missed one. -/
def ReadsTargets (module : AuctionRebalanceModuleV1) (setToken : SetToken)
    (components : List Address) : Prop :=
  ∀ before component after, components = before ++ component :: after →
    (∀ earlier ∈ before, ¬module.TargetMissed setToken earlier) →
      module.TargetReadable setToken component

/-- The target of the quote asset can be computed, the sum with one fits, and it is not zero
while the unit is at most one. -/
def QuoteReadable (module : AuctionRebalanceModuleV1) (setToken : SetToken) : Prop :=
  module.TargetComputable setToken module.rebalanceInfo.quoteAsset ∧
  module.normalizedTargetUnit setToken module.rebalanceInfo.quoteAsset + 1 < 2 ^ 256 ∧
  ¬(module.normalizedTargetUnit setToken module.rebalanceInfo.quoteAsset = 0 ∧
    setToken.currentUnit module.rebalanceInfo.quoteAsset ≤ 1)

/-- Every target that unlocking reads can be read; the quote asset is read only when no target
is missed. -/
structure UnlockCondition (module : AuctionRebalanceModuleV1) (setToken : SetToken) : Prop where
  targets : module.ReadsTargets setToken module.rebalanceInfo.rebalanceComponents
  quote : (∀ component ∈ module.rebalanceInfo.rebalanceComponents,
    ¬module.TargetMissed setToken component) → module.QuoteReadable setToken

/-- The comparison of a unit with a target: it reverts when it subtracts one from a zero
unit. -/
theorem compareUnit_eq_ok {target unit : Nat} (small : unit < 2 ^ 255) {unmet : Bool} :
    (if 0 < target then do
        let met ← approximatelyEquals target unit 1
        pure (!met)
      else pure (decide (target ≠ unit)) : Outcome Bool) = .ok unmet ↔
      ¬(target = 1 ∧ unit = 0) ∧ decide (¬MeetsTarget target unit) = unmet := by
  rcases Nat.eq_zero_or_pos target with rfl | some
  · simp only [lt_irrefl, if_false, pure_eq_ok, MeetsTarget, zero_ne_one, false_and, false_or,
      not_false_eq_true, true_and, ne_comm]
  · simp only [some, if_true, bind_eq_ok, approximatelyEquals_eq_ok, pure_eq_ok, MeetsTarget,
      some.ne', true_and, false_and, or_false, decide_not]
    constructor
    · rintro ⟨_, ⟨_, large, rfl⟩, rfl⟩
      refine ⟨by omega, congrArg Bool.not (decide_eq_decide.mpr ?_)⟩
      omega
    · rintro ⟨large, rfl⟩
      refine ⟨_, ⟨by omega, by omega, rfl⟩, congrArg Bool.not (decide_eq_decide.mpr ?_)⟩
      omega

theorem targetUnmet_eq_ok (kept : PositionBookkeeping world.setToken)
    (readable : world.setToken.Readable) {unmet : Bool} :
    module.targetUnmet world component = .ok unmet ↔
      module.TargetReadable world.setToken component ∧
        decide (module.TargetMissed world.setToken component) = unmet := by
  unfold targetUnmet TargetReadable TargetMissed
  by_cases quote : component = module.rebalanceInfo.quoteAsset
  · rw [if_pos quote, pure_eq_ok, and_iff_right (Or.inl quote)]
    simp only [quote, ne_eq, not_true_eq_false, false_and, decide_false]
  · rw [if_neg quote, or_iff_right quote]
    simp only [bind_eq_ok, getNormalizedTargetUnit_eq_ok kept.multiplierPositive.le,
      getDefaultPositionRealUnit_of_readable kept readable, ne_eq, quote, not_false_eq_true,
      true_and, and_assoc, exists_and_left, exists_eq_left',
      compareUnit_eq_ok (readable.currentUnit_lt component)]

theorem readsTargets_cons {setToken : SetToken} {rest : List Address} :
    module.ReadsTargets setToken (component :: rest) ↔
      module.TargetReadable setToken component ∧
        (¬module.TargetMissed setToken component → module.ReadsTargets setToken rest) := by
  constructor
  · intro reads
    refine ⟨reads [] component rest rfl fun _ member => absurd member List.not_mem_nil, ?_⟩
    intro met before other after split earlier
    refine reads (component :: before) other after (congrArg (component :: ·) split) ?_
    exact List.forall_mem_cons.mpr ⟨met, earlier⟩
  · rintro ⟨first, later⟩ before other after split earlier
    cases before with
    | nil =>
      obtain ⟨rfl, _⟩ := List.cons.inj split
      exact first
    | cons head before =>
      obtain ⟨rfl, remaining⟩ := List.cons.inj split
      obtain ⟨met, others⟩ := List.forall_mem_cons.mp earlier
      exact later met before other after remaining others

/-- The loop reads the targets up to the first missed one. -/
theorem allTargetsMetFrom_eq_ok (kept : PositionBookkeeping world.setToken)
    (readable : world.setToken.Readable) (components : List Address) {met : Bool} :
    module.allTargetsMetFrom world components = .ok met ↔
      module.ReadsTargets world.setToken components ∧
        decide (∀ component ∈ components, ¬module.TargetMissed world.setToken component) =
          met := by
  induction components generalizing met with
  | nil =>
    have reads : module.ReadsTargets world.setToken [] := fun before component after split =>
      absurd split.symm (List.append_ne_nil_of_right_ne_nil _ (List.cons_ne_nil _ _))
    simp [allTargetsMetFrom, reads]
  | cons component rest inductionHypothesis =>
    simp only [allTargetsMetFrom, bind_eq_ok, targetUnmet_eq_ok kept readable, readsTargets_cons,
      and_assoc, exists_and_left, exists_eq_left', List.forall_mem_cons]
    refine and_congr_right fun _ => ?_
    by_cases missed : module.TargetMissed world.setToken component
    · simp [missed]
    · simp [missed, inductionHypothesis]

theorem isQuoteAssetExcessOrAtTarget_eq_ok (kept : PositionBookkeeping world.setToken)
    (readable : world.setToken.Readable) :
    (∃ quote, module.isQuoteAssetExcessOrAtTarget world = .ok quote) ↔
      module.QuoteReadable world.setToken := by
  simp only [isQuoteAssetExcessOrAtTarget, bind_eq_ok,
    getNormalizedTargetUnit_eq_ok kept.multiplierPositive.le,
    getDefaultPositionRealUnit_of_readable kept readable, exists_eq_left', and_assoc,
    exists_and_left, approximatelyEquals_eq_ok, pure_eq_ok, QuoteReadable]
  refine and_congr_right fun _ => ?_
  constructor
  · rintro ⟨fits, large, _⟩
    exact ⟨fits, by omega⟩
  · rintro ⟨fits, large⟩
    exact ⟨fits, by omega, _, rfl⟩

/-- The early-unlock condition is read exactly when every target it reaches can be. -/
theorem canUnlockEarly_eq_ok (kept : PositionBookkeeping world.setToken)
    (readable : world.setToken.Readable) :
    (∃ early, module.canUnlockEarly world = .ok early) ↔
      module.UnlockCondition world.setToken := by
  simp only [canUnlockEarly, allTargetsMet, bind_eq_ok, and_assoc, exists_eq_left',
    allTargetsMetFrom_eq_ok kept readable, exists_and_left]
  rw [show module.UnlockCondition world.setToken ↔ _ ∧ _ from
    ⟨fun condition => ⟨condition.targets, condition.quote⟩, fun both => ⟨both.1, both.2⟩⟩]
  refine and_congr_right fun _ => ?_
  by_cases met : ∀ component ∈ module.rebalanceInfo.rebalanceComponents,
      ¬module.TargetMissed world.setToken component
  · rw [← isQuoteAssetExcessOrAtTarget_eq_ok kept readable]
    simp only [decide_eq_true met, if_true, bind_eq_ok, pure_eq_ok]
    constructor
    · rintro ⟨_, quote, read, _⟩ _
      exact ⟨quote, read⟩
    · intro reads
      obtain ⟨quote, read⟩ := reads met
      exact ⟨_, quote, read, rfl⟩
  · simp [met]

/-- After the duration only the early-unlock condition has to be read, whatever it says. -/
theorem unlock_of_elapsed {early : Bool} {unlocked : SetToken}
    (elapsed : module.rebalanceInfo.rebalanceStartTime + module.rebalanceInfo.rebalanceDuration ≤
      world.timestamp)
    (timestamp : world.timestamp < 2 ^ 256)
    (decided : module.canUnlockEarly world = .ok early)
    (called : world.setToken.unlock ⟨world.controller, module.address⟩ = .ok unlocked) :
    ∃ next, module.unlock world = .ok (next, { world with setToken := unlocked }) := by
  have finished : module.isRebalanceDurationElapsed world = .ok true := by
    simp only [isRebalanceDurationElapsed, bind_eq_ok, SafeMath.add_eq_ok, pure_eq_ok]
    exact ⟨_, ⟨elapsed.trans_lt timestamp, rfl⟩, decide_eq_true elapsed⟩
  simp only [unlock, World.callSetToken, bind_eq_ok, pure_eq_ok, require_eq_ok, exists_const,
    Prod.mk.injEq]
  exact ⟨_, true, finished, early, decided, Or.inl rfl, _, ⟨_, called, rfl⟩, rfl, rfl⟩

end Checks

end AuctionRebalanceModuleV1

/-! ### What keeps positions readable -/

section Readable

variable {world next : World} {component : Address}

theorem SetToken.Readable.congr {setToken other : SetToken} (readable : setToken.Readable)
    (same : SetToken.SamePositions setToken other) : other.Readable := by
  unfold SetToken.Readable SetToken.defaultPositionVirtualUnit
  rw [same.componentPositions, same.positionMultiplier]
  exact readable

/-- A unit is stored only after its product with the precise unit fits, and what is stored
reads back as at most it. -/
theorem readable_of_editDefaultPosition {setToken edited : SetToken} {call : Call} {newUnit : Nat}
    (kept : PositionBookkeeping setToken) (readable : setToken.Readable)
    (returned : Position.editDefaultPosition call component newUnit setToken = .ok edited) :
    edited.Readable := by
  obtain ⟨_, components, virtualUnit, _, _, _, converted, rfl⟩ :=
    Position.editDefaultPosition_eq_ok returned
  have positive := kept.multiplierPositive
  obtain ⟨fits, rfl, _⟩ := SetToken.convertRealToVirtualUnit_eq_ok positive converted
  intro other
  unfold SetToken.defaultPositionVirtualUnit
  by_cases same : other = component
  · subst same
    rw [SetToken.editComponent_self]
    have product : 0 ≤ (newUnit : Int) * preciseUnit :=
      mul_nonneg (Int.natCast_nonneg _) preciseUnit_int_pos.le
    refine ⟨?_, (Int.ediv_mul_le _ positive.ne').trans_lt fits.2⟩
    exact le_trans (by decide) (mul_nonneg (Int.ediv_nonneg product positive.le) positive.le)
  · rw [SetToken.editComponent_other _ _ _ same]
    exact readable other

theorem bookkeeping_of_calculateAndEdit {module : Address} {supply before : Nat}
    {result : Nat × Nat × Nat} (kept : PositionBookkeeping world.setToken)
    (returned : world.calculateAndEditDefaultPosition module component supply before =
      .ok (next, result)) :
    PositionBookkeeping next.setToken ∧ (world.setToken.Readable → next.setToken.Readable) := by
  obtain ⟨_, edited, _⟩ := World.calculateAndEditDefaultPosition_eq_ok returned
  exact ⟨kept.editDefaultPosition edited, fun readable =>
    readable_of_editDefaultPosition kept readable edited⟩

theorem bookkeeping_of_positions (positions : World.KeepsPositions world next)
    (kept : PositionBookkeeping world.setToken) :
    PositionBookkeeping next.setToken ∧ (world.setToken.Readable → next.setToken.Readable) :=
  ⟨kept.congr positions.samePositions, fun readable => readable.congr positions.samePositions⟩

theorem bookkeeping_of_bid {module : AuctionRebalanceModuleV1} {msgSender : Address}
    {adapters : Adapters} {amount limit : Nat} (kept : PositionBookkeeping world.setToken)
    (returned : module.bid msgSender adapters component amount limit world = .ok next) :
    PositionBookkeeping next.setToken ∧ (world.setToken.Readable → next.setToken.Readable) := by
  obtain ⟨_, _, _, _, trade⟩ := AuctionRebalanceModuleV1.bid_eq_ok returned
  obtain ⟨_, sendEdit⟩ := trade.sendEdit
  obtain ⟨_, receiveEdit⟩ := trade.receiveEdit
  obtain ⟨paidKept, paidReadable⟩ := bookkeeping_of_positions trade.onlyBalances.keepsPositions kept
  obtain ⟨editedKept, editedReadable⟩ := bookkeeping_of_calculateAndEdit paidKept sendEdit
  obtain ⟨nextKept, nextReadable⟩ := bookkeeping_of_calculateAndEdit editedKept receiveEdit
  exact ⟨nextKept, fun readable => nextReadable (editedReadable (paidReadable readable))⟩

/-- An accrual lowers the multiplier, and with it every product. -/
theorem bookkeeping_of_inflate {module : StreamingFeeModule}
    (kept : PositionBookkeeping world.setToken) (returned : module.inflate world = .ok next) :
    PositionBookkeeping next.setToken ∧ (world.setToken.Readable → next.setToken.Readable) := by
  by_cases active : 0 < module.feeStates.streamingFeePercentage
  · obtain ⟨_, below, edited, _⟩ := StreamingFeeModule.inflate_of_active active returned
    have nextKept : PositionBookkeeping next.setToken := by
      refine PositionBookkeeping.editPositionMultiplier ?_ edited
      exact kept.congr ⟨rfl, rfl, rfl⟩
    refine ⟨nextKept, fun readable component => ?_⟩
    have multiplier := nextKept.multiplierPositive
    rw [(SetToken.editPositionMultiplier_eq_ok edited).2.2] at multiplier ⊢
    have unit := (kept.positions component).defaultNonneg
    have lowered : StreamingFeeModule.inflatedMultiplier (module.accruedFee world.timestamp)
        world.setToken.positionMultiplier ≤ world.setToken.positionMultiplier := by
      rw [StreamingFeeModule.inflatedMultiplier_eq kept.multiplierPositive.le]
      refine Int.ediv_le_of_le_mul preciseUnit_int_pos ?_
      refine mul_le_mul_of_nonneg_left ?_ kept.multiplierPositive.le
      exact_mod_cast Nat.sub_le _ _
    refine ⟨le_trans (by decide) (mul_nonneg unit multiplier.le), ?_⟩
    exact (mul_le_mul_of_nonneg_left lowered unit).trans_lt (readable component).2
  · unfold StreamingFeeModule.inflate at returned
    rw [if_neg active, pure_eq_ok] at returned
    exact returned ▸ ⟨kept, id⟩

/-- The positions of a Set can be listed only if each default position can be read. -/
theorem readable_of_getPositions {setToken : SetToken} {positions : List PositionEntry}
    (kept : PositionBookkeeping setToken) (listed : setToken.getPositions = .ok positions) :
    setToken.Readable := by
  intro component
  by_cases opened : 0 < setToken.defaultPositionVirtualUnit component
  · have member : component ∈ setToken.components :=
      (kept.mem_components_iff component).mpr (Or.inl opened)
    simp only [SetToken.getPositions, bind_eq_ok] at listed
    obtain ⟨entries, mapped, _⟩ := listed
    obtain ⟨_, entry, _⟩ := exists_mem_zip (mapM_eq_ok _ _ _ mapped) component member
    simp only [SetToken.componentEntries, SetToken.defaultEntry, if_pos opened, bind_eq_ok,
      SetToken.getDefaultPositionRealUnit_eq_ok] at entry
    obtain ⟨_, ⟨_, ⟨fits, _⟩, _⟩, _⟩ := entry
    exact fits
  · have closed : setToken.defaultPositionVirtualUnit component = 0 :=
      le_antisymm (not_lt.mp opened) (kept.positions component).defaultNonneg
    rw [closed, zero_mul]
    decide

end Readable

/-! ### Runs -/

namespace System

variable {system next : System} {events : List AuctionEvent}

theorem operate_bookkeeping {transaction : Transaction}
    (kept : PositionBookkeeping system.world.setToken)
    (returned : system.operate transaction = .ok next) :
    PositionBookkeeping next.world.setToken ∧
      (system.world.setToken.Readable → next.world.setToken.Readable) := by
  cases operate_impact returned with
  | quiet addresses positions held fee => exact bookkeeping_of_positions positions kept
  | moved addresses only more fee => exact bookkeeping_of_positions only.keepsPositions kept
  | traded addresses adapters component componentAmount quoteAssetLimit bid fee =>
    exact bookkeeping_of_bid kept bid
  | accrued addresses operation accrual =>
    exact bookkeeping_of_inflate kept (StreamingFeeModule.accrueFee_eq_ok accrual).2.2
  | repriced addresses newFee operation inflated => exact bookkeeping_of_inflate kept inflated

/-- The module is added to the Set. -/
def AuctionActive (system : System) : Prop :=
  system.world.setToken.moduleStates system.auction.address = .initialized

/-- The modules are different contracts, the time is a `uint256`, and the module is part of
every Set it has locked. -/
structure LockKept (system : System) : Prop where
  basicIssuance : system.basicIssuance.address ≠ system.auction.address
  streamingFee : system.streamingFee.address ≠ system.auction.address
  timestamp : system.world.timestamp < 2 ^ 256
  active : system.world.setToken.isLocked = true →
    system.world.setToken.locker = system.auction.address → system.AuctionActive

/-- Nothing of the lock or of the module's state changes. -/
theorem LockKept.carry (kept : LockKept system) (addresses : SameAddresses system next)
    (timestamp : next.world.timestamp < 2 ^ 256)
    (isLocked : next.world.setToken.isLocked = system.world.setToken.isLocked)
    (locker : next.world.setToken.locker = system.world.setToken.locker)
    (states : next.world.setToken.moduleStates system.auction.address =
      system.world.setToken.moduleStates system.auction.address) : LockKept next := by
  refine ⟨?_, ?_, timestamp, ?_⟩
  · rw [addresses.basicIssuance, addresses.auction]
    exact kept.basicIssuance
  · rw [addresses.streamingFee, addresses.auction]
    exact kept.streamingFee
  · unfold AuctionActive
    rw [isLocked, locker, addresses.auction, states]
    exact kept.active

/-- The Set is not locked, or the module is active. -/
theorem LockKept.settled (kept : LockKept system) (addresses : SameAddresses system next)
    (timestamp : next.world.timestamp < 2 ^ 256)
    (settled : next.world.setToken.isLocked = false ∨ next.AuctionActive) : LockKept next := by
  refine ⟨?_, ?_, timestamp, fun locked _ => ?_⟩
  · rw [addresses.basicIssuance, addresses.auction]
    exact kept.basicIssuance
  · rw [addresses.streamingFee, addresses.auction]
    exact kept.streamingFee
  · rcases settled with unlocked | active
    · exact absurd (locked.symm.trans unlocked) Bool.noConfusion
    · exact active

theorem LockKept.effect (kept : LockKept system) (addresses : SameAddresses system next)
    (effect : Effect system events next) : LockKept next := by
  cases effect with
  | quiet control auction =>
    exact kept.carry addresses (control.timestamp ▸ kept.timestamp) control.isLocked
      control.locker (congrFun control.moduleStates _)
  | waited seconds fits advanced =>
    subst advanced
    exact kept.carry addresses fits rfl rfl rfl
  | governed controller replaced =>
    subst replaced
    exact kept.carry addresses kept.timestamp rfl rfl rfl
  | managed manager replaced =>
    subst replaced
    exact kept.carry addresses kept.timestamp rfl rfl rfl
  | lifecycle module state control auction other foreign =>
    have timestamp : next.world.timestamp < 2 ^ 256 := control.timestamp ▸ kept.timestamp
    by_cases same : system.auction.address = module
    · refine ⟨addresses.basicIssuance ▸ addresses.auction ▸ kept.basicIssuance,
        addresses.streamingFee ▸ addresses.auction ▸ kept.streamingFee, timestamp, ?_⟩
      intro locked locker
      rw [control.isLocked] at locked
      rw [control.locker, addresses.auction] at locker
      subst same
      exact absurd (kept.active locked locker) (other rfl)
    · refine kept.carry addresses timestamp control.isLocked control.locker ?_
      rw [control.moduleStates]
      exact Function.update_of_ne same _ _
  | removed unlocked control auction =>
    exact kept.settled addresses (control.timestamp ▸ kept.timestamp)
      (Or.inl (control.isLocked.trans unlocked))
  | initialized positions read unlocked pending control auction =>
    exact kept.settled addresses (control.timestamp ▸ kept.timestamp)
      (Or.inl (control.isLocked.trans unlocked))
  | started params active locking nodup lengths auction =>
    rcases AuctionRebalanceModuleV1.lockSetToken_eq_ok locking with stored | ⟨_, _, _, stored⟩
    · rw [stored] at locking
      exact kept.carry addresses (stored ▸ kept.timestamp) (by rw [stored]) (by rw [stored])
        (by rw [stored])
    · refine kept.settled addresses (stored ▸ kept.timestamp) (Or.inr ?_)
      unfold AuctionActive
      rw [addresses.auction, stored]
      exact active
  | tuned permissionInfo positionMultiplier raiseTargetPercentage changed =>
    subst changed
    exact kept.carry addresses kept.timestamp rfl rfl rfl
  | unlocked world auction =>
    exact kept.settled addresses (world ▸ kept.timestamp) (Or.inl (by rw [world]))
  | unlockedEarly world auction =>
    exact kept.settled addresses (world ▸ kept.timestamp) (Or.inl (by rw [world]))

/-- The module is active after a transaction only if it was before, or if the positions were
just listed to add it. -/
theorem LockKept.active_before (kept : LockKept system) (addresses : SameAddresses system next)
    (effect : Effect system events next) (active : next.AuctionActive) :
    system.AuctionActive ∨ ∃ positions, system.world.setToken.getPositions = .ok positions := by
  unfold AuctionActive at active ⊢
  rw [addresses.auction] at active
  cases effect with
  | quiet control auction => exact Or.inl (control.moduleStates ▸ active)
  | waited seconds fits advanced =>
    rw [advanced] at active
    exact Or.inl active
  | governed controller replaced =>
    rw [replaced] at active
    exact Or.inl active
  | managed manager replaced =>
    rw [replaced] at active
    exact Or.inl active
  | lifecycle module state control auction other foreign =>
    rw [control.moduleStates] at active
    by_cases same : system.auction.address = module
    · subst same
      have initialized : state = .initialized := (Function.update_self _ _ _).symm.trans active
      rcases foreign initialized with basic | fee
      · exact absurd basic.symm kept.basicIssuance
      · exact absurd fee.symm kept.streamingFee
    · exact Or.inl ((Function.update_of_ne same _ _).symm.trans active)
  | removed unlocked control auction =>
    rw [control.moduleStates] at active
    exact absurd ((Function.update_self _ _ _).symm.trans active) (by decide)
  | initialized positions read unlocked pending control auction => exact Or.inr ⟨positions, read⟩
  | started params before locking nodup lengths auction => exact Or.inl before
  | tuned permissionInfo positionMultiplier raiseTargetPercentage changed =>
    rw [changed] at active
    exact Or.inl active
  | unlocked world auction =>
    rw [world] at active
    exact Or.inl active
  | unlockedEarly world auction =>
    rw [world] at active
    exact Or.inl active

/-- What holds in every state reached: the bookkeeping is in order, a Set that the module has
locked has the module, and the positions of a Set that has the module can be read. -/
structure Unlockable (system : System) : Prop where
  bookkeeping : PositionBookkeeping system.world.setToken
  lock : LockKept system
  readable : system.AuctionActive → system.world.setToken.Readable

theorem Unlockable.operate {transaction : Transaction} (kept : Unlockable system)
    (returned : system.operate transaction = .ok next) : Unlockable next := by
  have effect := operate_effect returned
  have addresses := (operate_impact returned).addresses
  obtain ⟨bookkeeping, readable⟩ := operate_bookkeeping kept.bookkeeping returned
  refine ⟨bookkeeping, kept.lock.effect addresses effect, fun active => readable ?_⟩
  rcases kept.lock.active_before addresses effect active with before | ⟨positions, listed⟩
  · exact kept.readable before
  · exact readable_of_getPositions kept.bookkeeping listed

/-- A change of the ERC20 part of the Set alone. -/
theorem Unlockable.of_token (kept : Unlockable system) {world : World} (token : ERC20)
    (timestamp : world.timestamp = system.world.timestamp)
    (stored : world.setToken = { system.world.setToken with toERC20 := token }) :
    Unlockable { system with world := world } := by
  have states : world.setToken.moduleStates = system.world.setToken.moduleStates := by rw [stored]
  refine ⟨?_, kept.lock.carry ⟨rfl, rfl, rfl⟩ (timestamp ▸ kept.lock.timestamp) ?_ ?_ ?_, ?_⟩
  · rw [stored]
    exact kept.bookkeeping.congr ⟨rfl, rfl, rfl⟩
  · rw [stored]
  · rw [stored]
  · rw [states]
  · intro active
    unfold AuctionActive at active
    rw [states] at active
    rw [stored]
    exact (kept.readable active).congr ⟨rfl, rfl, rfl⟩

theorem Unlockable.completeIssue (kept : Unlockable system) {msgSender recipient : Address}
    {quantity : Nat} {world : World}
    (returned : system.basicIssuance.completeIssue msgSender quantity recipient system.world =
      .ok world) : Unlockable { system with world := world } := by
  obtain ⟨collected, only, _, minting, stored⟩ := BasicIssuanceModule.completeIssue_eq_ok returned
  obtain ⟨_, written⟩ := SetToken.mint_eq_ok minting
  obtain ⟨_, _, moved⟩ := only.setToken
  refine kept.of_token world.setToken.toERC20 ?_ ?_
  · rw [stored]
    exact only.timestamp
  · rw [written, moved]

theorem Unlockable.redeem (kept : Unlockable system) {msgSender recipient : Address}
    {quantity : Nat} {world : World}
    (returned : system.basicIssuance.redeem msgSender quantity recipient system.world =
      .ok world) : Unlockable { system with world := world } := by
  obtain ⟨burned, burning, stored, only, _⟩ :=
    BasicIssuanceModule.redeem_eq_ok kept.bookkeeping.components.nodup returned
  obtain ⟨_, _, written⟩ := SetToken.burn_eq_ok burning
  obtain ⟨_, _, moved⟩ := only.setToken
  refine kept.of_token world.setToken.toERC20 ?_ ?_
  · rw [only.timestamp, stored]
  · rw [moved, written]

theorem run_unlockable (start : System) (actions : List Action) (kept : Unlockable start) :
    Unlockable (run step start actions) := by
  refine run_invariant step Unlockable (Action.Sends (fun _ => True) fun _ => True) ?_ actions
    ?_ start kept
  · refine step_invariant _ _ _ ?_ ?_ ?_
    · exact fun state transaction next _ before returned => before.operate returned
    · exact fun state msgSender quantity recipient world before => before.completeIssue
    · exact fun state msgSender quantity recipient world _ before => before.redeem
  · intro action _
    cases action <;> simp [Action.Sends]

/-- Where a run may start: a Set with its bookkeeping in order, as the factory creates it, that
is not locked and does not have the module yet. -/
structure BeforeAuction (system : System) : Prop where
  bookkeeping : PositionBookkeeping system.world.setToken
  basicIssuance : system.basicIssuance.address ≠ system.auction.address
  streamingFee : system.streamingFee.address ≠ system.auction.address
  timestamp : system.world.timestamp < 2 ^ 256
  unlocked : system.world.setToken.isLocked = false
  inactive : ¬system.AuctionActive

theorem BeforeAuction.unlockable (before : BeforeAuction system) : Unlockable system where
  bookkeeping := before.bookkeeping
  lock :=
    { basicIssuance := before.basicIssuance
      streamingFee := before.streamingFee
      timestamp := before.timestamp
      active := fun locked _ => absurd (locked.symm.trans before.unlocked) Bool.noConfusion }
  readable := fun active => absurd active before.inactive

/-- A locked Set whose duration has elapsed is unlocked by a call of anyone exactly when the
module is still enabled and every target that the call reads can be read. -/
theorem Unlockable.unlock_iff (kept : Unlockable system) (msgSender : Address)
    (locked : system.world.setToken.isLocked = true)
    (locker : system.world.setToken.locker = system.auction.address)
    (elapsed : system.auction.rebalanceInfo.rebalanceStartTime +
      system.auction.rebalanceInfo.rebalanceDuration ≤ system.world.timestamp) :
    (∃ next, system.operate ⟨msgSender, .unlock⟩ = .ok next ∧
        next.world.setToken.isLocked = false) ↔
      system.world.controller.isModule system.auction.address = true ∧
        system.auction.UnlockCondition system.world.setToken := by
  have active := kept.lock.active locked locker
  rw [← AuctionRebalanceModuleV1.canUnlockEarly_eq_ok kept.bookkeeping (kept.readable active)]
  constructor
  · rintro ⟨next, returned, _⟩
    simp only [System.operate] at returned
    obtain ⟨_, _, called, _⟩ := onAuctionAndWorld_eq_ok returned
    simp only [AuctionRebalanceModuleV1.unlock, bind_eq_ok, pure_eq_ok, Prod.mk.injEq] at called
    obtain ⟨_, _, early, decided, _, _, _, unlocking, _⟩ := called
    obtain ⟨unlocked, _⟩ := World.callSetToken_eq_ok unlocking
    exact ⟨(SetToken.unlock_eq_ok.mp unlocked).1.2, early, decided⟩
  · rintro ⟨enabled, early, decided⟩
    have unlocked : system.world.setToken.unlock ⟨system.world.controller, system.auction.address⟩ =
        .ok { system.world.setToken with locker := 0, isLocked := false } :=
      SetToken.unlock_eq_ok.mpr ⟨⟨active, enabled⟩, locked, locker, rfl⟩
    obtain ⟨auction, called⟩ := AuctionRebalanceModuleV1.unlock_of_elapsed elapsed
      kept.lock.timestamp decided unlocked
    refine ⟨{ system with
      auction := auction
      world := { system.world with
        setToken := { system.world.setToken with locker := 0, isLocked := false } } }, ?_, rfl⟩
    simp only [System.operate, onAuctionAndWorld, bind_eq_ok, pure_eq_ok, Prod.exists]
    exact ⟨_, _, called, rfl⟩

/-- In every state reached in which the module has locked the Set and the duration has
elapsed, a call of anyone unlocks it exactly when the module is still enabled and every target
that the call reads can be read. -/
theorem unlock_iff_unlockCondition (start : System) (actions : List Action)
    (before : BeforeAuction start) (msgSender : Address) :
    let reached := run step start actions
    reached.world.setToken.isLocked = true →
    reached.world.setToken.locker = reached.auction.address →
    reached.auction.rebalanceInfo.rebalanceStartTime +
      reached.auction.rebalanceInfo.rebalanceDuration ≤ reached.world.timestamp →
    ((∃ next, reached.operate ⟨msgSender, .unlock⟩ = .ok next ∧
        next.world.setToken.isLocked = false) ↔
      reached.world.controller.isModule reached.auction.address = true ∧
        reached.auction.UnlockCondition reached.world.setToken) := by
  intro reached locked locker elapsed
  exact (run_unlockable start actions before.unlockable).unlock_iff msgSender locked locker elapsed

/-- The sample's Set is built by the factory, apart from its supply. -/
theorem sample_beforeAuction : BeforeAuction sample := by
  have created : SetTokenCreator.create 1 2 [3] [10 ^ 18] [10, 11, 12] 5
      { sample.world.controller with
        isFactory := fun account => account = 1, isSet := fun _ => false } = .ok (_, _) := rfl
  refine ⟨(PositionBookkeeping.create created).congr ⟨rfl, rfl, rfl⟩, ?_, ?_, ?_, rfl, ?_⟩
  · decide
  · decide
  · decide
  · unfold AuctionActive
    decide

/-- Start a locked auction that leaves token 3 at the given target, and let it elapse. -/
def lockedAuction (targetUnit : Nat) : List Action :=
  [.transact ⟨5, .initializeAuction⟩,
    .transact ⟨5, .startRebalance sampleAdapters
      { quoteAsset := 4, newComponents := [], newComponentsAuctionParams := []
        oldComponentsAuctionParams := [sampleParams targetUnit]
        shouldLockSetToken := true, rebalanceDuration := 100
        initialPositionMultiplier := 10 ^ 18 }⟩,
    .transact ⟨7, .wait 100⟩]

theorem unlock_iff_unlockCondition_sample :
    ∃ next, (run step sample (lockedAuction (5 * 10 ^ 17))).operate ⟨7, .unlock⟩ = .ok next ∧
      next.world.setToken.isLocked = false := by
  have missed : (run step sample (lockedAuction (5 * 10 ^ 17))).auction.TargetMissed
      (run step sample (lockedAuction (5 * 10 ^ 17))).world.setToken 3 := by
    decide
  refine (unlock_iff_unlockCondition sample (lockedAuction (5 * 10 ^ 17)) sample_beforeAuction 7
    (by decide) (by decide) (by decide)).mpr ⟨by decide, ?_, fun met => ?_⟩
  · refine AuctionRebalanceModuleV1.readsTargets_cons.mpr ⟨Or.inr ⟨by decide, by decide⟩, ?_⟩
    exact fun met => absurd missed met
  · exact absurd missed (met 3 (List.mem_singleton.mpr rfl))

/-- A Set at its targets whose quote asset has no target and no unit stays locked after its
auction. -/
theorem locked_after_auction :
    ¬∀ (start : System) (actions : List Action) (msgSender : Address), BeforeAuction start →
      (∀ action ∈ actions, ∀ sender adapters params,
        action = .transact ⟨sender, .startRebalance adapters params⟩ →
          0 < params.initialPositionMultiplier) →
      (∀ action ∈ actions, ∀ sender controller,
        action ≠ .transact ⟨sender, .govern controller⟩) →
      start.world.controller.isModule start.auction.address = true →
      let reached := run step start actions
      reached.world.setToken.isLocked = true →
      reached.world.setToken.locker = reached.auction.address →
      reached.auction.rebalanceInfo.rebalanceStartTime +
        reached.auction.rebalanceInfo.rebalanceDuration ≤ reached.world.timestamp →
      ∃ next, reached.operate ⟨msgSender, .unlock⟩ = .ok next ∧
        next.world.setToken.isLocked = false := by
  intro claim
  have reverts : returns ((run step sample (lockedAuction (10 ^ 18))).operate ⟨7, .unlock⟩)
      (fun _ => true) = false := by
    decide
  obtain ⟨next, returned, _⟩ := claim sample (lockedAuction (10 ^ 18)) 7 sample_beforeAuction
    (by simp [lockedAuction]) (by simp [lockedAuction]) (by decide) (by decide) (by decide)
    (by decide)
  rw [returned] at reverts
  exact absurd reverts Bool.noConfusion

end System

end IndexProtocol

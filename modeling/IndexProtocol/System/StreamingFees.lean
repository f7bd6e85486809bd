/-
This file proves what accruing the streaming fee does to the holders of a Set.
The supply grows by the fee rounded down and the multiplier shrinks by it, so
however often the fee is accrued, holders lose at most the stated rate. But each
real unit is the floor of its product with the multiplier, and a unit that was
rounded down before the accrual may not shrink when the supply grows: the Set
stays covered exactly when each stored unit is below a bound, which it is
whenever the balance covers the unit without rounding.
-/

import IndexProtocol.Library.Fund
import IndexProtocol.System.Impact

namespace IndexProtocol

open Revert

namespace StreamingFeeModule

variable {module next : StreamingFeeModule} {world after : World}

/-! ### Collateralization -/

/-- The supply after an accrual. -/
def inflatedSupply (module : StreamingFeeModule) (world : World) : Nat :=
  world.setToken.totalSupply +
    feeInflation (module.accruedFee world.timestamp) world.setToken.totalSupply

/-- What the Set holds after an accrual: of its own token it may receive the fee. -/
def heldAfterFee (module : StreamingFeeModule) (world : World) (component : Address) : Nat :=
  if component = world.setToken.address then
    module.feeBalances
      (feeInflation (module.accruedFee world.timestamp) world.setToken.totalSupply) world
      world.setToken.address
  else world.held component

/-- The stored unit of a component is below the bound that the balance and the fee set. -/
def UnitBelowBound (module : StreamingFeeModule) (world : World) (component : Address) : Prop :=
  module.inflatedSupply world = 0 ∨
    world.setToken.defaultPositionVirtualUnit component *
        inflatedMultiplier (module.accruedFee world.timestamp) world.setToken.positionMultiplier <
      ((module.heldAfterFee world component : Int) * preciseUnit /
        module.inflatedSupply world + 1) * preciseUnit

theorem held_of_accrueFee (returned : module.inflate world = .ok after) (component : Address) :
    after.held component = module.heldAfterFee world component := by
  rw [(inflate_eq_ok returned).2]
  unfold heldAfterFee World.held World.balanceOf World.token
  by_cases self : component = world.setToken.address
  · simp only [if_pos self]
  · simp only [if_neg self]

/-- A floor times a supply stays below a balance exactly when what is rounded stays below the
next multiple of the quotient. -/
theorem covers_floor_iff {supply value balance scale : Int} (supplyPositive : 0 < supply)
    (scalePositive : 0 < scale) :
    supply * (value / scale) ≤ balance * scale ↔
      value < (balance * scale / supply + 1) * scale := by
  rw [mul_comm, ← Int.le_ediv_iff_mul_le supplyPositive, ← Int.lt_add_one_iff,
    Int.ediv_lt_iff_lt_mul scalePositive]

/-- A balance that covers the unrounded unit bounds the stored unit, whatever the fee. -/
theorem unitBelowBound_of_exact {component : Address}
    (below : module.accruedFee world.timestamp < preciseUnit)
    (multiplier : 0 ≤ world.setToken.positionMultiplier)
    (unit : 0 ≤ world.setToken.defaultPositionVirtualUnit component)
    (covered : (world.setToken.totalSupply : Int) *
        (world.setToken.defaultPositionVirtualUnit component *
          world.setToken.positionMultiplier) ≤
      module.heldAfterFee world component * (preciseUnit * preciseUnit)) :
    module.UnitBelowBound world component := by
  rcases Nat.eq_zero_or_pos (module.inflatedSupply world) with zero | some
  · exact Or.inl zero
  refine Or.inr ((covers_floor_iff (by exact_mod_cast some) preciseUnit_int_pos).mp ?_)
  have inflation : (module.inflatedSupply world : Int) *
      ((preciseUnit - module.accruedFee world.timestamp : Nat) : Int) ≤
        (world.setToken.totalSupply : Int) * preciseUnit := by
    exact_mod_cast Rounding.inflated_mul_le preciseUnit (module.accruedFee world.timestamp)
      world.setToken.totalSupply below.le
  have reduction : world.setToken.defaultPositionVirtualUnit component *
        inflatedMultiplier (module.accruedFee world.timestamp)
          world.setToken.positionMultiplier * preciseUnit ≤
      world.setToken.defaultPositionVirtualUnit component *
        world.setToken.positionMultiplier *
          ((preciseUnit - module.accruedFee world.timestamp : Nat) : Int) := by
    rw [inflatedMultiplier_eq multiplier, mul_assoc, mul_assoc]
    exact mul_le_mul_of_nonneg_left (Int.ediv_mul_le _ preciseUnit_int_pos.ne') unit
  have diluted := Covers.dilute covered
    preciseUnit_int_pos (mul_nonneg unit multiplier) (Int.natCast_nonneg _) inflation reduction
  unfold Covers at diluted
  refine le_of_mul_le_mul_right ?_ preciseUnit_int_pos
  calc (module.inflatedSupply world : Int) *
        (world.setToken.defaultPositionVirtualUnit component *
          inflatedMultiplier (module.accruedFee world.timestamp)
            world.setToken.positionMultiplier / preciseUnit) * preciseUnit
      ≤ (module.inflatedSupply world : Int) *
        (world.setToken.defaultPositionVirtualUnit component *
          inflatedMultiplier (module.accruedFee world.timestamp)
            world.setToken.positionMultiplier) := by
        rw [mul_assoc]
        exact mul_le_mul_of_nonneg_left (Int.ediv_mul_le _ preciseUnit_int_pos.ne')
          (Int.natCast_nonneg _)
    _ ≤ module.heldAfterFee world component * (preciseUnit * preciseUnit) := diluted
    _ = module.heldAfterFee world component * preciseUnit * preciseUnit := by ring

/-- After a successful accrual the Set holds enough of every component exactly when every
stored unit is below its bound; and it is if the balances cover the unrounded units. -/
theorem accrueFee_covers_iff (returned : module.accrueFee world = .ok (next, after)) :
    ((∀ component ∈ after.setToken.components,
        (after.setToken.totalSupply : Int) * after.setToken.defaultRealUnit component ≤
          after.held component * preciseUnit) ↔
      ∀ component ∈ world.setToken.components, module.UnitBelowBound world component) ∧
    (0 ≤ world.setToken.positionMultiplier →
      (∀ component ∈ world.setToken.components,
        0 ≤ world.setToken.defaultPositionVirtualUnit component ∧
          (world.setToken.totalSupply : Int) *
              (world.setToken.defaultPositionVirtualUnit component *
                world.setToken.positionMultiplier) ≤
            world.held component * (preciseUnit * preciseUnit)) →
      ∀ component ∈ world.setToken.components, module.UnitBelowBound world component) := by
  obtain ⟨_, _, inflated⟩ := accrueFee_eq_ok returned
  obtain ⟨below, stored⟩ := inflate_eq_ok inflated
  have held := held_of_accrueFee inflated
  have components : after.setToken.components = world.setToken.components := by rw [stored]
  have supply : after.setToken.totalSupply = module.inflatedSupply world := by
    rw [stored]
    rfl
  have unit : ∀ component, after.setToken.defaultRealUnit component =
      world.setToken.defaultPositionVirtualUnit component *
        inflatedMultiplier (module.accruedFee world.timestamp)
          world.setToken.positionMultiplier / preciseUnit := by
    intro component
    rw [stored]
    rfl
  have more : ∀ component, world.held component ≤ module.heldAfterFee world component := by
    intro component
    unfold heldAfterFee
    split
    · rename_i self
      unfold World.held World.balanceOf World.token
      rw [if_pos self]
      unfold feeBalances
      exact (ERC20.le_credited _ _ _ _).trans (ERC20.le_credited _ _ _ _)
    · exact le_rfl
  refine ⟨?_, fun multiplier covered component member => ?_⟩
  · rw [components]
    refine forall₂_congr fun component _ => ?_
    rw [supply, unit, held]
    rcases Nat.eq_zero_or_pos (module.inflatedSupply world) with zero | some
    · refine iff_of_true ?_ (Or.inl zero)
      rw [zero, Nat.cast_zero, zero_mul]
      exact mul_nonneg (Int.natCast_nonneg _) preciseUnit_int_pos.le
    · rw [covers_floor_iff (by exact_mod_cast some) preciseUnit_int_pos]
      exact (or_iff_right some.ne').symm
  · obtain ⟨nonneg, exact⟩ := covered component member
    refine unitBelowBound_of_exact below multiplier nonneg (exact.trans ?_)
    refine mul_le_mul_of_nonneg_right ?_ (mul_nonneg preciseUnit_int_pos.le preciseUnit_int_pos.le)
    exact_mod_cast more component

/-- A Set of supply one whose component 3 has a stored unit of three, a real unit of one and a
balance of one, a year after the last accrual of a fee of one percent. -/
def sampleFeeWorld : World :=
  { System.sample.world with
    timestamp := 1000 + oneYearInSeconds
    setToken :=
      { SetToken.construct 2 [3] [3] [10, 11, 12] 5 with
        totalSupply := 10 ^ 18
        moduleStates := fun _ => .initialized
        positionMultiplier := 5 * 10 ^ 17 }
    tokens := fun _ =>
      { totalSupply := 10 ^ 18, balanceOf := fun _ => 1, allowance := fun _ _ => 0 } }

def sampleFee : StreamingFeeModule where
  address := 12
  feeStates :=
    { feeRecipient := 6, maxStreamingFeePercentage := 10 ^ 17, streamingFeePercentage := 10 ^ 16,
      lastStreamingFeeTimestamp := 1000 }

theorem accrueFee_covers_iff_sample :
    ∃ next after, sampleFee.accrueFee sampleFeeWorld = .ok (next, after) ∧
      ¬∀ component ∈ after.setToken.components,
        (after.setToken.totalSupply : Int) * after.setToken.defaultRealUnit component ≤
          after.held component * preciseUnit := by
  have returned : returns (sampleFee.accrueFee sampleFeeWorld) (fun _ => true) = true := by decide
  obtain ⟨⟨next, after⟩, accrued, _⟩ := exists_of_returns returned
  refine ⟨next, after, accrued, fun covered => ?_⟩
  have bounded := (accrueFee_covers_iff accrued).1.mp covered 3 (List.mem_singleton.mpr rfl)
  unfold UnitBelowBound at bounded
  exact absurd bounded (by decide)

/-- An accrual does not keep every covered Set covered. -/
theorem uncovered_after_accrueFee :
    ¬∀ (module next : StreamingFeeModule) (world after : World),
      0 < world.setToken.positionMultiplier →
      (∀ component, world.setToken.externalPositionModules component = []) →
      (∀ component ∈ world.setToken.components,
        (world.setToken.totalSupply : Int) * world.setToken.defaultRealUnit component ≤
          world.held component * preciseUnit) →
      module.accrueFee world = .ok (next, after) →
      ∀ component ∈ after.setToken.components,
        (after.setToken.totalSupply : Int) * after.setToken.defaultRealUnit component ≤
          after.held component * preciseUnit := by
  intro claim
  have returned : returns (sampleFee.accrueFee sampleFeeWorld) (fun result =>
      decide (3 ∈ result.2.setToken.components) &&
        decide ((result.2.held 3 : Int) * preciseUnit <
          result.2.setToken.totalSupply * result.2.setToken.defaultRealUnit 3)) = true := by
    decide
  obtain ⟨⟨next, after⟩, accrued, uncovered⟩ := exists_of_returns returned
  rw [Bool.and_eq_true, decide_eq_true_eq, decide_eq_true_eq] at uncovered
  refine absurd (claim sampleFee next sampleFeeWorld after (by decide) (fun component => ?_)
    (fun component member => ?_) accrued 3 uncovered.1) (not_le.mpr uncovered.2)
  · by_cases listed : component = 3
    · subst listed
      rfl
    · show (Function.update SetToken.emptyPositions 3 _ component).externalPositionModules = []
      rw [Function.update_of_ne listed]
      rfl
  · obtain rfl := List.mem_singleton.mp member
    decide

end StreamingFeeModule

/-! ### Holders -/

namespace System

variable {system next : System}

/-- Every such transaction but an accrual leaves the supply, the fee and the time of the last
accrual alone. -/
theorem operate_fee {transaction : Transaction} (keeps : transaction.KeepsFee)
    (returned : system.operate transaction = .ok next) :
    (next.world.setToken.totalSupply = system.world.setToken.totalSupply ∧ SameFee system next) ∨
      system.streamingFee.accrueFee system.world = .ok (next.streamingFee, next.world) := by
  cases operate_impact returned with
  | quiet addresses positions held fee => exact Or.inl ⟨positions.totalSupply, fee keeps⟩
  | moved addresses only more fee => exact Or.inl ⟨only.totalSupply, fee⟩
  | traded addresses adapters component componentAmount quoteAssetLimit bid fee =>
    exact Or.inl ⟨AuctionRebalanceModuleV1.bid_totalSupply bid, fee⟩
  | accrued addresses operation accrual => exact Or.inr accrual
  | repriced addresses newFee operation =>
    unfold Transaction.KeepsFee at keeps
    rw [operation] at keeps
    exact keeps.elim

/-- What a run has done to the holders: the fee is the same, and the supply has grown at most
by the fee for the whole time. -/
structure HoldersKept (start reached : System) : Prop where
  fee : reached.streamingFee.feeStates.streamingFeePercentage =
    start.streamingFee.feeStates.streamingFeePercentage
  ordered : 0 < start.streamingFee.feeStates.streamingFeePercentage →
    start.streamingFee.feeStates.lastStreamingFeeTimestamp ≤
      reached.streamingFee.feeStates.lastStreamingFeeTimestamp
  supply : (reached.world.setToken.totalSupply : Int) * (preciseUnit -
      start.streamingFee.accruedFee reached.streamingFee.feeStates.lastStreamingFeeTimestamp) ≤
    start.world.setToken.totalSupply * preciseUnit

/-- The fees of two periods are at most the fee of both together. -/
theorem accruedFee_add_le {start reached : System} (kept : HoldersKept start reached)
    (timestamp : Nat) (active : 0 < start.streamingFee.feeStates.streamingFeePercentage)
    (later : reached.streamingFee.feeStates.lastStreamingFeeTimestamp ≤ timestamp) :
    start.streamingFee.accruedFee reached.streamingFee.feeStates.lastStreamingFeeTimestamp +
        reached.streamingFee.accruedFee timestamp ≤
      start.streamingFee.accruedFee timestamp := by
  have before := kept.ordered active
  unfold StreamingFeeModule.accruedFee
  rw [kept.fee]
  refine Nat.div_add_div_le_add_div.trans (Nat.div_le_div_right ?_)
  rw [← Nat.add_mul]
  exact Nat.mul_le_mul_right _ (by omega)

theorem HoldersKept.accrueFee {start reached next : System} (kept : HoldersKept start reached)
    (accrued : reached.streamingFee.accrueFee reached.world =
      .ok (next.streamingFee, next.world)) : HoldersKept start next := by
  obtain ⟨fees, _, inflated⟩ := StreamingFeeModule.accrueFee_eq_ok accrued
  obtain ⟨below, stored⟩ := StreamingFeeModule.inflate_eq_ok inflated
  have last : next.streamingFee.feeStates.lastStreamingFeeTimestamp =
      reached.world.timestamp := by rw [fees]
  have supply : next.world.setToken.totalSupply =
      reached.streamingFee.inflatedSupply reached.world := by
    rw [stored]
    rfl
  have inflation : (next.world.setToken.totalSupply : Int) * (preciseUnit -
      reached.streamingFee.accruedFee reached.world.timestamp) ≤
        reached.world.setToken.totalSupply * preciseUnit := by
    have bound := Rounding.inflated_mul_le preciseUnit
      (reached.streamingFee.accruedFee reached.world.timestamp)
      reached.world.setToken.totalSupply below.le
    rw [supply, ← Nat.cast_sub below.le]
    exact_mod_cast bound
  refine ⟨?_, ?_, ?_⟩
  · rw [fees]
    exact kept.fee
  · intro active
    rw [last]
    rw [← kept.fee] at active
    exact (kept.ordered (kept.fee ▸ active)).trans
      (StreamingFeeModule.inflate_of_active active inflated).1
  · rw [last]
    have compounded := Rounding.compound_le preciseUnit_int_pos (Int.natCast_nonneg _)
      (Int.natCast_nonneg _) (Int.natCast_nonneg _) (Int.natCast_nonneg _) kept.supply inflation
    rcases Nat.eq_zero_or_pos start.streamingFee.feeStates.streamingFeePercentage with none | some
    · rw [StreamingFeeModule.accruedFee_of_inactive none,
        StreamingFeeModule.accruedFee_of_inactive (kept.fee.trans none)] at compounded
      rw [StreamingFeeModule.accruedFee_of_inactive none]
      simpa using compounded
    · have later := (StreamingFeeModule.inflate_of_active (kept.fee.symm ▸ some) inflated).1
      have sum := accruedFee_add_le kept reached.world.timestamp some later
      refine le_trans (mul_le_mul_of_nonneg_left ?_ (Int.natCast_nonneg _)) compounded
      have cast := Int.ofNat_le.mpr sum
      push_cast at cast
      linarith

/-- However often the fee is accrued, the supply grows at most by the fee for the whole time:
holders keep the rest of the Set. -/
theorem supply_after_accruals (start : System) (transactions : List Transaction)
    (keeps : ∀ transaction ∈ transactions, transaction.KeepsFee) :
    let reached := run operate start transactions
    let elapsed := reached.streamingFee.feeStates.lastStreamingFeeTimestamp -
      start.streamingFee.feeStates.lastStreamingFeeTimestamp
    let fee := elapsed * start.streamingFee.feeStates.streamingFeePercentage /
      StreamingFeeModule.oneYearInSeconds
    fee < preciseUnit → reached.world.setToken.totalSupply * (preciseUnit - fee) ≤
      start.world.setToken.totalSupply * preciseUnit := by
  intro reached elapsed fee below
  have kept : HoldersKept start reached := by
    refine run_invariant operate (HoldersKept start) Transaction.KeepsFee ?_ transactions keeps
      start ⟨rfl, fun _ => le_rfl, ?_⟩
    · intro state transaction next allowed kept returned
      obtain ⟨supply, percentage, last⟩ | accrued := operate_fee allowed returned
      · refine ⟨percentage.trans kept.fee, ?_, ?_⟩
        · rw [last]
          exact kept.ordered
        · rw [last, supply]
          exact kept.supply
      · exact kept.accrueFee accrued
    · simp [StreamingFeeModule.accruedFee]
  have bound := kept.supply
  rw [show (preciseUnit : Int) - start.streamingFee.accruedFee
    reached.streamingFee.feeStates.lastStreamingFeeTimestamp = ((preciseUnit - fee : Nat) : Int)
    from (Nat.cast_sub below.le).symm] at bound
  exact_mod_cast bound

def sampleFeeSystem : System :=
  { sample with
    world := StreamingFeeModule.sampleFeeWorld, streamingFee := StreamingFeeModule.sampleFee }

/-- Two accruals of a fee of one percent, each a year after the one before. -/
def sampleAccruals : List Transaction :=
  [⟨7, .accrueFee⟩, ⟨7, .wait StreamingFeeModule.oneYearInSeconds⟩, ⟨7, .accrueFee⟩]

theorem supply_after_accruals_sample :
    sampleFeeSystem.world.setToken.totalSupply <
        (run operate sampleFeeSystem sampleAccruals).world.setToken.totalSupply ∧
      (run operate sampleFeeSystem sampleAccruals).world.setToken.totalSupply *
          (preciseUnit - 2 * 10 ^ 16) ≤
        sampleFeeSystem.world.setToken.totalSupply * preciseUnit := by
  have keeps : ∀ transaction ∈ sampleAccruals, transaction.KeepsFee := by
    simp [sampleAccruals, Transaction.KeepsFee]
  have fee : ((run operate sampleFeeSystem
        sampleAccruals).streamingFee.feeStates.lastStreamingFeeTimestamp -
      sampleFeeSystem.streamingFee.feeStates.lastStreamingFeeTimestamp) *
        sampleFeeSystem.streamingFee.feeStates.streamingFeePercentage /
      StreamingFeeModule.oneYearInSeconds = 2 * 10 ^ 16 := by
    decide
  refine ⟨by decide, ?_⟩
  rw [← fee]
  exact supply_after_accruals sampleFeeSystem sampleAccruals keeps (by decide)

end System

end IndexProtocol

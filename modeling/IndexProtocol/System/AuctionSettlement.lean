/-
This file bounds the unit of a component after one bid. The size of the auction
comes from a floored notional and a ceiled one, a purchase is grossed up for the
fee and the fee taken off again, the unit is recomputed from the balance, and it
is stored as a virtual unit and read back. With a multiplier of at most one the
five roundings together stay within one unit of the target: no bid goes past it,
and a bid of the full size reaches it. The exception is a Set that holds less of
the component than it tracks, for which selling the whole balance leaves no unit
at all.
-/

import IndexProtocol.System.AuctionSize

namespace IndexProtocol

open Revert PreciseUnitMath

/-- What a real unit reads back as once it has been stored as a virtual unit. -/
structure StoredAs (newUnit stored : Nat) : Prop where
  atMost : stored ≤ newUnit
  atLeast : newUnit ≤ stored + 1
  positive : 0 < newUnit → 0 < stored

namespace AuctionRebalanceModuleV1

variable {module : AuctionRebalanceModuleV1} {world next : World} {component msgSender : Address}
  {adapters : Adapters} {amount limit : Nat}

/-- An edit stores the unit that the balance has without the surplus there was before, and no
unit for no balance. -/
theorem stored_of_edit {address : Address} {before : Nat} {result : Nat × Nat × Nat}
    (positive : 0 < world.setToken.positionMultiplier)
    (bounded : world.setToken.positionMultiplier ≤ preciseUnit)
    (returned : world.calculateAndEditDefaultPosition address component
      world.setToken.totalSupply before = .ok (next, result)) :
    ∃ stored : Nat, next.setToken.defaultRealUnit component = stored ∧
      FitsInt256 (next.setToken.defaultPositionVirtualUnit component *
        next.setToken.positionMultiplier) ∧
      (world.held component = 0 ∧ stored = 0 ∨
        world.setToken.trackedNotional component ≤ before ∧
          StoredAs ((world.held component - (before - world.setToken.trackedNotional component)) *
            preciseUnit / world.setToken.totalSupply) stored) := by
  obtain ⟨read, edited, _, _, computed, empty⟩ :=
    World.calculateAndEditDefaultPosition_eq_ok returned
  obtain ⟨_, nonneg, atMost, _⟩ := Position.editDefaultPosition_unit positive edited
  obtain ⟨atLeast, some, fits⟩ := Position.editDefaultPosition_unit_lower positive bounded edited
  obtain ⟨stored, storedRead⟩ := Int.eq_ofNat_of_zero_le nonneg
  rw [storedRead] at atMost atLeast some
  refine ⟨stored, storedRead, fits, ?_⟩
  rcases Nat.eq_zero_or_pos (world.held component) with zero | held
  · rw [empty zero] at atMost
    exact Or.inl ⟨zero, Int.ofNat_le.mp atMost |> Nat.le_zero.mp⟩
  · obtain ⟨tracked, _, _, unit⟩ := Position.calculateDefaultEditPositionUnit_eq_ok (computed held)
    have notional := trackedNotional_of_unit read
    have commuted := Nat.mul_comm result.2.1 world.setToken.totalSupply
    unfold Rounding.mulFloor at tracked unit notional
    rw [commuted, ← notional] at tracked unit
    rw [unit]
    exact Or.inr ⟨tracked, Int.ofNat_le.mp atMost, by exact_mod_cast atLeast,
      fun newUnit => Int.natCast_pos.mp (some newUnit)⟩

/-- What the edit of one token of a bid stores of it. -/
theorem TokenEdit.stored {token : Address} {paid start done : World}
    (positive : 0 < world.setToken.positionMultiplier)
    (bounded : world.setToken.positionMultiplier ≤ preciseUnit)
    (edit : module.TokenEdit token world paid next start done) :
    ∃ stored : Nat, next.setToken.defaultRealUnit token = stored ∧
      FitsInt256 (next.setToken.defaultPositionVirtualUnit token *
        next.setToken.positionMultiplier) ∧
      (paid.held token = 0 ∧ stored = 0 ∨
        world.setToken.trackedNotional token ≤ world.held token ∧
          StoredAs ((paid.held token - (world.held token - world.setToken.trackedNotional token)) *
            preciseUnit / world.setToken.totalSupply) stored) := by
  obtain ⟨_, returned⟩ := edit.edit
  obtain ⟨stored, read, fits, settled⟩ := stored_of_edit (edit.positive positive)
    (edit.positionMultiplier ▸ bounded) returned
  rw [edit.held, trackedNotional_congr edit.totalSupply edit.unitBefore, edit.totalSupply]
    at settled
  refine ⟨stored, edit.unitAfter.trans read, ?_, settled⟩
  rw [edit.virtualUnitAfter, edit.multiplierAfter]
  exact fits

/-- What a bid leaves of the component in the Set's books: the notional that was tracked, less
what was sold or with what was bought net of the fee, spread over the supply. -/
theorem stored_of_bid (positive : 0 < world.setToken.positionMultiplier)
    (bounded : world.setToken.positionMultiplier ≤ preciseUnit)
    (returned : module.bid msgSender adapters component amount limit world = .ok next) :
    ∃ (isSellAuction : Bool) (size stored : Nat),
      module.calculateAuctionSizeAndDirection component world.setToken.totalSupply world =
        .ok (isSellAuction, size) ∧
      amount ≤ size ∧ next.setToken.defaultRealUnit component = stored ∧
      FitsInt256 (next.setToken.defaultPositionVirtualUnit component *
        next.setToken.positionMultiplier) ∧
      (isSellAuction = true →
        world.held component = amount ∧ stored = 0 ∨
          world.setToken.trackedNotional component ≤ world.held component ∧
            StoredAs ((world.setToken.trackedNotional component - amount) * preciseUnit /
              world.setToken.totalSupply) stored) ∧
      (isSellAuction = false →
        let net := amount - Rounding.mulFloor preciseUnit amount
          (world.controller.getModuleFee module.address protocolFeeIndex)
        net = 0 ∧ stored = 0 ∨
          StoredAs ((world.setToken.trackedNotional component + net) * preciseUnit /
            world.setToken.totalSupply) stored) := by
  obtain ⟨info, fee, paid, edited, trade⟩ := bid_eq_ok returned
  have tokens := trade.tokens
  have quantity := trade.quantity
  have size := trade.size
  rcases selling : info.isSellAuction with _ | _
  · simp only [selling, getSendAndReceiveTokens, Bool.false_eq_true, if_false, Prod.mk.injEq]
      at tokens quantity size
    obtain ⟨_, received⟩ := tokens
    have feeRate := trade.feeRate
    have feeBounded := trade.feeBounded
    have paidHeld : paid.held component = world.held component + (amount - fee) := by
      rw [trade.held, ← received, Function.update_self, quantity]
      omega
    obtain ⟨stored, read, fits, settled⟩ := TokenEdit.stored positive bounded
      (received ▸ trade.receiving positive)
    rw [paidHeld] at settled
    rw [quantity] at feeRate
    refine ⟨false, info.auctionQuantity, stored, size, trade.bounded, read, fits,
      fun sells => absurd sells Bool.noConfusion, fun _ => ?_⟩
    show amount - _ = 0 ∧ _ ∨ _
    rw [← feeRate]
    rcases settled with ⟨empty, none⟩ | ⟨enough, settled⟩
    · exact Or.inl ⟨by omega, none⟩
    · have remaining : world.held component + (amount - fee) - (world.held component -
          world.setToken.trackedNotional component) =
            world.setToken.trackedNotional component + (amount - fee) := by omega
      rw [remaining] at settled
      exact Or.inr settled
  · simp only [selling, getSendAndReceiveTokens, if_true, Prod.mk.injEq] at tokens quantity size
    obtain ⟨sent, _⟩ := tokens
    have enough := trade.sent
    rw [sent, quantity] at enough
    have paidHeld : paid.held component = world.held component - amount := by
      rw [trade.held, ← sent, Function.update_of_ne trade.different, Function.update_self,
        quantity]
    obtain ⟨stored, read, fits, settled⟩ := TokenEdit.stored positive bounded
      (sent ▸ trade.sending positive)
    rw [paidHeld] at settled
    refine ⟨true, info.auctionQuantity, stored, size, trade.bounded, read, fits, fun _ => ?_,
      fun buys => absurd buys.symm Bool.noConfusion⟩
    rcases settled with ⟨empty, none⟩ | ⟨covered, settled⟩
    · exact Or.inl ⟨by omega, none⟩
    · have remaining : world.held component - amount - (world.held component -
          world.setToken.trackedNotional component) =
            world.setToken.trackedNotional component - amount := by omega
      rw [remaining] at settled
      exact Or.inr ⟨covered, settled⟩

/-! ### One bid and the target -/

/-- A target whose notional is tracked in full is kept in the stored unit, up to one. -/
theorem target_le_stored {target tracked supply stored : Nat} (supplied : 0 < supply)
    (covered : Rounding.mulCeil preciseUnit supply target ≤ tracked)
    (settled : StoredAs (tracked * preciseUnit / supply) stored) :
    target ≤ stored + 1 ∧ (0 < target → 0 < stored) := by
  have least := Rounding.le_quotient preciseUnit_pos supplied covered
  exact ⟨least.trans settled.atLeast, fun some => settled.positive (some.trans_le least)⟩

/-- What the notional of a target covers exceeds the target by less than one unit of supply. -/
theorem stored_le_target {target tracked supply stored : Nat}
    (covered : tracked ≤ Rounding.mulCeil preciseUnit supply target)
    (settled : StoredAs (tracked * preciseUnit / supply) stored) :
    (stored - target) * supply < preciseUnit := by
  have most := Rounding.quotient_mul_lt preciseUnit_pos covered
  have below := Nat.mul_le_mul_right supply settled.atMost
  have positive := preciseUnit_pos
  rw [Nat.sub_mul]
  omega

/-- From a supply of one on, an excess of less than one unit of supply is none. -/
theorem le_target_of_supply {target supply stored : Nat} (whole : preciseUnit ≤ supply)
    (excess : (stored - target) * supply < preciseUnit) : stored ≤ target := by
  by_contra above
  rw [not_le] at above
  have one : supply ≤ (stored - target) * supply :=
    Nat.le_mul_of_pos_left supply (Nat.sub_pos_of_lt above)
  exact absurd excess (not_lt.mpr (whole.trans one))

/-- A component whose target has no notional has no target. -/
theorem target_eq_zero {setToken : SetToken} (supplied : 0 < setToken.totalSupply)
    (nothing : module.targetNotional setToken component = 0) :
    module.normalizedTargetUnit setToken component = 0 := by
  have least := Rounding.le_quotient preciseUnit_pos supplied nothing.le
  rw [zero_mul, Nat.zero_div] at least
  exact Nat.le_zero.mp least

/-- After any bid the stored unit is not past the target: after a sale it is at least one below
the target and at most what it was, unless the sale took the whole of a balance smaller than
what was tracked, and after a purchase it exceeds the target by less than one unit of supply. -/
theorem bid_within_target (supplied : 0 < world.setToken.totalSupply)
    (positive : 0 < world.setToken.positionMultiplier)
    (bounded : world.setToken.positionMultiplier ≤ preciseUnit)
    (returned : module.bid msgSender adapters component amount limit world = .ok next) :
    let target := module.normalizedTargetUnit world.setToken component
    ∃ (isSellAuction : Bool) (size stored : Nat),
      module.calculateAuctionSizeAndDirection component world.setToken.totalSupply world =
        .ok (isSellAuction, size) ∧
      next.setToken.defaultRealUnit component = stored ∧
      (isSellAuction = true → stored ≤ world.setToken.currentUnit component ∧
        (target ≤ stored + 1 ∨
          world.held component < world.setToken.trackedNotional component ∧
            amount = world.held component ∧ stored = 0)) ∧
      (isSellAuction = false →
        (target < stored → (stored - target) * world.setToken.totalSupply < preciseUnit) ∧
        (preciseUnit ≤ world.setToken.totalSupply → stored ≤ target)) := by
  intro target
  obtain ⟨isSellAuction, size, stored, sized, amountBounded, read, _, sold, bought⟩ :=
    stored_of_bid positive bounded returned
  refine ⟨isSellAuction, size, stored, sized, read, fun sells => ?_, fun buys => ?_⟩
  · rcases calculateAuctionSizeAndDirection_eq_ok positive sized with
      ⟨_, above, size⟩ | ⟨buys, _⟩
    · rcases sold sells with ⟨whole, none⟩ | ⟨_, settled⟩
      · refine ⟨none.le.trans (Nat.zero_le _), ?_⟩
        rcases Nat.lt_or_ge (world.held component) (world.setToken.trackedNotional component) with
          less | covered
        · exact Or.inr ⟨less, whole.symm, none⟩
        · refine Or.inl ((target_eq_zero supplied ?_).le.trans (Nat.zero_le _))
          omega
      · refine ⟨settled.atMost.trans (Rounding.quotient_le (Nat.sub_le _ _)), Or.inl ?_⟩
        refine (target_le_stored supplied ?_ settled).1
        show module.targetNotional world.setToken component ≤ _
        omega
    · exact absurd (sells.symm.trans buys) Bool.noConfusion
  · rcases calculateAuctionSizeAndDirection_eq_ok positive sized with
      ⟨sells, _⟩ | ⟨_, below, feeBelow, size⟩
    · exact absurd (sells.symm.trans buys) Bool.noConfusion
    · have net := Rounding.sub_mulFloor_le feeBelow (amountBounded.trans_eq size)
      have excess : (stored - target) * world.setToken.totalSupply < preciseUnit := by
        rcases bought buys with ⟨_, none⟩ | settled
        · rw [none, Nat.zero_sub, zero_mul]
          exact preciseUnit_pos
        · refine stored_le_target ?_ settled
          show _ ≤ module.targetNotional world.setToken component
          omega
      exact ⟨fun _ => excess, fun whole => le_target_of_supply whole excess⟩

theorem bid_within_target_sample :
    ∃ next, sampleSizeAuction.bid 7 System.sampleAdapters 4 2 0 sampleSizeWorld = .ok next ∧
      ∃ stored : Nat, next.setToken.defaultRealUnit 4 = stored ∧ stored ≤ 1 := by
  have succeeds : returns (sampleSizeAuction.bid 7 System.sampleAdapters 4 2 0 sampleSizeWorld)
      (fun _ => true) = true := by
    decide
  have buys : sampleSizeAuction.calculateAuctionSizeAndDirection 4 (2 * 10 ^ 18)
      sampleSizeWorld = .ok (false, 2) := by
    decide
  obtain ⟨next, returned, _⟩ := exists_of_returns succeeds
  obtain ⟨_, _, stored, sized, read, _, bought⟩ :=
    bid_within_target (by decide) (by decide) (by decide) returned
  obtain ⟨rfl, rfl⟩ := Prod.mk.injEq _ _ _ _ ▸ Except.ok.inj (buys.symm.trans sized)
  exact ⟨next, returned, stored, read, (bought rfl).2 (by decide)⟩

/-- A Set of supply one with ten of component 4 for each, of which it holds only five. -/
def shortWorld : World :=
  { System.sample.world with
    setToken :=
      { SetToken.construct 2 [4] [10] [10, 11, 12] 5 with
        totalSupply := 10 ^ 18
        moduleStates := fun _ => .initialized }
    tokens := fun token => if token = 4 then
        { totalSupply := 5, balanceOf := fun account => if account = 2 then 5 else 0,
          allowance := fun _ _ => 0 }
      else System.sample.world.tokens token }

/-- The auction that lowers the ten to five. -/
def shortAuction : AuctionRebalanceModuleV1 :=
  { sampleSizeAuction with executionInfo := fun _ => System.sampleParams 5 }

/-- Selling the whole of a balance that is too small leaves no unit, whatever the target is. -/
theorem bid_past_target :
    ¬∀ (module : AuctionRebalanceModuleV1) (world next : World) (component msgSender : Address)
        (adapters : Adapters) (amount limit size : Nat), 0 < world.setToken.totalSupply →
      0 < world.setToken.positionMultiplier → world.setToken.positionMultiplier ≤ preciseUnit →
      world.controller.getModuleFee module.address protocolFeeIndex < preciseUnit →
      world.controller.feeRecipient ≠ world.setToken.address →
      msgSender ≠ world.setToken.address →
      module.bid msgSender adapters component amount limit world = .ok next →
      module.calculateAuctionSizeAndDirection component world.setToken.totalSupply world =
        .ok (true, size) →
      (module.normalizedTargetUnit world.setToken component : Int) - 1 ≤
        next.setToken.defaultRealUnit component := by
  intro claim
  have succeeds : returns (shortAuction.bid 7 System.sampleAdapters 4 5 5 shortWorld)
      (fun next => decide (next.setToken.defaultRealUnit 4 = 0)) = true := by
    decide
  obtain ⟨next, returned, empty⟩ := exists_of_returns succeeds
  have bound := claim shortAuction shortWorld next 4 7 System.sampleAdapters 5 5 5 (by decide)
    (by decide) (by decide) (by decide) (by decide) (by decide) returned (by decide)
  rw [of_decide_eq_true empty] at bound
  exact absurd bound (by decide)

/-! ### Bids of the full size -/

theorem getAuctionSizeAndDirection_eq_ok {isSellAuction : Bool} {size : Nat}
    (returned : module.getAuctionSizeAndDirection component world = .ok (isSellAuction, size)) :
    module.calculateAuctionSizeAndDirection component world.setToken.totalSupply world =
      .ok (isSellAuction, size) := by
  simp only [getAuctionSizeAndDirection, bind_eq_ok] at returned
  obtain ⟨_, _, _, _, computed⟩ := returned
  exact computed

/-- The size of an auction is computed only where the target is. -/
theorem targetComputable_of_size {isSellAuction : Bool} {size : Nat}
    (positive : 0 < world.setToken.positionMultiplier)
    (returned : module.calculateAuctionSizeAndDirection component world.setToken.totalSupply world =
      .ok (isSellAuction, size)) : module.TargetComputable world.setToken component := by
  simp only [calculateAuctionSizeAndDirection, getUnitsAndNotionalAmounts, bind_eq_ok,
    pure_eq_ok, Prod.exists, Prod.mk.injEq, getNormalizedTargetUnit_eq_ok positive.le] at returned
  obtain ⟨_, _, _, _, ⟨_, _, _, ⟨computable, _⟩, _⟩, _⟩ := returned
  exact computable

/-- A unit that reads as the target, or as one below it and not as nothing, meets the target. -/
theorem targetUnmet_eq_false {stored : Nat} (nonneg : 0 ≤ world.setToken.positionMultiplier)
    (computable : module.TargetComputable world.setToken component)
    (fits : FitsInt256 (world.setToken.defaultPositionVirtualUnit component *
      world.setToken.positionMultiplier))
    (read : world.setToken.defaultRealUnit component = stored)
    (atMost : stored ≤ module.normalizedTargetUnit world.setToken component)
    (atLeast : module.normalizedTargetUnit world.setToken component ≤ stored + 1)
    (some : 0 < module.normalizedTargetUnit world.setToken component → 0 < stored) :
    module.targetUnmet world component = .ok false := by
  have small : stored + 1 < 2 ^ 256 := by
    have quotient : (stored : Int) < 2 ^ 255 := by
      rw [← read]
      exact Int.ediv_lt_of_lt_mul preciseUnit_int_pos
        (fits.2.trans_le (le_mul_of_one_le_right (by positivity) preciseUnit_int_pos))
    have room : stored < 2 ^ 255 := by exact_mod_cast quotient
    omega
  unfold targetUnmet
  split
  · rfl
  · simp only [bind_eq_ok, getNormalizedTargetUnit_eq_ok nonneg,
      getDefaultPositionRealUnit_eq_ok]
    refine ⟨_, ⟨computable, rfl⟩, stored, ⟨fits, read⟩, ?_⟩
    split
    · rename_i target
      simp only [bind_eq_ok, pure_eq_ok, approximatelyEquals_eq_ok]
      exact ⟨true, ⟨small, fun _ => some target, decide_eq_true ⟨atLeast, by omega⟩⟩, rfl⟩
    · rw [pure_eq_ok]
      exact decide_eq_false (by omega)

/-- A unit stored for the notional of the target is at least one below the target and exceeds it
by less than one unit of supply; from a supply of one on it meets the target. -/
theorem target_met_of_stored {stored : Nat} (supplied : 0 < world.setToken.totalSupply)
    (positive : 0 < world.setToken.positionMultiplier)
    (multiplier : next.setToken.positionMultiplier = world.setToken.positionMultiplier)
    (computable : module.TargetComputable world.setToken component)
    (fits : FitsInt256 (next.setToken.defaultPositionVirtualUnit component *
      next.setToken.positionMultiplier))
    (read : next.setToken.defaultRealUnit component = stored)
    (settled : StoredAs (module.targetNotional world.setToken component *
      preciseUnit / world.setToken.totalSupply) stored) :
    let target := module.normalizedTargetUnit world.setToken component
    target ≤ stored + 1 ∧
      (target < stored → (stored - target) * world.setToken.totalSupply < preciseUnit) ∧
      (preciseUnit ≤ world.setToken.totalSupply →
        module.targetUnmet next component = .ok false) := by
  intro target
  have sameTarget : module.normalizedTargetUnit next.setToken component = target := by
    unfold normalizedTargetUnit
    rw [multiplier]
    rfl
  obtain ⟨atLeast, nonzero⟩ := target_le_stored supplied le_rfl settled
  have excess : (stored - target) * world.setToken.totalSupply < preciseUnit :=
    stored_le_target le_rfl settled
  refine ⟨atLeast, fun _ => excess, fun whole => ?_⟩
  refine targetUnmet_eq_false (multiplier ▸ positive.le) ?_ fits read ?_ ?_ ?_
  · unfold TargetComputable at computable ⊢
    rw [multiplier]
    exact computable
  · rw [sameTarget]
    exact le_target_of_supply whole excess
  · rw [sameTarget]
    exact atLeast
  · rw [sameTarget]
    exact nonzero

/-- A bid of the full size, when there is any, settles the component: the stored unit is at
least one below the target and exceeds it by less than one unit of supply, so that from a supply
of one on the target is met. Only a sale that takes the whole of a balance smaller than what was
tracked leaves no unit instead. -/
theorem full_bid_settles {isSellAuction : Bool} {size : Nat}
    (supplied : 0 < world.setToken.totalSupply)
    (positive : 0 < world.setToken.positionMultiplier)
    (bounded : world.setToken.positionMultiplier ≤ preciseUnit)
    (sized : module.getAuctionSizeAndDirection component world = .ok (isSellAuction, size))
    (some : 0 < size)
    (returned : module.bid msgSender adapters component size limit world = .ok next) :
    let target := module.normalizedTargetUnit world.setToken component
    ∃ stored : Nat, next.setToken.defaultRealUnit component = stored ∧
      (target ≤ stored + 1 ∧
          (target < stored → (stored - target) * world.setToken.totalSupply < preciseUnit) ∧
          (preciseUnit ≤ world.setToken.totalSupply →
            module.targetUnmet next component = .ok false) ∨
        isSellAuction = true ∧
          world.held component < world.setToken.trackedNotional component ∧
          size = world.held component ∧ stored = 0) := by
  intro target
  obtain ⟨selling, quantity, stored, calculated, amountBounded, read, fits, sold, bought⟩ :=
    stored_of_bid positive bounded returned
  have computed := getAuctionSizeAndDirection_eq_ok sized
  obtain ⟨rfl, rfl⟩ : selling = isSellAuction ∧ quantity = size := by
    rw [computed] at calculated
    injection calculated with pair
    exact ⟨(congrArg Prod.fst pair).symm, (congrArg Prod.snd pair).symm⟩
  refine ⟨stored, read, ?_⟩
  have settles := target_met_of_stored supplied positive (bid_positionMultiplier returned)
    (targetComputable_of_size positive calculated) fits read
  rcases calculateAuctionSizeAndDirection_eq_ok positive calculated with
    ⟨sells, above, size⟩ | ⟨buys, below, feeBelow, size⟩
  · rcases sold sells with ⟨whole, none⟩ | ⟨_, settled⟩
    · rcases Nat.lt_or_ge (world.held component) (world.setToken.trackedNotional component) with
        less | covered
      · exact Or.inr ⟨sells, less, whole.symm, none⟩
      · have nothing : module.targetNotional world.setToken component = 0 := by omega
        refine Or.inl (settles ⟨?_, ?_, ?_⟩) <;> rw [nothing, none] <;> simp
    · have remaining : world.setToken.trackedNotional component - quantity =
          module.targetNotional world.setToken component := by omega
      rw [remaining] at settled
      exact Or.inl (settles settled)
  · have net : quantity - Rounding.mulFloor preciseUnit quantity
        (world.controller.getModuleFee module.address protocolFeeIndex) =
          module.targetNotional world.setToken component -
            world.setToken.trackedNotional component := by
      rw [size]
      exact Rounding.sub_mulFloor_eq feeBelow
    rcases bought buys with ⟨nothing, _⟩ | settled
    · rw [net] at nothing
      rw [nothing, zero_mul, Nat.zero_div] at size
      omega
    · have remaining : world.setToken.trackedNotional component +
          (quantity - Rounding.mulFloor preciseUnit quantity
            (world.controller.getModuleFee module.address protocolFeeIndex)) =
          module.targetNotional world.setToken component := by omega
      rw [remaining] at settled
      exact Or.inl (settles settled)

theorem full_bid_settles_sample :
    ∃ next, sampleSizeAuction.bid 7 System.sampleAdapters 4 2 0 sampleSizeWorld = .ok next ∧
      sampleSizeAuction.targetUnmet next 4 = .ok false := by
  have succeeds : returns (sampleSizeAuction.bid 7 System.sampleAdapters 4 2 0 sampleSizeWorld)
      (fun _ => true) = true := by
    decide
  have sized : sampleSizeAuction.getAuctionSizeAndDirection 4 sampleSizeWorld =
      .ok (false, 2) := by
    decide
  obtain ⟨next, returned, _⟩ := exists_of_returns succeeds
  obtain ⟨_, _, ⟨_, _, met⟩ | ⟨sells, _⟩⟩ :=
    full_bid_settles (by decide) (by decide) (by decide) sized (by decide) returned
  · exact ⟨next, returned, met (by decide)⟩
  · exact absurd sells Bool.noConfusion

/-- A bid of the full size on a balance that is too small leaves the target unmet. -/
theorem full_bid_unsettled :
    ¬∀ (module : AuctionRebalanceModuleV1) (world next : World) (component msgSender : Address)
        (adapters : Adapters) (isSellAuction : Bool) (size limit : Nat),
      0 < world.setToken.totalSupply →
      0 < world.setToken.positionMultiplier → world.setToken.positionMultiplier ≤ preciseUnit →
      world.controller.getModuleFee module.address protocolFeeIndex < preciseUnit →
      world.controller.feeRecipient ≠ world.setToken.address →
      msgSender ≠ world.setToken.address →
      module.getAuctionSizeAndDirection component world = .ok (isSellAuction, size) → 0 < size →
      module.bid msgSender adapters component size limit world = .ok next →
      (module.normalizedTargetUnit world.setToken component : Int) - 1 ≤
        next.setToken.defaultRealUnit component := by
  intro claim
  have succeeds : returns (shortAuction.bid 7 System.sampleAdapters 4 5 5 shortWorld)
      (fun next => decide (next.setToken.defaultRealUnit 4 = 0)) = true := by
    decide
  obtain ⟨next, returned, empty⟩ := exists_of_returns succeeds
  have bound := claim shortAuction shortWorld next 4 7 System.sampleAdapters true 5 5 (by decide)
    (by decide) (by decide) (by decide) (by decide) (by decide) (by decide) (by decide) returned
  rw [of_decide_eq_true empty] at bound
  exact absurd bound (by decide)

end AuctionRebalanceModuleV1

end IndexProtocol

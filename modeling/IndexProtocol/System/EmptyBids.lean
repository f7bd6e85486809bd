/-
This file follows a bid for nothing. Such a bid moves no token and pays no fee,
but it is accepted, and both units are then recomputed from the balances: the
notional that is tracked is rounded down, spread over the supply and stored
through the multiplier. The unit is the same afterwards exactly when none of the
three roundings takes anything off it, and a unit that rounds to nothing takes
the component off the list.
-/

import IndexProtocol.System.AuctionSettlement
import IndexProtocol.System.StoredUnits

namespace IndexProtocol

open Revert PreciseUnitMath

/-! ### Units recomputed from an unchanged balance -/

/-- The unit of a component that is exact at the supply and at the multiplier, with a balance
behind it; or no unit. -/
def ExactUnit (world : World) (component : Address) : Prop :=
  world.setToken.defaultRealUnit component = 0 ∨
    0 < world.held component ∧
      (preciseUnit : Int) ∣
        world.setToken.defaultRealUnit component * world.setToken.totalSupply ∧
      world.setToken.positionMultiplier ∣
        world.setToken.defaultRealUnit component * preciseUnit

theorem ExactUnit.congr {world next : World} {component : Address}
    (unit : next.setToken.defaultRealUnit component = world.setToken.defaultRealUnit component)
    (held : next.held component = world.held component)
    (supply : next.setToken.totalSupply = world.setToken.totalSupply)
    (multiplier : next.setToken.positionMultiplier = world.setToken.positionMultiplier) :
    ExactUnit next component ↔ ExactUnit world component := by
  unfold ExactUnit
  rw [unit, held, supply, multiplier]

namespace Position

/-- A position that stays open, or stays closed, leaves the components as they are. -/
theorem trackDefaultPosition_of_same {setToken tracked : SetToken} {call : Call}
    {component : Address} {found : Bool} {newUnit : Nat} (same : found = true ↔ 0 < newUnit)
    (returned : trackDefaultPosition call component found newUnit setToken = .ok tracked) :
    tracked = setToken := by
  unfold trackDefaultPosition at returned
  rw [if_neg, if_neg, pure_eq_ok] at returned
  · exact returned.symm
  · rintro ⟨opened, zero⟩
    exact absurd (same.mp opened) (by omega)
  · rintro ⟨closed, positive⟩
    exact absurd (same.mpr positive) (by rw [closed]; exact Bool.false_ne_true)

/-- A unit that is at least the one written is read back when it is the one written and the
storage does not round it. -/
theorem editDefaultPosition_keeps_iff {setToken edited : SetToken} {call : Call}
    {component : Address} {newUnit unit : Nat} (positive : 0 < setToken.positionMultiplier)
    (returned : editDefaultPosition call component newUnit setToken = .ok edited)
    (notMore : newUnit ≤ unit) :
    edited.defaultRealUnit component = unit ↔
      newUnit = unit ∧ setToken.positionMultiplier ∣ (unit : Int) * preciseUnit := by
  have after := editDefaultPosition_realUnit positive returned
  have atMost := after ▸ Rounding.ediv_mul_ediv_le preciseUnit_int_pos positive (newUnit : Int)
  constructor
  · intro same
    have equal : newUnit = unit := by
      rw [same] at atMost
      exact le_antisymm notMore (by exact_mod_cast atMost)
    rw [after, equal, Rounding.ediv_mul_ediv_eq_iff preciseUnit_int_pos positive] at same
    exact ⟨equal, same⟩
  · rintro ⟨equal, divides⟩
    rw [after, equal]
    exact (Rounding.ediv_mul_ediv_eq_iff preciseUnit_int_pos positive _).mpr divides

end Position

namespace World

variable {world next : World} {module component : Address} {balance unit newUnit : Nat}

/-- Where the balance has not changed, the new unit is the tracked notional spread over the
supply. -/
theorem newUnit_of_unchanged
    (returned : world.calculateAndEditDefaultPosition module component
      world.setToken.totalSupply (world.held component) = .ok (next, balance, unit, newUnit)) :
    (world.held component = 0 → newUnit = 0) ∧
    (0 < world.held component → 0 < world.setToken.totalSupply ∧
      newUnit = Rounding.mulFloor preciseUnit unit world.setToken.totalSupply * preciseUnit /
        world.setToken.totalSupply) := by
  obtain ⟨_, _, _, _, computed, empty⟩ := calculateAndEditDefaultPosition_eq_ok returned
  refine ⟨empty, fun some => ?_⟩
  obtain ⟨tracked, _, supplied, spread⟩ :=
    Position.calculateDefaultEditPositionUnit_eq_ok (computed some)
  rw [Nat.sub_sub_self tracked] at spread
  exact ⟨supplied, spread.symm⟩

/-- The unit is the one from before exactly when it is exact, and then the components are. -/
theorem unit_kept_iff (positive : 0 < world.setToken.positionMultiplier)
    (returned : world.calculateAndEditDefaultPosition module component
      world.setToken.totalSupply (world.held component) = .ok (next, balance, unit, newUnit)) :
    (next.setToken.defaultRealUnit component = world.setToken.defaultRealUnit component ↔
      ExactUnit world component) ∧
    (ExactUnit world component → next.setToken.components = world.setToken.components) := by
  obtain ⟨read, edited, _⟩ := calculateAndEditDefaultPosition_eq_ok returned
  obtain ⟨empty, spread⟩ := newUnit_of_unchanged returned
  obtain ⟨found, components, _, search, listed, _, _, stored⟩ :=
    Position.editDefaultPosition_eq_ok edited
  have notMore : newUnit ≤ unit := by
    rcases Nat.eq_zero_or_pos (world.held component) with zero | some
    · exact (empty zero).le.trans (Nat.zero_le _)
    · rw [(spread some).2, Rounding.mulFloor, mul_comm unit]
      exact Rounding.quotient_le le_rfl
  have kept := Position.editDefaultPosition_keeps_iff positive edited notMore
  have exactly : next.setToken.defaultRealUnit component = unit ↔ ExactUnit world component := by
    unfold ExactUnit
    rw [kept, read]
    rcases Nat.eq_zero_or_pos unit with rfl | some
    · have none : newUnit = 0 := Nat.le_zero.mp notMore
      simp [none]
    · have nonzero : ¬(unit : Int) = 0 := by omega
      rw [or_iff_right nonzero]
      rcases Nat.eq_zero_or_pos (world.held component) with zero | holds
      · simp [empty zero, zero, some.ne]
      · obtain ⟨supplied, quotient⟩ := spread holds
        rw [and_iff_right holds, quotient,
          Rounding.mulFloor_quotient_eq_iff supplied, ← Int.natCast_dvd_natCast,
          Nat.cast_mul]
  refine ⟨read.symm ▸ exactly, fun exact => ?_⟩
  have same : found = true ↔ 0 < newUnit := by
    simp only [Position.hasDefaultPosition, bind_eq_ok, pure_eq_ok,
      SetToken.getDefaultPositionRealUnit_eq_ok] at search
    obtain ⟨_, ⟨_, rfl⟩, rfl⟩ := search
    obtain ⟨equal, _⟩ := kept.mp (exactly.mpr exact)
    rw [decide_eq_true_iff, read, equal, Int.natCast_pos]
  have unchanged := Position.trackDefaultPosition_of_same same listed
  rw [stored, unchanged]
  rfl

end World

namespace AuctionRebalanceModuleV1

variable {module : AuctionRebalanceModuleV1} {world next : World} {component msgSender : Address}
  {adapters : Adapters} {limit : Nat}

/-! ### A bid for nothing -/

/-- Nothing is sent and nothing received. -/
theorem createBidInfo_zero {info : BidInfo}
    (returned : module.createBidInfo adapters component 0 limit world = .ok info) :
    info.quantitySentBySet = 0 ∧ info.quantityReceivedBySet = 0 := by
  simp only [createBidInfo, bind_eq_ok, require_eq_ok, exists_const, pure_eq_ok, Prod.exists]
    at returned
  obtain ⟨_, _, isSellAuction, _, _, _, _, _, _, _, quote, quoted, _, _, rfl⟩ := returned
  have nothing : quote = 0 := by
    unfold calculateQuoteAssetQuantity at quoted
    split at quoted
    · rw [preciseMulCeil_eq_ok, Rounding.mulCeil, zero_mul, zero_ceilDiv] at quoted
      exact quoted.2.symm
    · rw [preciseMul_eq_ok, Rounding.mulFloor, zero_mul, Nat.zero_div] at quoted
      exact quoted.2.symm
  rw [nothing]
  cases isSellAuction <;> exact ⟨rfl, rfl⟩

/-- A token whose balance the bid has not moved keeps its unit exactly when that is exact. -/
theorem TokenEdit.unchanged_iff {token : Address} {paid start done : World}
    (positive : 0 < world.setToken.positionMultiplier) (held : paid.held = world.held)
    (edit : module.TokenEdit token world paid next start done) :
    (next.setToken.defaultRealUnit token = world.setToken.defaultRealUnit token ↔
      ExactUnit world token) ∧
    (ExactUnit world token → done.setToken.components = start.setToken.components) := by
  obtain ⟨⟨_, _, _⟩, returned⟩ := edit.edit
  have startHeld := edit.held.trans held
  rw [← startHeld] at returned
  obtain ⟨kept, listed⟩ := World.unit_kept_iff (edit.positive positive) returned
  have exact := ExactUnit.congr edit.unitBefore (congrFun startHeld token) edit.totalSupply
    edit.positionMultiplier
  rw [exact, edit.unitBefore, ← edit.unitAfter] at kept
  exact ⟨kept, fun exactly => listed (exact.mpr exactly)⟩

/-- A bid for nothing leaves the components and the units of the component and of the quote
asset as they were exactly when both units are exact. -/
theorem zero_bid_unchanged_iff (positive : 0 < world.setToken.positionMultiplier)
    (returned : module.bid msgSender adapters component 0 limit world = .ok next) :
    (next.setToken.components = world.setToken.components ∧
      next.setToken.defaultRealUnit component = world.setToken.defaultRealUnit component ∧
      next.setToken.defaultRealUnit module.rebalanceInfo.quoteAsset =
        world.setToken.defaultRealUnit module.rebalanceInfo.quoteAsset) ↔
    ExactUnit world component ∧ ExactUnit world module.rebalanceInfo.quoteAsset := by
  obtain ⟨info, fee, paid, edited, created, trade⟩ := bid_created returned
  obtain ⟨sent, received⟩ := createBidInfo_zero created
  have noFee : fee = 0 := by
    rw [trade.feeRate, received, Rounding.mulFloor, zero_mul, Nat.zero_div]
  have held : paid.held = world.held := by
    rw [trade.held, sent, received, noFee, Nat.sub_zero, Nat.add_zero, Nat.sub_zero,
      Function.update_eq_self, Function.update_eq_self]
  obtain ⟨sendKept, sendListed⟩ := (trade.sending positive).unchanged_iff positive held
  obtain ⟨receiveKept, receiveListed⟩ := (trade.receiving positive).unchanged_iff positive held
  have both : (next.setToken.components = world.setToken.components ∧
      next.setToken.defaultRealUnit info.sendToken =
        world.setToken.defaultRealUnit info.sendToken ∧
      next.setToken.defaultRealUnit info.receiveToken =
        world.setToken.defaultRealUnit info.receiveToken) ↔
      ExactUnit world info.sendToken ∧ ExactUnit world info.receiveToken := by
    rw [sendKept, receiveKept]
    refine ⟨And.right, fun exact => ⟨?_, exact⟩⟩
    exact (receiveListed exact.2).trans
      ((sendListed exact.1).trans trade.onlyBalances.components)
  have tokens := trade.tokens
  unfold getSendAndReceiveTokens at tokens
  split at tokens
  · obtain ⟨send, receive⟩ := Prod.mk.injEq _ _ _ _ ▸ tokens
    rwa [send, receive] at both
  · obtain ⟨send, receive⟩ := Prod.mk.injEq _ _ _ _ ▸ tokens
    rw [send, receive] at both
    rw [and_comm (a := next.setToken.defaultRealUnit component = _), both, and_comm]

theorem zero_bid_unchanged_iff_sample :
    ∃ next, sampleSizeAuction.bid 7 System.sampleAdapters 4 0 0 sampleSizeWorld = .ok next ∧
      next.setToken.components = sampleSizeWorld.setToken.components := by
  have succeeds : returns (sampleSizeAuction.bid 7 System.sampleAdapters 4 0 0 sampleSizeWorld)
      (fun _ => true) = true := by
    decide
  obtain ⟨next, returned, _⟩ := exists_of_returns succeeds
  have exact : ExactUnit sampleSizeWorld 4 ∧ ExactUnit sampleSizeWorld 3 :=
    ⟨Or.inl (by decide), Or.inr ⟨by decide, by decide, by decide⟩⟩
  exact ⟨next, returned, ((zero_bid_unchanged_iff (by decide) returned).mpr exact).1⟩

/-- A Set of supply one and a half with a unit of one of component 4. -/
def thinWorld : World :=
  { System.sample.world with
    setToken :=
      { SetToken.construct 2 [3, 4] [5 * 10 ^ 17, 1] [10, 11, 12] 5 with
        totalSupply := 15 * 10 ^ 17
        moduleStates := fun _ => .initialized } }

/-- The auction that sells component 4 for token 3. -/
def thinAuction : AuctionRebalanceModuleV1 :=
  { sampleSizeAuction with executionInfo := fun _ => System.sampleParams 0 }

/-- A bid for nothing takes the component off the list and its unit with it. -/
theorem zero_bid_changes :
    ¬∀ (module : AuctionRebalanceModuleV1) (world next : World) (component msgSender : Address)
        (adapters : Adapters) (limit : Nat), 0 < world.setToken.positionMultiplier →
      module.bid msgSender adapters component 0 limit world = .ok next →
      next.setToken.components = world.setToken.components ∧
        next.setToken.defaultRealUnit component = world.setToken.defaultRealUnit component ∧
        next.setToken.defaultRealUnit module.rebalanceInfo.quoteAsset =
          world.setToken.defaultRealUnit module.rebalanceInfo.quoteAsset := by
  intro claim
  have succeeds : returns (thinAuction.bid 7 System.sampleAdapters 4 0 0 thinWorld)
      (fun next => decide (next.setToken.components = [3])) = true := by
    decide
  obtain ⟨next, returned, removed⟩ := exists_of_returns succeeds
  obtain ⟨components, _⟩ := claim thinAuction thinWorld next 4 7 System.sampleAdapters 0
    (by decide) returned
  rw [of_decide_eq_true removed] at components
  exact absurd components (by decide)

end AuctionRebalanceModuleV1

end IndexProtocol

/-
This file proves what the 0x adapter guarantees for a batch of orders that it
accepts. The loop sums exactly the fills of the orders, but the tokens are
those of the first order alone and surplus fill amounts are never read, so a
batch trades only the requested pair exactly when its fills match its orders in
number and no filled order names other tokens than the first one.
-/

import IndexProtocol.Integration.ZeroExApiAdapter
import Mathlib.Algebra.BigOperators.Group.List.Basic

namespace IndexProtocol

open Revert ZeroExApiAdapter

/-! ### The sums of the loop -/

/-- The part of the maker amount that a fill buys, rounded down. -/
def makerFill (filled : RfqOrder × BitVec 128) : Nat :=
  filled.1.makerAmount.toNat * filled.2.toNat / filled.1.takerAmount.toNat

/-- The product of two 128-bit amounts does not wrap around. -/
theorem getRfqOrderMakerFillAmount_eq (order : RfqOrder) (fill : BitVec 128) :
    getRfqOrderMakerFillAmount order fill.toNat = makerFill (order, fill) := by
  have bound : order.makerAmount.toNat * fill.toNat < 2 ^ 256 :=
    calc order.makerAmount.toNat * fill.toNat < 2 ^ 128 * 2 ^ 128 :=
        Nat.mul_lt_mul'' order.makerAmount.isLt fill.isLt
      _ = 2 ^ 256 := by norm_num
  unfold getRfqOrderMakerFillAmount makerFill
  rw [Nat.mod_eq_of_lt bound]
  split_ifs with empty
  · rcases empty with taker | maker | none
    · simp [taker]
    · simp [maker]
    · simp [none]
  · rfl

section Loop

variable (orders : List RfqOrder) (takerTokenFillAmounts : List (BitVec 128))

/-- One more order adds its fill to both sums. -/
theorem fill_sums_succ (count : Nat) (inside : count < orders.length)
    (more : count < takerTokenFillAmounts.length) :
    (((takerTokenFillAmounts.take (count + 1)).map BitVec.toNat).sum % 2 ^ 256,
        (((orders.zip takerTokenFillAmounts).take (count + 1)).map makerFill).sum % 2 ^ 256) =
      ((((takerTokenFillAmounts.take count).map BitVec.toNat).sum % 2 ^ 256 +
          takerTokenFillAmounts[count].toNat) % 2 ^ 256,
        ((((orders.zip takerTokenFillAmounts).take count).map makerFill).sum % 2 ^ 256 +
          getRfqOrderMakerFillAmount orders[count] takerTokenFillAmounts[count].toNat) %
            2 ^ 256) := by
  have fills : count < (takerTokenFillAmounts.map BitVec.toNat).length := by
    rwa [List.length_map]
  have makerFills : count < ((orders.zip takerTokenFillAmounts).map makerFill).length := by
    rw [List.length_map, List.length_zip]
    omega
  simp only [List.map_take, List.sum_take_succ _ _ fills, List.sum_take_succ _ _ makerFills,
    List.getElem_map, List.getElem_zip, getRfqOrderMakerFillAmount_eq, Nat.mod_add_mod]

/-- The loop reads as many fill amounts as it runs over orders, and returns both sums up to
the wrap-around. -/
theorem addFill_loop (count : Nat) (within : count ≤ orders.length) (amounts : Nat × Nat) :
    (List.range count).foldlM (addFill orders takerTokenFillAmounts) (0, 0) = .ok amounts ↔
      count ≤ takerTokenFillAmounts.length ∧
        amounts = (((takerTokenFillAmounts.take count).map BitVec.toNat).sum % 2 ^ 256,
          (((orders.zip takerTokenFillAmounts).take count).map makerFill).sum % 2 ^ 256) := by
  induction count generalizing amounts with
  | zero =>
    rw [List.range_zero, List.foldlM_nil, pure_eq_ok]
    simp [eq_comm]
  | succ count inductionHypothesis =>
    have inside : count < orders.length := within
    have order : orders[count]? = some orders[count] := List.getElem?_eq_getElem inside
    simp only [List.range_succ, List.foldlM_append, List.foldlM_cons, List.foldlM_nil,
      bind_eq_ok, inductionHypothesis inside.le, addFill, readAt_eq_ok, order, pure_eq_ok,
      Option.some.injEq]
    constructor
    · rintro ⟨_, ⟨_, rfl⟩, _, ⟨fill, read, _, rfl, rfl⟩, rfl⟩
      obtain ⟨more, rfl⟩ := List.getElem?_eq_some_iff.mp read
      exact ⟨more, (fill_sums_succ orders takerTokenFillAmounts count inside more).symm⟩
    · rintro ⟨more, rfl⟩
      exact ⟨_, ⟨Nat.le_of_succ_le more, rfl⟩, _,
        ⟨takerTokenFillAmounts[count], List.getElem?_eq_getElem more, _, rfl, rfl⟩,
        (fill_sums_succ orders takerTokenFillAmounts count inside more).symm⟩

end Loop

/-! ### Accepted batches -/

/-- What a batch trades, as it is requested. -/
structure TradesRequestedPair (sourceToken destinationToken : Address)
    (sourceQuantity minDestinationQuantity : Nat) (orders : List RfqOrder)
    (takerTokenFillAmounts : List (BitVec 128)) : Prop where
  asMany : takerTokenFillAmounts.length = orders.length
  tokens : ∀ filled ∈ orders.zip takerTokenFillAmounts, 0 < filled.2.toNat →
    filled.1.takerToken = sourceToken ∧ filled.1.makerToken = destinationToken
  sold : (takerTokenFillAmounts.map BitVec.toNat).sum = sourceQuantity
  bought :
    minDestinationQuantity ≤ ((orders.zip takerTokenFillAmounts).map makerFill).sum

/-- Every filled order names the tokens of the first order, no fill amount is left over, and
the fill amounts do not wrap around. -/
structure FollowsFirstOrder (orders : List RfqOrder) (takerTokenFillAmounts : List (BitVec 128)) :
    Prop where
  asMany : takerTokenFillAmounts.length = orders.length
  tokens : ∀ first ∈ orders.head?, ∀ filled ∈ orders.zip takerTokenFillAmounts,
    0 < filled.2.toNat →
      filled.1.takerToken = first.takerToken ∧ filled.1.makerToken = first.makerToken
  fits : (takerTokenFillAmounts.map BitVec.toNat).sum < 2 ^ 256

/-- What the adapter establishes for a batch that it accepts. -/
structure AcceptedBatch (sourceToken destinationToken : Address)
    (sourceQuantity minDestinationQuantity : Nat) (orders : List RfqOrder)
    (takerTokenFillAmounts : List (BitVec 128)) : Prop where
  enough : orders.length ≤ takerTokenFillAmounts.length
  first : ∃ first, orders.head? = some first ∧ first.takerToken = sourceToken ∧
    first.makerToken = destinationToken
  sold : ((takerTokenFillAmounts.take orders.length).map BitVec.toNat).sum % 2 ^ 256 =
    sourceQuantity
  bought : minDestinationQuantity ≤
    ((orders.zip takerTokenFillAmounts).map makerFill).sum % 2 ^ 256

section Accepted

variable {adapter : ZeroExApiAdapter} {sourceToken destinationToken destinationAddress : Address}
variable {sourceQuantity minDestinationQuantity signatures : Nat} {orders : List RfqOrder}
variable {takerTokenFillAmounts : List (BitVec 128)} {revertIfIncomplete : Bool}
variable {call : TradeCall ZeroExData}

theorem acceptedBatch (accepted : adapter.getTradeCalldata sourceToken destinationToken
      destinationAddress sourceQuantity minDestinationQuantity
      (.batchFillRfqOrders orders signatures takerTokenFillAmounts revertIfIncomplete) =
        .ok call) :
    AcceptedBatch sourceToken destinationToken sourceQuantity minDestinationQuantity orders
      takerTokenFillAmounts := by
  obtain ⟨trade, decoded, rfl, rfl, _, rfl, bought, _⟩ := getTradeCalldata_eq_ok accepted
  simp only [decodeTrade, bind_eq_ok, require_eq_ok, exists_const, readAt_eq_ok, pure_eq_ok]
    at decoded
  obtain ⟨_, _, first, read, ⟨input, output⟩, summed, rfl⟩ := decoded
  obtain ⟨enough, sums⟩ := (addFill_loop orders takerTokenFillAmounts _ le_rfl _).mp summed
  obtain ⟨rfl, rfl⟩ := Prod.ext_iff.mp sums
  have whole : (orders.zip takerTokenFillAmounts).take orders.length =
      orders.zip takerTokenFillAmounts := by
    refine List.take_of_length_le ?_
    rw [List.length_zip]
    exact Nat.min_le_left _ _
  rw [whole] at bought
  exact ⟨enough, ⟨first, by rw [List.head?_eq_getElem?, read], rfl, rfl⟩, rfl, bought⟩

/-- An accepted batch trades as requested exactly when its filled orders follow the first. -/
theorem AcceptedBatch.tradesRequestedPair_iff
    (batch : AcceptedBatch sourceToken destinationToken sourceQuantity minDestinationQuantity
      orders takerTokenFillAmounts) :
    TradesRequestedPair sourceToken destinationToken sourceQuantity minDestinationQuantity orders
        takerTokenFillAmounts ↔ FollowsFirstOrder orders takerTokenFillAmounts := by
  obtain ⟨first, head, taker, maker⟩ := batch.first
  constructor
  · rintro ⟨asMany, tokens, sold, _⟩
    refine ⟨asMany, fun other isFirst => ?_, ?_⟩
    · obtain rfl : first = other := Option.some.inj (head.symm.trans isFirst)
      rw [taker, maker]
      exact tokens
    · have wrapped := batch.sold
      rw [← asMany, List.take_length, sold] at wrapped
      rw [sold, ← wrapped]
      exact Nat.mod_lt _ (Nat.two_pow_pos 256)
  · rintro ⟨asMany, tokens, fits⟩
    have sold := batch.sold
    rw [← asMany, List.take_length, Nat.mod_eq_of_lt fits] at sold
    refine ⟨asMany, ?_, sold, batch.bought.trans (Nat.mod_le _ _)⟩
    rw [← taker, ← maker]
    exact tokens first head

theorem accepted_batch_trades_pair_iff
    (accepted : adapter.getTradeCalldata sourceToken destinationToken destinationAddress
      sourceQuantity minDestinationQuantity
      (.batchFillRfqOrders orders signatures takerTokenFillAmounts revertIfIncomplete) =
        .ok call) :
    TradesRequestedPair sourceToken destinationToken sourceQuantity minDestinationQuantity orders
        takerTokenFillAmounts ↔ FollowsFirstOrder orders takerTokenFillAmounts :=
  (acceptedBatch accepted).tradesRequestedPair_iff

end Accepted

/-- An order that sells one of the first token for two of the second. -/
def sampleOrder (takerToken makerToken : Address) : RfqOrder where
  makerToken := makerToken
  takerToken := takerToken
  makerAmount := 200
  takerAmount := 100
  maker := 5
  taker := 6
  txOrigin := 6
  pool := 0
  expiry := 99
  salt := 1

/-- A batch of two orders over the same tokens. -/
theorem accepted_batch_trades_pair_sample :
    ∃ call, getTradeCalldata ⟨9, 8⟩ 1 2 7 100 150
        (.batchFillRfqOrders [sampleOrder 1 2, sampleOrder 1 2] 0 [60, 40] true) = .ok call ∧
      TradesRequestedPair 1 2 100 150 [sampleOrder 1 2, sampleOrder 1 2] [60, 40] := by
  have accepted : getTradeCalldata ⟨9, 8⟩ 1 2 7 100 150
      (.batchFillRfqOrders [sampleOrder 1 2, sampleOrder 1 2] 0 [60, 40] true) = .ok ⟨9, 0, _⟩ :=
    rfl
  exact ⟨_, accepted, (accepted_batch_trades_pair_iff accepted).mpr
    ⟨by decide, by decide, by decide⟩⟩

/-- The second order sells another token for a third one, and the batch is accepted. -/
theorem accepted_batch_trades_other_tokens :
    ∃ call, getTradeCalldata ⟨9, 8⟩ 1 2 7 100 150
        (.batchFillRfqOrders [sampleOrder 1 2, sampleOrder 3 4] 0 [60, 40] true) = .ok call ∧
      ¬TradesRequestedPair 1 2 100 150 [sampleOrder 1 2, sampleOrder 3 4] [60, 40] := by
  refine ⟨_, rfl, fun requested => ?_⟩
  have tokens := requested.tokens (sampleOrder 3 4, 40) (by decide) (by decide)
  exact absurd tokens.1 (by decide)

end IndexProtocol

/-
This file gives the value an issuance or a redemption of perpetual positions
stores in closed form. It depends on what the protocol reports of the account and
on what it answers to the trades: the share of the account that is issued or
redeemed, plus or minus the quote of every trade, per Set token. The stored unit
is zero when that value is not positive, or less than the smallest unit of the
collateral.
-/

import IndexProtocol.System.PerpPositions

namespace IndexProtocol

open Revert PreciseUnitMath UnitConversionUtils

namespace PerpV2LeverageModuleV2

open PerpV2Positions

variable {Ledger : Type} {perp : PerpV2 Ledger} {module next : PerpV2LeverageModuleV2}
  {execution after : PerpExecution Ledger} {isIssue isSimulation : Bool}

/-! ### What the trades bring -/

/-- The base traded for a share of a position, truncated per Set token and for the quantity. -/
def tradedBase (quantity supply : Int) (info : PositionNotionalInfo) : Int :=
  ((info.baseBalance * preciseUnit).tdiv supply * quantity).tdiv preciseUnit

/-- Base is traded in on an issuance and out on a redemption. -/
def signedBase (quantity supply : Int) (isIssue : Bool) (info : PositionNotionalInfo) : Int :=
  if isIssue = true then tradedBase quantity supply info else -tradedBase quantity supply info

def tradeAction (quantity supply : Int) (isIssue : Bool) (info : PositionNotionalInfo) :
    PerpV2LibraryV2.ActionInfo where
  baseToken := info.baseToken
  isBuy := decide (0 < signedBase quantity supply isIssue info)
  baseTokenAmount := (signedBase quantity supply isIssue info).natAbs
  oppositeAmountBound := 0

/-- The answer to a trade, of the quoter or of the clearing house. -/
def answer (perp : PerpV2 Ledger) (module : Address) (isSimulation : Bool)
    (actionInfo : PerpV2LibraryV2.ActionInfo) (execution : PerpExecution Ledger) :
    Outcome (Nat × Nat × PerpExecution Ledger) :=
  if isSimulation then PerpV2LibraryV2.simulateTrade perp module actionInfo execution
  else PerpV2LibraryV2.executeTrade perp module actionInfo execution

/-- The quotes the protocol answers with to the trades in turn, as they enter the value: those
of long positions are added and those of short positions are subtracted. -/
def answeredQuotes (perp : PerpV2 Ledger) (module : Address)
    (quantity supply : Int) (isIssue isSimulation : Bool) :
    List PositionNotionalInfo → PerpExecution Ledger → List Int
  | [], _ => []
  | info :: rest, execution =>
    match answer perp module isSimulation (tradeAction quantity supply isIssue info) execution with
    | .ok (_, deltaQuote, next) =>
      (if 0 ≤ tradedBase quantity supply info then (deltaQuote : Int) else -deltaQuote) ::
        answeredQuotes perp module quantity supply isIssue isSimulation rest next
    | .error _ => []

/-- A trade adds the quote that is answered. -/
theorem tradePosition_eq_ok {quantity supply value issued : Int} {info : PositionNotionalInfo}
    (returned : tradePosition perp module quantity supply isIssue isSimulation (value, execution)
      info = .ok (issued, after)) : ∃ base deltaQuote,
    answer perp module.address isSimulation (tradeAction quantity supply isIssue info) execution =
        .ok (base, deltaQuote, after) ∧
      issued = value +
        if 0 ≤ tradedBase quantity supply info then (deltaQuote : Int) else -deltaQuote := by
  simp only [tradePosition, createActionInfoNotional, bind_eq_ok, preciseMulInt_eq_ok,
    SafeCast.toInt256_eq_ok, Prod.exists, pure_eq_ok, Prod.mk.injEq] at returned
  obtain ⟨_, divided, _, ⟨_, rfl⟩, signed, signing, _, ⟨amount, sized, rfl⟩, base, deltaQuote,
    traded, trading, _, ⟨_, rfl⟩, _, adding, rfl, rfl⟩ := returned
  obtain ⟨_, rfl⟩ := preciseDivInt_eq_ok divided
  have direction : signed = signedBase quantity supply isIssue info := by
    unfold signedBase tradedBase
    split at signing
    · rename_i issues
      rw [if_pos issues]
      exact ((pure_eq_ok _ _).mp signing).symm
    · rename_i redeems
      rw [if_neg redeems]
      exact ((PreciseUnitMath.neg_eq_ok _ _).mp signing).2.symm
  obtain rfl := PreciseUnitMath.abs_eq_ok sized
  refine ⟨base, deltaQuote, ?_, ?_⟩
  · rw [direction] at trading
    exact trading
  · split at adding
    · rename_i long
      have traded : 0 ≤ tradedBase quantity supply info := long
      rw [if_pos traded]
      exact ((SignedSafeMath.add_eq_ok _ _ _).mp adding).2.symm
    · rename_i short
      have traded : ¬0 ≤ tradedBase quantity supply info := short
      rw [if_neg traded]
      exact ((SignedSafeMath.sub_eq_ok _ _ _).mp adding).2.symm

theorem tradePositions_value {quantity supply : Int} (infos : List PositionNotionalInfo) :
    ∀ (value : Int) (execution : PerpExecution Ledger) {issued : Int},
      infos.foldlM (tradePosition perp module quantity supply isIssue isSimulation)
        (value, execution) = .ok (issued, after) →
      issued = value +
        (answeredQuotes perp module.address quantity supply isIssue isSimulation infos
          execution).sum := by
  induction infos with
  | nil =>
    intro value execution issued returned
    rw [List.foldlM_nil, pure_eq_ok, Prod.mk.injEq] at returned
    rw [answeredQuotes, List.sum_nil, add_zero]
    exact returned.1.symm
  | cons info rest inductionHypothesis =>
    intro value execution issued returned
    simp only [List.foldlM_cons, bind_eq_ok, Prod.exists] at returned
    obtain ⟨valued, middle, traded, looped⟩ := returned
    obtain ⟨base, deltaQuote, answered, rfl⟩ := tradePosition_eq_ok traded
    rw [inductionHypothesis _ _ looped, answeredQuotes, answered, List.sum_cons, add_assoc]

/-! ### The value issued or redeemed -/

/-- The list the trades go through. -/
def syncedPositions (perp : PerpV2 Ledger) (execution : PerpExecution Ledger)
    (module : PerpV2LeverageModuleV2) : List Address :=
  match module.syncPositionList perp execution with
  | .ok synced => synced.positions
  | .error _ => module.positions

/-- What the account is worth without its base balances, in precise units. -/
def partialAccountValue (perp : PerpV2 Ledger) (execution : PerpExecution Ledger)
    (module : PerpV2LeverageModuleV2) : Int :=
  let account := execution.world.setToken.address
  perp.getBalance account execution.ledger * decimalFactor module.collateralDecimals +
    perp.owedRealizedPnl account execution.ledger +
    execution.pendingFunding perp +
    ((module.syncedPositions perp execution).map fun baseToken =>
      perp.getQuote account baseToken execution.ledger).sum

/-- The share of the account and the quotes of the trades. -/
def realizedValue (perp : PerpV2 Ledger) (setTokenQuantity : Nat) (isIssue isSimulation : Bool)
    (execution : PerpExecution Ledger) (module : PerpV2LeverageModuleV2) : Int :=
  let supply := (execution.world.setToken.totalSupply : Int)
  ((module.partialAccountValue perp execution * preciseUnit).tdiv supply *
    setTokenQuantity).tdiv preciseUnit +
  (answeredQuotes perp module.address setTokenQuantity supply isIssue isSimulation
    (PerpV2Positions.getPositionNotionalInfo perp execution.world.setToken.address
      (module.syncedPositions perp execution) execution.ledger) execution).sum

theorem getNetQuoteBalance_eq_ok {setToken : Address} (baseTokens : List Address)
    {ledger : Ledger} {netQuoteBalance : Int}
    (returned : getNetQuoteBalance perp setToken baseTokens ledger = .ok netQuoteBalance) :
    netQuoteBalance = (baseTokens.map fun baseToken =>
      perp.getQuote setToken baseToken ledger).sum := by
  have folded := foldlM_eq_foldl _ (fun total baseToken =>
    total + perp.getQuote setToken baseToken ledger)
    (fun _ _ _ added => ((SignedSafeMath.add_eq_ok _ _ _).mp added).2.symm) baseTokens _ _ returned
  rw [folded, List.sum_eq_foldl, List.foldl_map]

theorem syncPositionList_stored
    (returned : module.syncPositionList perp execution = .ok next) :
    ∃ positions, next = { module with positions := positions } := by
  simp only [syncPositionList, bind_eq_ok, pure_eq_ok] at returned
  obtain ⟨positions, _, rfl⟩ := returned
  exact ⟨positions, rfl⟩

theorem calculatePartialAccountValuePositionUnit_eq_ok {unit : Int}
    (synced : module.syncedPositions perp execution = next.positions)
    (decimals : next.collateralDecimals = module.collateralDecimals)
    (returned : next.calculatePartialAccountValuePositionUnit perp execution = .ok unit) :
    unit = (module.partialAccountValue perp execution * preciseUnit).tdiv
      execution.world.setToken.totalSupply := by
  simp only [calculatePartialAccountValuePositionUnit, getAccountInfo,
    toPreciseUnitsFromDecimalsInt, bind_eq_ok, SignedSafeMath.mul_eq_ok, SignedSafeMath.add_eq_ok,
    PreciseUnitMath.neg_eq_ok, SafeCast.toInt256_eq_ok, pure_eq_ok] at returned
  obtain ⟨_, ⟨_, ⟨_, rfl⟩, _, ⟨_, rfl⟩, _, summed, rfl⟩, _, ⟨_, rfl⟩, _, ⟨_, rfl⟩, _, ⟨_, rfl⟩,
    _, ⟨_, rfl⟩, divided⟩ := returned
  obtain ⟨_, rfl⟩ := preciseDivInt_eq_ok divided
  rw [getNetQuoteBalance_eq_ok _ summed, decimals, ← synced]
  rfl

/-- The loop computes the realized value, whatever the protocol reports and answers. -/
theorem executePositionTrades_value {setTokenQuantity : Nat} {unit : Int}
    (returned : module.executePositionTrades perp setTokenQuantity isIssue isSimulation execution =
      .ok (unit, next, after)) :
    module.issuedPositionUnit
      (module.realizedValue perp setTokenQuantity isIssue isSimulation execution)
      setTokenQuantity isIssue = .ok unit := by
  simp only [executePositionTrades, bind_eq_ok, SafeCast.toInt256_eq_ok, preciseMulInt_eq_ok,
    Prod.exists, pure_eq_ok, Prod.mk.injEq] at returned
  obtain ⟨synced, syncing, _, ⟨_, rfl⟩, _, valued, _, ⟨_, rfl⟩, _, ⟨_, rfl⟩, _, _, looped, _,
    issued, rfl, rfl, rfl⟩ := returned
  have positions : module.syncedPositions perp execution = synced.positions := by
    unfold syncedPositions
    rw [syncing]
  obtain ⟨_, rfl⟩ := syncPositionList_stored syncing
  have unit := calculatePartialAccountValuePositionUnit_eq_ok positions rfl valued
  rw [tradePositions_value _ _ _ looped, unit] at issued
  unfold realizedValue
  rw [positions]
  exact issued

/-! ### The unit the value is stored as -/

/-- The value is positive and comes to at least the smallest unit of the collateral for each
token: rounded up for an issuance, down for a redemption. -/
def BacksUnit (value : Int) (setTokenQuantity : Nat) (isIssue : Bool)
    (module : PerpV2LeverageModuleV2) : Prop :=
  0 < value ∧
    if isIssue = true then
      ((decimalFactor module.collateralDecimals : Int) - 1) * setTokenQuantity < value * preciseUnit
    else (decimalFactor module.collateralDecimals : Int) * setTokenQuantity ≤ value * preciseUnit

instance (value : Int) (setTokenQuantity : Nat) :
    Decidable (module.BacksUnit value setTokenQuantity isIssue) :=
  inferInstanceAs (Decidable (0 < value ∧ if isIssue = true then
    ((decimalFactor module.collateralDecimals : Int) - 1) * setTokenQuantity < value * preciseUnit
    else (decimalFactor module.collateralDecimals : Int) * setTokenQuantity ≤ value * preciseUnit))

/-- The unit is never negative. -/
theorem issuedPositionUnit_eq_ok {value unit : Int} {setTokenQuantity : Nat}
    (returned : module.issuedPositionUnit value setTokenQuantity isIssue = .ok unit) :
    0 ≤ unit ∧ (unit ≠ 0 ↔ module.BacksUnit value setTokenQuantity isIssue) := by
  unfold issuedPositionUnit at returned
  split at returned
  · rename_i worthless
    obtain rfl := (pure_eq_ok _ _).mp returned
    exact ⟨le_rfl, iff_of_false (not_not.mpr rfl) fun backs => not_lt.mpr worthless backs.1⟩
  · rename_i positive
    have worth : 0 < value := not_le.mp positive
    simp only [fromPreciseUnitToDecimalsInt, bind_eq_ok, SignedSafeMath.div_eq_ok] at returned
    obtain ⟨valuePerSet, divided, factorNonzero, _, rfl⟩ := returned
    have factor : (0 : Int) < decimalFactor module.collateralDecimals :=
      lt_of_le_of_ne (Int.natCast_nonneg _) (Ne.symm factorNonzero)
    have product : 0 < value * preciseUnit := mul_pos worth preciseUnit_int_pos
    have rounded : 0 ≤ valuePerSet ∧
        ((decimalFactor module.collateralDecimals : Int) ≤ valuePerSet ↔
          module.BacksUnit value setTokenQuantity isIssue) := by
      unfold BacksUnit
      rw [and_iff_right worth]
      cases isIssue with
      | true =>
        rw [if_pos rfl] at divided ⊢
        obtain ⟨divisor, below, above⟩ :=
          preciseDivCeilInt_eq_ok worth.le (Int.natCast_nonneg _) divided
        refine ⟨?_, fun large => ?_, fun backs => ?_⟩
        · by_contra negative
          nlinarith
        · nlinarith
        · by_contra small
          nlinarith
      | false =>
        rw [if_neg Bool.false_ne_true] at divided ⊢
        obtain ⟨nonzero, rfl⟩ := preciseDivInt_eq_ok divided
        have divisor : (0 : Int) < setTokenQuantity :=
          lt_of_le_of_ne (Int.natCast_nonneg _) (Ne.symm nonzero)
        rw [Int.tdiv_eq_ediv_of_nonneg product.le]
        exact ⟨Int.ediv_nonneg product.le divisor.le, Int.le_ediv_iff_mul_le divisor⟩
    obtain ⟨nonneg, backs⟩ := rounded
    rw [Int.tdiv_eq_ediv_of_nonneg nonneg, ← backs]
    have quotient := Int.ediv_nonneg nonneg factor.le
    have least : 1 ≤ valuePerSet / decimalFactor module.collateralDecimals ↔
        (decimalFactor module.collateralDecimals : Int) ≤ valuePerSet := by
      rw [Int.le_ediv_iff_mul_le factor, one_mul]
    refine ⟨quotient, ?_⟩
    rw [← least]
    omega

/-- The unit in closed form. -/
def issuedUnit (value : Int) (setTokenQuantity : Nat) (isIssue : Bool)
    (module : PerpV2LeverageModuleV2) : Int :=
  if value ≤ 0 then 0
  else
    (if isIssue = true then (value * preciseUnit + setTokenQuantity - 1) / setTokenQuantity
      else value * preciseUnit / setTokenQuantity) / decimalFactor module.collateralDecimals

theorem issuedPositionUnit_eq_issuedUnit {value unit : Int} {setTokenQuantity : Nat}
    (returned : module.issuedPositionUnit value setTokenQuantity isIssue = .ok unit) :
    unit = module.issuedUnit value setTokenQuantity isIssue := by
  unfold issuedPositionUnit at returned
  unfold issuedUnit
  split at returned
  · rename_i worthless
    rw [if_pos worthless]
    exact ((pure_eq_ok _ _).mp returned).symm
  · rename_i positive
    have worth : 0 < value := not_le.mp positive
    have product : 0 < value * preciseUnit := mul_pos worth preciseUnit_int_pos
    rw [if_neg positive]
    simp only [fromPreciseUnitToDecimalsInt, bind_eq_ok, SignedSafeMath.div_eq_ok] at returned
    obtain ⟨valuePerSet, divided, _, _, rfl⟩ := returned
    cases isIssue with
    | true =>
      rw [if_pos rfl] at divided ⊢
      obtain ⟨divisor, below, above⟩ :=
        preciseDivCeilInt_eq_ok worth.le (Int.natCast_nonneg _) divided
      have rounded : (value * preciseUnit + setTokenQuantity - 1) / (setTokenQuantity : Int) =
          valuePerSet := by
        rw [Int.ediv_eq_iff_of_pos divisor]
        constructor <;> linarith
      have nonneg : 0 ≤ valuePerSet := by
        rw [← rounded]
        exact Int.ediv_nonneg (by linarith) divisor.le
      rw [rounded, Int.tdiv_eq_ediv_of_nonneg nonneg]
    | false =>
      rw [if_neg Bool.false_ne_true] at divided ⊢
      obtain ⟨_, rfl⟩ := preciseDivInt_eq_ok divided
      rw [Int.tdiv_eq_ediv_of_nonneg product.le, Int.tdiv_eq_ediv_of_nonneg
        (Int.ediv_nonneg product.le (Int.natCast_nonneg _))]

/-! ### Simulated trades -/

theorem executePositionTrades_simulated {setTokenQuantity : Nat} {unit : Int}
    (returned : module.executePositionTrades perp setTokenQuantity isIssue true execution =
      .ok (unit, next, after)) : after = execution := by
  simp only [executePositionTrades, bind_eq_ok, Prod.exists, pure_eq_ok, Prod.mk.injEq] at returned
  obtain ⟨_, _, _, _, _, _, _, _, _, _, _, _, looped, _, _, _, _, rfl⟩ := returned
  refine foldlM_invariant _ (fun traded : Int × PerpExecution Ledger => traded.2 = execution) _
    (fun before info traded _ same stepped => ?_) _ _ rfl looped
  obtain ⟨_, _, answered, _⟩ := tradePosition_eq_ok stepped
  exact (PerpExecution.invokeSwap_eq_ok answered).2.trans same

/-- The unit an adjustment is computed to: nothing without listed positions. -/
def previewedUnit (perp : PerpV2 Ledger) (setTokenQuantity : Nat) (isIssue : Bool)
    (execution : PerpExecution Ledger) (module : PerpV2LeverageModuleV2) : Int :=
  if 0 < module.positions.length then
    module.issuedUnit (module.realizedValue perp setTokenQuantity isIssue true execution)
      setTokenQuantity isIssue
  else 0

theorem getAdjustments_eq_ok {setTokenQuantity : Nat} {adjustments : List Int × List Int}
    (returned : module.getAdjustments perp setTokenQuantity isIssue execution =
      .ok (adjustments, next, after)) :
    after = execution ∧ (∃ positions, next = { module with positions := positions }) ∧
      module.formatAdjustments execution.world.setToken
        (module.previewedUnit perp setTokenQuantity isIssue execution) = .ok adjustments := by
  simp only [getAdjustments, bind_eq_ok, Prod.exists, pure_eq_ok, Prod.mk.injEq] at returned
  obtain ⟨unit, synced, simulated, chosen, _, _, formatted, rfl, rfl, rfl⟩ := returned
  unfold previewedUnit
  split at chosen
  · rename_i listed
    obtain rfl := executePositionTrades_simulated chosen
    obtain ⟨positions, rfl⟩ := syncPositionList_stored (executePositionTrades_synced chosen)
    rw [if_pos listed, ← issuedPositionUnit_eq_issuedUnit (executePositionTrades_value chosen)]
    exact ⟨rfl, ⟨positions, rfl⟩, formatted⟩
  · rename_i unlisted
    rw [pure_eq_ok, Prod.mk.injEq, Prod.mk.injEq] at chosen
    obtain ⟨rfl, rfl, rfl⟩ := chosen
    rw [if_neg unlisted]
    exact ⟨rfl, ⟨_, rfl⟩, formatted⟩

end PerpV2LeverageModuleV2

end IndexProtocol

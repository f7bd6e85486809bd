/-
This file compares the prices that a price adapter returns over an auction. The
linear adapter returns a price for every accepted configuration, and its prices
move one way. The other two convert the product of bucket and coefficient to a
signed argument without a check, so a product that is not below `2^255` may leave
the auction without a price, or send the price back. In all three the price
stays within the bounds of the configuration.
-/

import IndexProtocol.Integration.BoundedStepwiseLinearPriceAdapter
import IndexProtocol.Integration.BoundedStepwiseExponentialPriceAdapter
import IndexProtocol.Integration.BoundedStepwiseLogarithmicPriceAdapter

namespace IndexProtocol

open Revert CheckedMath

/-! ### Prices that are returned -/

/-- Which accepted configurations have a price at a time: all of the linear adapter, those of
the exponential one whose product is converted to an argument that is not negative or whose
scaled exponential is at least one, and those of the logarithmic one whose product is converted
to an argument above minus one. -/
theorem prices_returned_iff (data : Bytes) (timeElapsed : Nat) :
    (∀ params, BoundedStepwiseLinearPriceAdapter.getDecodedData data = .ok params →
      BoundedStepwiseLinearPriceAdapter.isPriceAdapterConfigDataValid data = .ok true →
      ∃ price, BoundedStepwiseLinearPriceAdapter.getPrice timeElapsed data = .ok price) ∧
    (∀ expWad, BoundedStepwiseExponentialPriceAdapter.ExpWadLaws expWad → ∀ params,
      BoundedStepwiseExponentialPriceAdapter.getDecodedData data = .ok params →
      BoundedStepwiseExponentialPriceAdapter.isPriceAdapterConfigDataValid data = .ok true →
      ((∃ price,
        BoundedStepwiseExponentialPriceAdapter.getPrice expWad timeElapsed data = .ok price) ↔
        params.timeCoefficient * (timeElapsed / params.bucketSize) < 2 ^ 255 ∨
        2 ^ 256 ≤ params.timeCoefficient * (timeElapsed / params.bucketSize) ∨
        ∃ exponential : Nat,
          expWad ((params.timeCoefficient * (timeElapsed / params.bucketSize) : Nat) - 2 ^ 256) =
            .ok exponential ∧
          BoundedStepwiseExponentialPriceAdapter.wad ≤ params.scalingFactor * exponential)) ∧
    (∀ lnWad, BoundedStepwiseLogarithmicPriceAdapter.LnWadLaws lnWad → ∀ params,
      BoundedStepwiseLogarithmicPriceAdapter.getDecodedData data = .ok params →
      BoundedStepwiseLogarithmicPriceAdapter.isPriceAdapterConfigDataValid data = .ok true →
      ((∃ price,
        BoundedStepwiseLogarithmicPriceAdapter.getPrice lnWad timeElapsed data = .ok price) ↔
        timeElapsed / params.bucketSize * params.timeCoefficient < 2 ^ 255 ∨
        2 ^ 256 - 10 ^ 18 < timeElapsed / params.bucketSize * params.timeCoefficient)) := by
  refine ⟨fun params decoded accepted => ?_, fun expWad laws params decoded accepted => ?_,
    fun lnWad laws params decoded accepted => ?_⟩
  · have valid := (BoundedStepwiseLinearPriceAdapter.isPriceAdapterConfigDataValid_eq_ok
      decoded).mp accepted
    exact ⟨_, (BoundedStepwiseLinearPriceAdapter.getPrice_eq_ok decoded).mpr ⟨valid, rfl⟩⟩
  · have valid := (BoundedStepwiseExponentialPriceAdapter.isPriceAdapterConfigDataValid_eq_ok
      decoded).mp accepted
    rw [← BoundedStepwiseExponentialPriceAdapter.exists_priceChange_iff laws valid]
    simp only [BoundedStepwiseExponentialPriceAdapter.getPrice_eq_ok decoded]
    constructor
    · rintro ⟨price, _, change, changed, _⟩
      exact ⟨change, changed⟩
    · rintro ⟨change, changed⟩
      exact ⟨_, valid, change, changed, rfl⟩
  · have valid := (BoundedStepwiseLogarithmicPriceAdapter.isPriceAdapterConfigDataValid_eq_ok
      decoded).mp accepted
    rw [← BoundedStepwiseLogarithmicPriceAdapter.exists_priceChange_iff laws]
    simp only [BoundedStepwiseLogarithmicPriceAdapter.getPrice_eq_ok decoded]
    constructor
    · rintro ⟨price, _, change, changed, _⟩
      exact ⟨change, changed⟩
    · rintro ⟨change, changed⟩
      exact ⟨_, valid, change, changed, rfl⟩

/-- An exponential with the values of the library at `-2^255`, at minus one and at zero. -/
def sampleExpWad (argument : Int) : Outcome Int :=
  if 135305999368893231589 ≤ argument then .error "ExpOverflow()"
  else if 0 ≤ argument then .ok 1000000000000000000
  else if -1000000000000000000 ≤ argument then .ok 367879441171442321
  else .ok 0

/-- A logarithm with the values of the library at one wei and at one. -/
def sampleLnWad (argument : Int) : Outcome Int :=
  if argument ≤ 0 then .error "LnWadUndefined()"
  else if argument < 1000000000000000000 then .ok (-41446531673892822313)
  else .ok 0

theorem sampleExpWad_laws :
    BoundedStepwiseExponentialPriceAdapter.ExpWadLaws sampleExpWad where
  int256 argument value computed := by
    unfold sampleExpWad at computed
    unfold FitsInt256
    split_ifs at computed <;> simp at computed <;> omega
  monotone first second low high order lowComputed highComputed := by
    unfold sampleExpWad at lowComputed highComputed
    split_ifs at lowComputed highComputed <;> simp at lowComputed highComputed <;> omega
  zero := rfl
  vanishing := by
    refine ⟨-1000000000000000001, fun argument small => ?_⟩
    unfold sampleExpWad
    rw [if_neg (by omega), if_neg (by omega), if_neg (by omega)]
  limited := by
    refine ⟨135305999368893231588, by decide, fun argument => ?_⟩
    unfold sampleExpWad
    split_ifs <;> simp <;> omega

theorem sampleLnWad_laws :
    BoundedStepwiseLogarithmicPriceAdapter.LnWadLaws sampleLnWad where
  int256 argument value computed := by
    unfold sampleLnWad at computed
    unfold FitsInt256
    split_ifs at computed <;> simp at computed <;> omega
  monotone first second low high order lowComputed highComputed := by
    unfold sampleLnWad at lowComputed highComputed
    split_ifs at lowComputed highComputed <;> simp at lowComputed highComputed <;> omega
  one := rfl
  defined argument _ := by
    unfold sampleLnWad
    split_ifs <;> simp <;> omega

/-- A falling auction whose product is `2^255` in the bucket after the first. -/
def steepParams : CurveParams where
  initialPrice := 10 ^ 18
  isDecreasing := true
  maxPrice := 10 ^ 18
  minPrice := 0
  initialPrice_lt := by decide
  maxPrice_lt := by decide
  scalingFactor := 1
  timeCoefficient := 2 ^ 255
  bucketSize := 1

theorem steepParams_fits : steepParams.Fits where
  scalingFactor := by decide
  timeCoefficient := by decide
  bucketSize := by decide
  minPrice := by decide

theorem steepParams_valid : steepParams.Valid where
  initialPrice := by decide
  scalingFactor := by decide
  timeCoefficient := by decide
  bucketSize := by decide
  enclosed := ⟨by decide, by decide⟩

/-- A falling auction that loses a thousandth of its initial price every hour. -/
def slopedParams : LinearParams where
  initialPrice := 10 ^ 18
  isDecreasing := true
  maxPrice := 10 ^ 18
  minPrice := 0
  initialPrice_lt := by decide
  maxPrice_lt := by decide
  slope := 10 ^ 15
  bucketSize := 3600

theorem slopedParams_fits : BoundedStepwiseLinearPriceAdapter.Fits slopedParams where
  slope := by decide
  bucketSize := by decide
  minPrice := by decide

theorem slopedParams_valid : BoundedStepwiseLinearPriceAdapter.Valid slopedParams where
  initialPrice := by decide
  slope := by decide
  bucketSize := by decide
  enclosed := ⟨by decide, by decide⟩

/-- The configuration is accepted, but has no price in the second bucket. -/
theorem prices_missing :
    BoundedStepwiseExponentialPriceAdapter.ExpWadLaws sampleExpWad ∧
    BoundedStepwiseExponentialPriceAdapter.isPriceAdapterConfigDataValid
      steepParams.getEncodedData = .ok true ∧
    (BoundedStepwiseExponentialPriceAdapter.getPrice sampleExpWad 1 steepParams.getEncodedData =
      .error "Panic(0x12)") ∧
    BoundedStepwiseLogarithmicPriceAdapter.LnWadLaws sampleLnWad ∧
    BoundedStepwiseLogarithmicPriceAdapter.isPriceAdapterConfigDataValid
      steepParams.getEncodedData = .ok true ∧
    (BoundedStepwiseLogarithmicPriceAdapter.getPrice sampleLnWad 1 steepParams.getEncodedData =
      .error "LnWadUndefined()") := by
  have decoded := CurveParams.getDecodedData_getEncodedData steepParams_fits
  refine ⟨sampleExpWad_laws, ?_, ?_, sampleLnWad_laws, ?_, ?_⟩
  · exact (BoundedStepwiseExponentialPriceAdapter.isPriceAdapterConfigDataValid_eq_ok
      decoded).mpr steepParams_valid
  · unfold BoundedStepwiseExponentialPriceAdapter.getPrice
      BoundedStepwiseExponentialPriceAdapter.getDecodedData
    rw [decoded]
    rfl
  · exact (BoundedStepwiseLogarithmicPriceAdapter.isPriceAdapterConfigDataValid_eq_ok
      decoded).mpr steepParams_valid
  · unfold BoundedStepwiseLogarithmicPriceAdapter.getPrice
      BoundedStepwiseLogarithmicPriceAdapter.getDecodedData
    rw [decoded]
    rfl

/-- The steep configuration has a price in the third bucket, where the product overflows. -/
theorem prices_returned_iff_steep :
    (∃ price, BoundedStepwiseLinearPriceAdapter.getPrice 7200
      (BoundedStepwiseLinearPriceAdapter.getEncodedData slopedParams) = .ok price) ∧
    ((∃ price, BoundedStepwiseExponentialPriceAdapter.getPrice sampleExpWad 2
      steepParams.getEncodedData = .ok price) ∧
      ¬ ∃ price, BoundedStepwiseExponentialPriceAdapter.getPrice sampleExpWad 1
        steepParams.getEncodedData = .ok price) ∧
    ((∃ price, BoundedStepwiseLogarithmicPriceAdapter.getPrice sampleLnWad 2
      steepParams.getEncodedData = .ok price) ∧
      ¬ ∃ price, BoundedStepwiseLogarithmicPriceAdapter.getPrice sampleLnWad 1
        steepParams.getEncodedData = .ok price) := by
  have sloped :=
    BoundedStepwiseLinearPriceAdapter.getDecodedData_getEncodedData slopedParams_fits
  have steep := CurveParams.getDecodedData_getEncodedData steepParams_fits
  have slopedAccepted :=
    (BoundedStepwiseLinearPriceAdapter.isPriceAdapterConfigDataValid_eq_ok sloped).mpr
      slopedParams_valid
  have exponential :=
    (BoundedStepwiseExponentialPriceAdapter.isPriceAdapterConfigDataValid_eq_ok steep).mpr
      steepParams_valid
  have logarithmic :=
    (BoundedStepwiseLogarithmicPriceAdapter.isPriceAdapterConfigDataValid_eq_ok steep).mpr
      steepParams_valid
  refine ⟨(prices_returned_iff _ _).1 _ sloped slopedAccepted, ⟨?_, ?_⟩, ?_, ?_⟩
  · exact ((prices_returned_iff _ _).2.1 _ sampleExpWad_laws _ steep exponential).mpr
      (Or.inr (Or.inl (by decide)))
  · rw [(prices_returned_iff _ _).2.1 _ sampleExpWad_laws _ steep exponential]
    rintro (below | above | ⟨exponential, computed, enough⟩)
    · exact absurd below (by decide)
    · exact absurd above (by decide)
    · have zero : exponential = 0 := by
        have value : sampleExpWad (-2 ^ 255) = .ok 0 := rfl
        exact_mod_cast Except.ok.inj (computed.symm.trans value)
      exact absurd enough (by rw [zero]; decide)
  · exact ((prices_returned_iff _ _).2.2 _ sampleLnWad_laws _ steep logarithmic).mpr
      (Or.inr (by decide))
  · rw [(prices_returned_iff _ _).2.2 _ sampleLnWad_laws _ steep logarithmic]
    rintro (below | above)
    · exact absurd below (by decide)
    · exact absurd above (by decide)

/-! ### Prices that move one way -/

/-- The prices of an earlier and a later time are equal in one bucket, and in different buckets
do not move back. -/
def MovesOneWay (isDecreasing : Bool) (firstBucket secondBucket first second : Nat) : Prop :=
  if firstBucket = secondBucket then first = second
  else if isDecreasing then second ≤ first else first ≤ second

/-- Prices move one way exactly when their changes do, unless the bound is reached. -/
theorem PriceBounds.movesOneWay_iff {bounds : PriceBounds} (enclosed : bounds.Enclosed)
    {firstBucket secondBucket : Nat} {first second : ℕ∞}
    (same : firstBucket = secondBucket → bounds.priceAfter first = bounds.priceAfter second) :
    MovesOneWay bounds.isDecreasing firstBucket secondBucket (bounds.priceAfter first)
      (bounds.priceAfter second) ↔ first ≤ second ∨ (bounds.room : ℕ∞) ≤ second := by
  rw [room, ← Clamping.clamped_ordered_iff first second enclosed.1 enclosed.2]
  unfold MovesOneWay
  by_cases equal : firstBucket = secondBucket
  · rw [if_pos equal]
    refine iff_of_true (same equal) ?_
    have prices := same equal
    unfold priceAfter at prices
    split
    · exact prices.ge
    · exact prices.le
  · rw [if_neg equal]
    rfl

/-- When the prices of two times move one way: always for the linear adapter, and for the other
two when the buckets are in order. -/
theorem prices_ordered_iff (data : Bytes) (firstTime secondTime : Nat)
    (order : firstTime ≤ secondTime) (first second : Nat) :
    (∀ params, BoundedStepwiseLinearPriceAdapter.getDecodedData data = .ok params →
      BoundedStepwiseLinearPriceAdapter.getPrice firstTime data = .ok first →
      BoundedStepwiseLinearPriceAdapter.getPrice secondTime data = .ok second →
      MovesOneWay params.isDecreasing (firstTime / params.bucketSize)
        (secondTime / params.bucketSize) first second) ∧
    (∀ expWad, BoundedStepwiseExponentialPriceAdapter.ExpWadLaws expWad → ∀ params,
      BoundedStepwiseExponentialPriceAdapter.getDecodedData data = .ok params →
      BoundedStepwiseExponentialPriceAdapter.getPrice expWad firstTime data = .ok first →
      BoundedStepwiseExponentialPriceAdapter.getPrice expWad secondTime data = .ok second →
      (MovesOneWay params.isDecreasing (firstTime / params.bucketSize)
        (secondTime / params.bucketSize) first second ↔
        BoundedStepwiseExponentialPriceAdapter.InOrder expWad params
          (firstTime / params.bucketSize) (secondTime / params.bucketSize))) ∧
    (∀ lnWad, BoundedStepwiseLogarithmicPriceAdapter.LnWadLaws lnWad → ∀ params,
      BoundedStepwiseLogarithmicPriceAdapter.getDecodedData data = .ok params →
      BoundedStepwiseLogarithmicPriceAdapter.getPrice lnWad firstTime data = .ok first →
      BoundedStepwiseLogarithmicPriceAdapter.getPrice lnWad secondTime data = .ok second →
      (MovesOneWay params.isDecreasing (firstTime / params.bucketSize)
        (secondTime / params.bucketSize) first second ↔
        BoundedStepwiseLogarithmicPriceAdapter.InOrder lnWad params
          (firstTime / params.bucketSize) (secondTime / params.bucketSize))) := by
  refine ⟨fun params decoded firstReturned secondReturned => ?_,
    fun expWad laws params decoded firstReturned secondReturned => ?_,
    fun lnWad laws params decoded firstReturned secondReturned => ?_⟩
  · rw [BoundedStepwiseLinearPriceAdapter.getPrice_eq_ok decoded] at firstReturned secondReturned
    obtain ⟨valid, rfl⟩ := firstReturned
    obtain ⟨_, rfl⟩ := secondReturned
    rw [PriceBounds.movesOneWay_iff valid.enclosed fun same => by rw [same]]
    exact Or.inl (BoundedStepwiseLinearPriceAdapter.priceChange_mono params
      (Nat.div_le_div_right order))
  · rw [BoundedStepwiseExponentialPriceAdapter.getPrice_eq_ok decoded]
      at firstReturned secondReturned
    obtain ⟨valid, firstChange, firstChanged, rfl⟩ := firstReturned
    obtain ⟨_, secondChange, secondChanged, rfl⟩ := secondReturned
    rw [PriceBounds.movesOneWay_iff valid.enclosed fun same =>
        firstChanged.priceAfter_eq valid (same ▸ secondChanged),
      firstChanged.ordered_iff laws valid secondChanged (Nat.div_le_div_right order)]
  · rw [BoundedStepwiseLogarithmicPriceAdapter.getPrice_eq_ok decoded]
      at firstReturned secondReturned
    obtain ⟨valid, firstChange, firstChanged, rfl⟩ := firstReturned
    obtain ⟨_, secondChange, secondChanged, rfl⟩ := secondReturned
    rw [PriceBounds.movesOneWay_iff valid.enclosed fun same =>
        firstChanged.priceAfter_eq valid (same ▸ secondChanged),
      firstChanged.ordered_iff laws valid secondChanged (Nat.div_le_div_right order)]

/-- A falling auction whose product is converted to minus one in the second bucket. -/
def reboundParams : CurveParams where
  initialPrice := 5 * 10 ^ 18
  isDecreasing := true
  maxPrice := 5 * 10 ^ 18
  minPrice := 0
  initialPrice_lt := by decide
  maxPrice_lt := by decide
  scalingFactor := 3
  timeCoefficient := 2 ^ 256 - 10 ^ 18
  bucketSize := 1

theorem reboundParams_fits : reboundParams.Fits where
  scalingFactor := by decide
  timeCoefficient := by decide
  bucketSize := by decide
  minPrice := by decide

theorem reboundParams_valid : reboundParams.Valid where
  initialPrice := by decide
  scalingFactor := by decide
  timeCoefficient := by decide
  bucketSize := by decide
  enclosed := ⟨by decide, by decide⟩

/-- The price rises from the first bucket to the second. -/
theorem prices_rebound :
    BoundedStepwiseExponentialPriceAdapter.ExpWadLaws sampleExpWad ∧
    BoundedStepwiseExponentialPriceAdapter.isPriceAdapterConfigDataValid
      reboundParams.getEncodedData = .ok true ∧
    ∃ first second,
      BoundedStepwiseExponentialPriceAdapter.getPrice sampleExpWad 0
        reboundParams.getEncodedData = .ok first ∧
      BoundedStepwiseExponentialPriceAdapter.getPrice sampleExpWad 1
        reboundParams.getEncodedData = .ok second ∧
      ¬ MovesOneWay reboundParams.isDecreasing (0 / reboundParams.bucketSize)
        (1 / reboundParams.bucketSize) first second := by
  have decoded := CurveParams.getDecodedData_getEncodedData reboundParams_fits
  refine ⟨sampleExpWad_laws, ?_, 3000000000000000000, 4896361676485673037, ?_, ?_, ?_⟩
  · exact (BoundedStepwiseExponentialPriceAdapter.isPriceAdapterConfigDataValid_eq_ok
      decoded).mpr reboundParams_valid
  · unfold BoundedStepwiseExponentialPriceAdapter.getPrice
      BoundedStepwiseExponentialPriceAdapter.getDecodedData
    rw [decoded]
    decide +kernel
  · unfold BoundedStepwiseExponentialPriceAdapter.getPrice
      BoundedStepwiseExponentialPriceAdapter.getDecodedData
    rw [decoded]
    decide +kernel
  · unfold MovesOneWay
    decide

/-- The prices of the two samples, before and after they have fallen. -/
theorem sloped_prices :
    BoundedStepwiseLinearPriceAdapter.getPrice 0
      (BoundedStepwiseLinearPriceAdapter.getEncodedData slopedParams) =
        .ok 1000000000000000000 ∧
    BoundedStepwiseLinearPriceAdapter.getPrice 7200
      (BoundedStepwiseLinearPriceAdapter.getEncodedData slopedParams) =
        .ok 998000000000000000 := by
  unfold BoundedStepwiseLinearPriceAdapter.getPrice
  rw [BoundedStepwiseLinearPriceAdapter.getDecodedData_getEncodedData slopedParams_fits]
  decide +kernel

theorem steep_exponential_prices :
    BoundedStepwiseExponentialPriceAdapter.getPrice sampleExpWad 0 steepParams.getEncodedData =
      .ok 1000000000000000000 ∧
    BoundedStepwiseExponentialPriceAdapter.getPrice sampleExpWad 2 steepParams.getEncodedData =
      .ok 0 := by
  unfold BoundedStepwiseExponentialPriceAdapter.getPrice
    BoundedStepwiseExponentialPriceAdapter.getDecodedData
  rw [CurveParams.getDecodedData_getEncodedData steepParams_fits]
  decide +kernel

theorem steep_logarithmic_prices :
    BoundedStepwiseLogarithmicPriceAdapter.getPrice sampleLnWad 0 steepParams.getEncodedData =
      .ok 1000000000000000000 ∧
    BoundedStepwiseLogarithmicPriceAdapter.getPrice sampleLnWad 2 steepParams.getEncodedData =
      .ok 0 := by
  unfold BoundedStepwiseLogarithmicPriceAdapter.getPrice
    BoundedStepwiseLogarithmicPriceAdapter.getDecodedData
  rw [CurveParams.getDecodedData_getEncodedData steepParams_fits]
  decide +kernel

/-- A product that overflows is in order with every earlier one. -/
theorem prices_ordered_iff_steep :
    MovesOneWay true 0 2 1000000000000000000 998000000000000000 ∧
    (MovesOneWay true 0 2 1000000000000000000 0 ∧
      BoundedStepwiseExponentialPriceAdapter.InOrder sampleExpWad steepParams 0 2) ∧
    MovesOneWay true 0 2 1000000000000000000 0 ∧
      BoundedStepwiseLogarithmicPriceAdapter.InOrder sampleLnWad steepParams 0 2 := by
  have sloped :=
    BoundedStepwiseLinearPriceAdapter.getDecodedData_getEncodedData slopedParams_fits
  have steep := CurveParams.getDecodedData_getEncodedData steepParams_fits
  have exponential : BoundedStepwiseExponentialPriceAdapter.InOrder sampleExpWad steepParams 0 2 :=
    fun _ _ below => absurd below (by decide)
  have logarithmic : BoundedStepwiseLogarithmicPriceAdapter.InOrder sampleLnWad steepParams 0 2 :=
    fun _ below => absurd below (by decide)
  exact ⟨(prices_ordered_iff _ 0 7200 (by decide) _ _).1 _ sloped sloped_prices.1
      sloped_prices.2,
    ⟨((prices_ordered_iff _ 0 2 (by decide) _ _).2.1 _ sampleExpWad_laws _ steep
      steep_exponential_prices.1 steep_exponential_prices.2).mpr exponential, exponential⟩,
    ((prices_ordered_iff _ 0 2 (by decide) _ _).2.2 _ sampleLnWad_laws _ steep
      steep_logarithmic_prices.1 steep_logarithmic_prices.2).mpr logarithmic, logarithmic⟩

/-! ### Prices within the bounds -/

/-- Whatever the exponential and the logarithm return, a price that is returned is within the
bounds of the configuration. -/
theorem prices_within_bounds (data : Bytes) (timeElapsed price : Nat) :
    (∀ params, BoundedStepwiseLinearPriceAdapter.getDecodedData data = .ok params →
      BoundedStepwiseLinearPriceAdapter.getPrice timeElapsed data = .ok price →
      params.minPrice ≤ price ∧ price ≤ params.maxPrice) ∧
    (∀ expWad params, BoundedStepwiseExponentialPriceAdapter.getDecodedData data = .ok params →
      BoundedStepwiseExponentialPriceAdapter.getPrice expWad timeElapsed data = .ok price →
      params.minPrice ≤ price ∧ price ≤ params.maxPrice) ∧
    (∀ lnWad params, BoundedStepwiseLogarithmicPriceAdapter.getDecodedData data = .ok params →
      BoundedStepwiseLogarithmicPriceAdapter.getPrice lnWad timeElapsed data = .ok price →
      params.minPrice ≤ price ∧ price ≤ params.maxPrice) := by
  refine ⟨fun params decoded returned => ?_, fun expWad params decoded returned => ?_,
    fun lnWad params decoded returned => ?_⟩
  · obtain ⟨valid, rfl⟩ :=
      (BoundedStepwiseLinearPriceAdapter.getPrice_eq_ok decoded).mp returned
    exact Clamping.clamped_mem _ valid.enclosed.1 valid.enclosed.2
  · obtain ⟨valid, change, _, rfl⟩ :=
      (BoundedStepwiseExponentialPriceAdapter.getPrice_eq_ok decoded).mp returned
    exact Clamping.clamped_mem _ valid.enclosed.1 valid.enclosed.2
  · obtain ⟨valid, change, _, rfl⟩ :=
      (BoundedStepwiseLogarithmicPriceAdapter.getPrice_eq_ok decoded).mp returned
    exact Clamping.clamped_mem _ valid.enclosed.1 valid.enclosed.2

/-- The prices of the samples are within their bounds. -/
theorem prices_within_bounds_steep :
    (slopedParams.minPrice ≤ 998000000000000000 ∧
      998000000000000000 ≤ slopedParams.maxPrice) ∧
    (steepParams.minPrice ≤ 0 ∧ 0 ≤ steepParams.maxPrice) ∧
    steepParams.minPrice ≤ 1000000000000000000 ∧
      1000000000000000000 ≤ steepParams.maxPrice := by
  have sloped :=
    BoundedStepwiseLinearPriceAdapter.getDecodedData_getEncodedData slopedParams_fits
  have steep := CurveParams.getDecodedData_getEncodedData steepParams_fits
  exact ⟨(prices_within_bounds _ _ _).1 _ sloped sloped_prices.2,
    (prices_within_bounds _ _ _).2.1 _ _ steep steep_exponential_prices.2,
    (prices_within_bounds _ _ _).2.2 _ _ steep steep_logarithmic_prices.1⟩

end IndexProtocol

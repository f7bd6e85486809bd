/-
This file looks at the first price of an auction. In the first time bucket the
linear and the logarithmic adapter have no price change, whatever their slope or
factor is. The exponential adapter subtracts one from the scaled exponential,
which is the value of the curve at zero only if the factor is one; with a larger
factor the auction opens off its initial price, unless that is where the price
must stop.
-/

import IndexProtocol.System.AuctionPrices

namespace IndexProtocol

open Revert CheckedMath

/-! ### The first bucket -/

/-- Which change leaves the price at its start. -/
theorem PriceBounds.priceAfter_eq_initialPrice_iff {bounds : PriceBounds}
    (enclosed : bounds.Enclosed) (change : ℕ∞) :
    bounds.priceAfter change = bounds.initialPrice ↔
      change = 0 ∨ bounds.getBoundaryPrice = bounds.initialPrice :=
  Clamping.clamped_eq_start_iff change enclosed.1 enclosed.2

namespace BoundedStepwiseLinearPriceAdapter

theorem priceChange_zero (params : LinearParams) : priceChange params 0 = 0 := by
  unfold priceChange
  rw [zero_mul, checkedChange_of_le (Nat.zero_le _)]
  rfl

end BoundedStepwiseLinearPriceAdapter

namespace BoundedStepwiseLogarithmicPriceAdapter

variable {lnWad : Int → Outcome Int} {params : CurveParams}

/-- The logarithm of one is no change. -/
theorem priceChange_zero (one : lnWad 1000000000000000000 = .ok 0) :
    PriceChange lnWad params 0 0 := by
  have noBucket : 0 * params.timeCoefficient = 0 := Nat.zero_mul _
  have nothing : params.scalingFactor * toUint256 0 = 0 := Nat.mul_zero _
  have changed : PriceChange lnWad params 0 (params.scalingFactor * toUint256 0 : Nat) := by
    refine .change 0 (noBucket.trans_le (Nat.zero_le _)) ?_ ?_ ?_
      (nothing.trans_le (Nat.zero_le _))
    all_goals rw [noBucket]
    · decide
    · decide
    · exact one
  rwa [nothing] at changed

end BoundedStepwiseLogarithmicPriceAdapter

namespace BoundedStepwiseExponentialPriceAdapter

variable {expWad : Int → Outcome Int}

/-- The scaled exponential of zero less one is a change, unless the factor is one. -/
theorem exists_priceChange_zero (params : CurveParams) (zero : expWad 0 = .ok 1000000000000000000)
    (factor : 0 < params.scalingFactor) :
    ∃ change, PriceChange expWad params 0 change ∧ (change = 0 ↔ params.scalingFactor = 1) := by
  have noBucket : params.timeCoefficient * 0 = 0 := Nat.mul_zero _
  have exponential : toUint256 1000000000000000000 = wad := by decide
  have whole : (0 : Nat) < wad := by decide
  have computed : expWad (toInt256 (params.timeCoefficient * 0)) = .ok 1000000000000000000 := by
    rw [noBucket]
    exact zero
  have fits : params.timeCoefficient * 0 ≤ uint256Max := noBucket.trans_le (Nat.zero_le _)
  have small : toInt256 (params.timeCoefficient * 0) ≤ maxExpArg := by
    rw [noBucket]
    decide
  rcases Nat.lt_or_ge uint256Max (params.scalingFactor * toUint256 1000000000000000000)
    with exceeds | within
  · refine ⟨⊤, .changeOverflow _ fits small computed exceeds, ?_⟩
    refine iff_of_false ENat.top_ne_zero fun one => ?_
    rw [one, one_mul, exponential] at exceeds
    exact absurd exceeds (by decide)
  · have enough : wad ≤ params.scalingFactor * toUint256 1000000000000000000 := by
      rw [exponential]
      exact Nat.le_mul_of_pos_left wad factor
    refine ⟨_, .change _ fits small computed within enough, ?_⟩
    rw [exponential, Nat.cast_eq_zero, Nat.sub_eq_zero_iff_le]
    constructor
    · intro bounded
      have atMost : params.scalingFactor ≤ 1 :=
        Nat.le_of_mul_le_mul_right (bounded.trans_eq (one_mul _).symm) whole
      omega
    · intro one
      rw [one, one_mul]

end BoundedStepwiseExponentialPriceAdapter

/-! ### Opening at the initial price -/

/-- In the first bucket an accepted configuration of the linear and of the logarithmic adapter
has the initial price; one of the exponential adapter has it exactly when the scaling factor is
one or the initial price is the bound the price moves to. -/
theorem opening_price_iff (data : Bytes) (timeElapsed : Nat) :
    (∀ params, BoundedStepwiseLinearPriceAdapter.getDecodedData data = .ok params →
      BoundedStepwiseLinearPriceAdapter.isPriceAdapterConfigDataValid data = .ok true →
      timeElapsed < params.bucketSize →
      BoundedStepwiseLinearPriceAdapter.getPrice timeElapsed data = .ok params.initialPrice) ∧
    (∀ expWad, expWad 0 = .ok 1000000000000000000 → ∀ params,
      BoundedStepwiseExponentialPriceAdapter.getDecodedData data = .ok params →
      BoundedStepwiseExponentialPriceAdapter.isPriceAdapterConfigDataValid data = .ok true →
      timeElapsed < params.bucketSize →
      (BoundedStepwiseExponentialPriceAdapter.getPrice expWad timeElapsed data =
          .ok params.initialPrice ↔
        params.scalingFactor = 1 ∨ params.getBoundaryPrice = params.initialPrice)) ∧
    (∀ lnWad, lnWad 1000000000000000000 = .ok 0 → ∀ params,
      BoundedStepwiseLogarithmicPriceAdapter.getDecodedData data = .ok params →
      BoundedStepwiseLogarithmicPriceAdapter.isPriceAdapterConfigDataValid data = .ok true →
      timeElapsed < params.bucketSize →
      BoundedStepwiseLogarithmicPriceAdapter.getPrice lnWad timeElapsed data =
        .ok params.initialPrice) := by
  refine ⟨fun params decoded accepted early => ?_,
    fun expWad zero params decoded accepted early => ?_,
    fun lnWad one params decoded accepted early => ?_⟩
  · have valid := (BoundedStepwiseLinearPriceAdapter.isPriceAdapterConfigDataValid_eq_ok
      decoded).mp accepted
    rw [BoundedStepwiseLinearPriceAdapter.getPrice_eq_ok decoded, Nat.div_eq_of_lt early,
      BoundedStepwiseLinearPriceAdapter.priceChange_zero]
    exact ⟨valid, (PriceBounds.priceAfter_eq_initialPrice_iff valid.enclosed 0).mpr (Or.inl rfl)⟩
  · have valid := (BoundedStepwiseExponentialPriceAdapter.isPriceAdapterConfigDataValid_eq_ok
      decoded).mp accepted
    obtain ⟨change, changed, none⟩ :=
      BoundedStepwiseExponentialPriceAdapter.exists_priceChange_zero params zero
        valid.scalingFactor
    rw [← none, ← PriceBounds.priceAfter_eq_initialPrice_iff valid.enclosed,
      BoundedStepwiseExponentialPriceAdapter.getPrice_eq_ok decoded, and_iff_right valid]
    rw [← Nat.div_eq_of_lt early] at changed
    constructor
    · rintro ⟨other, otherChanged, opening⟩
      exact (changed.priceAfter_eq valid otherChanged).trans opening
    · exact fun opening => ⟨change, changed, opening⟩
  · have valid := (BoundedStepwiseLogarithmicPriceAdapter.isPriceAdapterConfigDataValid_eq_ok
      decoded).mp accepted
    rw [BoundedStepwiseLogarithmicPriceAdapter.getPrice_eq_ok decoded, Nat.div_eq_of_lt early]
    exact ⟨valid, 0, BoundedStepwiseLogarithmicPriceAdapter.priceChange_zero one,
      (PriceBounds.priceAfter_eq_initialPrice_iff valid.enclosed 0).mpr (Or.inl rfl)⟩

/-- The falling auctions of the samples open at their initial price; with a factor of three the
exponential one does not. -/
theorem opening_price_iff_sample :
    BoundedStepwiseLinearPriceAdapter.getPrice 3599
      (BoundedStepwiseLinearPriceAdapter.getEncodedData slopedParams) =
        .ok slopedParams.initialPrice ∧
    BoundedStepwiseExponentialPriceAdapter.getPrice sampleExpWad 0 steepParams.getEncodedData =
      .ok steepParams.initialPrice ∧
    (¬ BoundedStepwiseExponentialPriceAdapter.getPrice sampleExpWad 0
      reboundParams.getEncodedData = .ok reboundParams.initialPrice) ∧
    BoundedStepwiseLogarithmicPriceAdapter.getPrice sampleLnWad 0 steepParams.getEncodedData =
      .ok steepParams.initialPrice := by
  have sloped :=
    BoundedStepwiseLinearPriceAdapter.getDecodedData_getEncodedData slopedParams_fits
  have steep := CurveParams.getDecodedData_getEncodedData steepParams_fits
  have rebound := CurveParams.getDecodedData_getEncodedData reboundParams_fits
  refine ⟨?_, ?_, ?_, ?_⟩
  · exact (opening_price_iff _ 3599).1 _ sloped
      ((BoundedStepwiseLinearPriceAdapter.isPriceAdapterConfigDataValid_eq_ok sloped).mpr
        slopedParams_valid) (by decide)
  · exact ((opening_price_iff _ 0).2.1 sampleExpWad rfl _ steep
      ((BoundedStepwiseExponentialPriceAdapter.isPriceAdapterConfigDataValid_eq_ok steep).mpr
        steepParams_valid) (by decide)).mpr (Or.inl rfl)
  · rw [(opening_price_iff _ 0).2.1 sampleExpWad rfl _ rebound
      ((BoundedStepwiseExponentialPriceAdapter.isPriceAdapterConfigDataValid_eq_ok rebound).mpr
        reboundParams_valid) (by decide)]
    decide
  · exact (opening_price_iff _ 0).2.2 sampleLnWad rfl _ steep
      ((BoundedStepwiseLogarithmicPriceAdapter.isPriceAdapterConfigDataValid_eq_ok steep).mpr
        steepParams_valid) (by decide)

/-- An accepted configuration with a scaling factor of three does not open at its initial
price. -/
theorem opening_price_differs :
    ¬∀ (expWad : Int → Outcome Int) (data : Bytes) (params : CurveParams) (timeElapsed : Nat),
      expWad 0 = .ok 1000000000000000000 →
      BoundedStepwiseExponentialPriceAdapter.getDecodedData data = .ok params →
      BoundedStepwiseExponentialPriceAdapter.isPriceAdapterConfigDataValid data = .ok true →
      timeElapsed < params.bucketSize →
      BoundedStepwiseExponentialPriceAdapter.getPrice expWad timeElapsed data =
        .ok params.initialPrice := by
  intro claim
  have decoded := CurveParams.getDecodedData_getEncodedData reboundParams_fits
  have accepted :=
    (BoundedStepwiseExponentialPriceAdapter.isPriceAdapterConfigDataValid_eq_ok decoded).mpr
      reboundParams_valid
  have opening := claim sampleExpWad _ reboundParams 0 rfl decoded accepted (by decide)
  have lower : BoundedStepwiseExponentialPriceAdapter.getPrice sampleExpWad 0
      reboundParams.getEncodedData = .ok 3000000000000000000 := by
    unfold BoundedStepwiseExponentialPriceAdapter.getPrice
      BoundedStepwiseExponentialPriceAdapter.getDecodedData
    rw [decoded]
    decide +kernel
  rw [lower, Except.ok.injEq] at opening
  exact absurd opening (by decide)

end IndexProtocol

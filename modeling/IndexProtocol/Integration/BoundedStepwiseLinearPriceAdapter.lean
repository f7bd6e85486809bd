/-
This file models the linear price adapter: the price moves by the slope at every
time bucket. Its price is a function of the bucket, infinite changes included,
and it returns one for every valid configuration.
-/

import IndexProtocol.Integration.StepwisePrice

namespace IndexProtocol

open Revert CheckedMath

structure LinearParams extends PriceBounds where
  slope : Nat
  bucketSize : Nat

namespace BoundedStepwiseLinearPriceAdapter

def areParamsValid (initialPrice slope bucketSize maxPrice minPrice : Nat) : Bool :=
  decide (0 < initialPrice) && decide (0 < slope) && decide (0 < bucketSize) &&
    decide (initialPrice ≤ maxPrice) && decide (minPrice ≤ initialPrice)

def isValid (params : LinearParams) : Bool :=
  areParamsValid params.initialPrice params.slope params.bucketSize params.maxPrice
    params.minPrice

def getEncodedData (params : LinearParams) : Bytes :=
  AbiCoder.encodeUint256 params.initialPrice ++ (AbiCoder.encodeUint256 params.slope ++
    (AbiCoder.encodeUint256 params.bucketSize ++ (AbiCoder.encodeBool params.isDecreasing ++
    (AbiCoder.encodeUint256 params.maxPrice ++ AbiCoder.encodeUint256 params.minPrice))))

def getDecodedData (data : Bytes) : Outcome LinearParams := do
  AbiCoder.validateLength data 6
  let isDecreasing ← AbiCoder.decodeBool data 3
  pure
    { toPriceBounds := .ofWords data 0 isDecreasing 4 5
      slope := AbiCoder.uint256 data 1
      bucketSize := AbiCoder.uint256 data 2 }

def isPriceAdapterConfigDataValid (data : Bytes) : Outcome Bool := do
  let params ← getDecodedData data
  pure (isValid params)

/-- `getPrice` with its configuration decoded and checked. -/
def price (params : LinearParams) (timeElapsed : Nat) : Outcome Nat := do
  let bucket ← div timeElapsed params.bucketSize
  let lastBucket ← div uint256Max params.slope
  if lastBucket < bucket then
    pure (if params.isDecreasing then params.minPrice else params.maxPrice)
  else do
    let priceChange ← mul bucket params.slope
    params.changedPrice priceChange

def getPrice (timeElapsed : Nat) (data : Bytes) : Outcome Nat := do
  let params ← getDecodedData data
  require (isValid params = true) "BoundedStepwiseLinearPriceAdapter: Invalid params"
  price params timeElapsed

/-! ### The configuration -/

/-- Every field fits its type. -/
structure Fits (params : LinearParams) : Prop where
  slope : params.slope < 2 ^ 256
  bucketSize : params.bucketSize < 2 ^ 256
  minPrice : params.minPrice < 2 ^ 256

/-- Parameters are read back from their encoding. -/
theorem getDecodedData_getEncodedData {params : LinearParams} (fits : Fits params) :
    getDecodedData (getEncodedData params) = .ok params := by
  have flag : AbiCoder.decodeBool (getEncodedData params) 3 = .ok params.isDecreasing := by
    unfold getEncodedData
    rw [AbiCoder.decodeBool_encode_succ, AbiCoder.decodeBool_encode_succ,
      AbiCoder.decodeBool_encode_succ, AbiCoder.decodeBool_encode]
  have length : 32 * 6 ≤ (getEncodedData params).length := by
    simp [getEncodedData, AbiCoder.encodeBool]
  unfold getDecodedData AbiCoder.validateLength
  rw [flag]
  simp only [bind_eq_ok, require_eq_ok, exists_const, Except.ok.injEq, exists_eq_left',
    pure_eq_ok]
  refine ⟨length, ?_⟩
  simp only [PriceBounds.ofWords, getEncodedData, AbiCoder.encodeBool, AbiCoder.uint256_encode_succ,
    AbiCoder.uint256_encode _ _ params.initialPrice_lt, AbiCoder.uint256_encode _ _ fits.slope,
    AbiCoder.uint256_encode _ _ fits.bucketSize, AbiCoder.uint256_encode _ _ params.maxPrice_lt,
    AbiCoder.uint256_encode_last _ fits.minPrice]

/-! ### The price of a bucket -/

/-- The change at a bucket. -/
def priceChange (params : LinearParams) (bucket : Nat) : ℕ∞ :=
  checkedChange 0 (bucket * params.slope)

/-- What the check of the parameters establishes. -/
structure Valid (params : LinearParams) : Prop where
  initialPrice : 0 < params.initialPrice
  slope : 0 < params.slope
  bucketSize : 0 < params.bucketSize
  enclosed : params.toPriceBounds.Enclosed

theorem isValid_eq_true {params : LinearParams} : isValid params = true ↔ Valid params := by
  simp only [isValid, areParamsValid, Bool.and_eq_true, decide_eq_true_eq]
  constructor
  · rintro ⟨⟨⟨⟨initial, slope⟩, bucket⟩, above⟩, below⟩
    exact ⟨initial, slope, bucket, below, above⟩
  · rintro ⟨initial, slope, bucket, below, above⟩
    exact ⟨⟨⟨⟨initial, slope⟩, bucket⟩, above⟩, below⟩

/-- A valid configuration always has a price, which depends on the bucket alone. -/
theorem price_eq {params : LinearParams} (valid : Valid params) (timeElapsed : Nat) :
    price params timeElapsed =
      .ok (params.priceAfter (priceChange params (timeElapsed / params.bucketSize))) := by
  have lastBucket := uint256Max_div_lt_iff (timeElapsed / params.bucketSize) _ valid.slope
  simp only [price, priceChange, bind_eq_ok, div_eq_ok]
  refine ⟨_, ⟨valid.bucketSize, rfl⟩, _, ⟨valid.slope, rfl⟩, ?_⟩
  rcases Nat.lt_or_ge uint256Max (timeElapsed / params.bucketSize * params.slope)
    with exceeds | within
  · rw [if_pos (lastBucket.mpr exceeds), checkedChange_of_lt exceeds]
    rfl
  · rw [if_neg (mt lastBucket.mp (not_lt.mpr within)), checkedChange_of_le within]
    simp only [bind_eq_ok, mul_eq_ok]
    exact ⟨_, ⟨within, rfl⟩, params.changedPrice_eq _⟩

theorem isPriceAdapterConfigDataValid_eq_ok {params : LinearParams} {data : Bytes}
    (decoded : getDecodedData data = .ok params) :
    isPriceAdapterConfigDataValid data = .ok true ↔ Valid params := by
  unfold isPriceAdapterConfigDataValid
  rw [decoded, ← isValid_eq_true]
  exact pure_eq_ok _ _

/-- The price of a configuration that is decoded. -/
theorem getPrice_eq_ok {params : LinearParams} {timeElapsed result : Nat} {data : Bytes}
    (decoded : getDecodedData data = .ok params) :
    getPrice timeElapsed data = .ok result ↔ Valid params ∧
      params.priceAfter (priceChange params (timeElapsed / params.bucketSize)) = result := by
  simp only [getPrice, decoded, bind_eq_ok, Except.ok.injEq, exists_eq_left', require_eq_ok,
    exists_const, isValid_eq_true]
  refine and_congr_right fun valid => ?_
  rw [price_eq valid, Except.ok.injEq]

/-- Later buckets have larger changes. -/
theorem priceChange_mono (params : LinearParams) {first second : Nat} (order : first ≤ second) :
    priceChange params first ≤ priceChange params second :=
  checkedChange_mono (Nat.mul_le_mul_right _ order)

end BoundedStepwiseLinearPriceAdapter

end IndexProtocol

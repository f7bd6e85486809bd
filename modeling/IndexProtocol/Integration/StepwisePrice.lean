/-
This file models what the stepwise price adapters share. The price starts at the
initial price, is lowered or raised by a price change, and stops at the smallest
or largest price; a price change that leaves the type counts as infinite. The
exponential and the logarithmic adapter read the same parameters from their
configuration.
-/

import IndexProtocol.Lib.AbiCoder
import IndexProtocol.Lib.CheckedMath
import IndexProtocol.Library.Clamping

namespace IndexProtocol

open Revert CheckedMath

/-! ### Bounds of the price -/

/-- The initial price and the bounds of an auction. -/
structure PriceBounds where
  initialPrice : Nat
  isDecreasing : Bool
  maxPrice : Nat
  minPrice : Nat
  initialPrice_lt : initialPrice < 2 ^ 256
  maxPrice_lt : maxPrice < 2 ^ 256

namespace PriceBounds

/-- The bounds at the given words of a configuration. -/
def ofWords (data : Bytes) (initialPrice : Nat) (isDecreasing : Bool) (maxPrice minPrice : Nat) :
    PriceBounds where
  initialPrice := AbiCoder.uint256 data initialPrice
  isDecreasing
  maxPrice := AbiCoder.uint256 data maxPrice
  minPrice := AbiCoder.uint256 data minPrice
  initialPrice_lt := AbiCoder.uint256_lt data initialPrice
  maxPrice_lt := AbiCoder.uint256_lt data maxPrice

/-- The bounds enclose the initial price. -/
def Enclosed (bounds : PriceBounds) : Prop :=
  bounds.minPrice ≤ bounds.initialPrice ∧ bounds.initialPrice ≤ bounds.maxPrice

/-- `_getBoundaryPrice`. -/
def getBoundaryPrice (bounds : PriceBounds) : Nat :=
  if bounds.isDecreasing then bounds.minPrice else bounds.maxPrice

/-- The end of `getPrice`, with the price change computed. -/
def changedPrice (bounds : PriceBounds) (priceChange : Nat) : Outcome Nat :=
  if bounds.isDecreasing then
    if bounds.initialPrice < priceChange then pure bounds.minPrice
    else do
      let lowered ← sub bounds.initialPrice priceChange
      pure (max lowered bounds.minPrice)
  else do
    let headroom ← sub uint256Max bounds.initialPrice
    if headroom < priceChange then pure bounds.maxPrice
    else do
      let raised ← add bounds.initialPrice priceChange
      pure (min raised bounds.maxPrice)

/-- The price after a change, which may be infinite. -/
def priceAfter (bounds : PriceBounds) (change : ℕ∞) : Nat :=
  Clamping.clamped bounds.initialPrice bounds.maxPrice bounds.minPrice bounds.isDecreasing change

/-- How far the price can move. -/
def room (bounds : PriceBounds) : Nat :=
  Clamping.room bounds.initialPrice bounds.maxPrice bounds.minPrice bounds.isDecreasing

section Laws

variable (bounds : PriceBounds)

/-- A guard that returns the boundary price returns the one after an infinite change. -/
theorem guarded_eq_ok {guard : Prop} [Decidable guard] {otherwise : Outcome Nat} {result : Nat} :
    (if guard then pure bounds.getBoundaryPrice else otherwise) = .ok result ↔
      guard ∧ bounds.priceAfter ⊤ = result ∨ ¬guard ∧ otherwise = .ok result := by
  by_cases holds : guard
  · rw [if_pos holds, pure_eq_ok, and_iff_right holds,
      or_iff_left fun other => other.1 holds]
    rfl
  · rw [if_neg holds, and_iff_right holds, or_iff_right fun other => holds other.1]

/-- With the change computed, a price is always returned. -/
theorem changedPrice_eq (priceChange : Nat) :
    bounds.changedPrice priceChange = .ok (bounds.priceAfter priceChange) := by
  have initial := bounds.initialPrice_lt
  have largest := bounds.maxPrice_lt
  unfold changedPrice priceAfter
  rw [Clamping.clamped_coe]
  cases bounds.isDecreasing with
  | true =>
    simp only [if_true]
    split
    · rename_i below
      rw [pure_eq_ok, Nat.sub_eq_zero_of_le below.le, Nat.zero_max]
    · rename_i within
      simp only [bind_eq_ok, sub_eq_ok, pure_eq_ok]
      exact ⟨_, ⟨not_lt.mp within, rfl⟩, rfl⟩
  | false =>
    simp only [Bool.false_eq_true, if_false, bind_eq_ok, sub_eq_ok]
    refine ⟨_, ⟨by unfold uint256Max; omega, rfl⟩, ?_⟩
    split
    · rename_i above
      unfold uint256Max at above
      rw [pure_eq_ok, min_eq_right (by omega)]
    · rename_i within
      simp only [bind_eq_ok, add_eq_ok, pure_eq_ok]
      refine ⟨_, ⟨?_, rfl⟩, rfl⟩
      unfold uint256Max at within ⊢
      omega

end Laws

end PriceBounds

/-! ### Changes that leave the type -/

/-- The change computed from a value, infinite where the value leaves the type. -/
def checkedChange (less value : Nat) : ℕ∞ :=
  if uint256Max < value then ⊤ else (value - less : Nat)

section CheckedChange

variable {less value larger room : Nat}

theorem checkedChange_of_lt (exceeds : uint256Max < value) : checkedChange less value = ⊤ :=
  if_pos exceeds

theorem checkedChange_of_le (within : value ≤ uint256Max) :
    checkedChange less value = (value - less : Nat) :=
  if_neg (not_lt.mpr within)

theorem checkedChange_mono (order : value ≤ larger) :
    checkedChange less value ≤ checkedChange less larger := by
  unfold checkedChange
  split
  · rw [if_pos (by omega)]
  · split
    · exact le_top
    · exact Nat.cast_le.mpr (Nat.sub_le_sub_right order less)

theorem le_checkedChange_iff :
    (room : ℕ∞) ≤ checkedChange less value ↔ uint256Max < value ∨ room ≤ value - less := by
  unfold checkedChange
  split
  · rename_i exceeds
    exact iff_of_true le_top (Or.inl exceeds)
  · rename_i within
    rw [Nat.cast_le, or_iff_right within]

end CheckedChange

/-! ### Parameters of the curves -/

/-- The configuration of the exponential and of the logarithmic adapter. -/
structure CurveParams extends PriceBounds where
  scalingFactor : Nat
  timeCoefficient : Nat
  bucketSize : Nat

namespace CurveParams

def areParamsValid
    (initialPrice scalingFactor timeCoefficient bucketSize maxPrice minPrice : Nat) : Bool :=
  decide (0 < initialPrice) && decide (0 < scalingFactor) && decide (0 < timeCoefficient) &&
    decide (0 < bucketSize) && decide (initialPrice ≤ maxPrice) &&
    decide (minPrice ≤ initialPrice)

def isValid (params : CurveParams) : Bool :=
  areParamsValid params.initialPrice params.scalingFactor params.timeCoefficient
    params.bucketSize params.maxPrice params.minPrice

def getEncodedData (params : CurveParams) : Bytes :=
  AbiCoder.encodeUint256 params.initialPrice ++ (AbiCoder.encodeUint256 params.scalingFactor ++
    (AbiCoder.encodeUint256 params.timeCoefficient ++
    (AbiCoder.encodeUint256 params.bucketSize ++ (AbiCoder.encodeBool params.isDecreasing ++
    (AbiCoder.encodeUint256 params.maxPrice ++ AbiCoder.encodeUint256 params.minPrice)))))

def getDecodedData (data : Bytes) : Outcome CurveParams := do
  AbiCoder.validateLength data 7
  let isDecreasing ← AbiCoder.decodeBool data 4
  pure
    { toPriceBounds := .ofWords data 0 isDecreasing 5 6
      scalingFactor := AbiCoder.uint256 data 1
      timeCoefficient := AbiCoder.uint256 data 2
      bucketSize := AbiCoder.uint256 data 3 }

/-- What the check of the parameters establishes. -/
structure Valid (params : CurveParams) : Prop where
  initialPrice : 0 < params.initialPrice
  scalingFactor : 0 < params.scalingFactor
  timeCoefficient : 0 < params.timeCoefficient
  bucketSize : 0 < params.bucketSize
  enclosed : params.toPriceBounds.Enclosed

theorem isValid_eq_true {params : CurveParams} : params.isValid = true ↔ params.Valid := by
  simp only [isValid, areParamsValid, Bool.and_eq_true, decide_eq_true_eq]
  constructor
  · rintro ⟨⟨⟨⟨⟨initial, scaling⟩, coefficient⟩, bucket⟩, above⟩, below⟩
    exact ⟨initial, scaling, coefficient, bucket, below, above⟩
  · rintro ⟨initial, scaling, coefficient, bucket, below, above⟩
    exact ⟨⟨⟨⟨⟨initial, scaling⟩, coefficient⟩, bucket⟩, above⟩, below⟩

/-- Every field fits its type. -/
structure Fits (params : CurveParams) : Prop where
  scalingFactor : params.scalingFactor < 2 ^ 256
  timeCoefficient : params.timeCoefficient < 2 ^ 256
  bucketSize : params.bucketSize < 2 ^ 256
  minPrice : params.minPrice < 2 ^ 256

/-- Parameters are read back from their encoding. -/
theorem getDecodedData_getEncodedData {params : CurveParams} (fits : params.Fits) :
    getDecodedData params.getEncodedData = .ok params := by
  have flag : AbiCoder.decodeBool params.getEncodedData 4 = .ok params.isDecreasing := by
    unfold getEncodedData
    rw [AbiCoder.decodeBool_encode_succ, AbiCoder.decodeBool_encode_succ,
      AbiCoder.decodeBool_encode_succ, AbiCoder.decodeBool_encode_succ,
      AbiCoder.decodeBool_encode]
  have length : 32 * 7 ≤ params.getEncodedData.length := by
    simp [getEncodedData, AbiCoder.encodeBool]
  unfold getDecodedData AbiCoder.validateLength
  rw [flag]
  simp only [bind_eq_ok, require_eq_ok, exists_const, Except.ok.injEq, exists_eq_left',
    pure_eq_ok]
  refine ⟨length, ?_⟩
  simp only [PriceBounds.ofWords, getEncodedData, AbiCoder.encodeBool, AbiCoder.uint256_encode_succ,
    AbiCoder.uint256_encode _ _ params.initialPrice_lt,
    AbiCoder.uint256_encode _ _ fits.scalingFactor,
    AbiCoder.uint256_encode _ _ fits.timeCoefficient,
    AbiCoder.uint256_encode _ _ fits.bucketSize, AbiCoder.uint256_encode _ _ params.maxPrice_lt,
    AbiCoder.uint256_encode_last _ fits.minPrice]

end CurveParams

end IndexProtocol

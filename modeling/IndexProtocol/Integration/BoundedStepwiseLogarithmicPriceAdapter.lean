/-
This file models the logarithmic price adapter: the price moves by the scaling
factor times a logarithm of the time bucket plus one. The logarithm is computed
by a library, which is a parameter. A product of bucket and coefficient that is
not below `2^255` becomes a negative argument when it is converted, and a
negative logarithm a large change.
-/

import IndexProtocol.Integration.StepwisePrice

namespace IndexProtocol

open Revert CheckedMath

namespace BoundedStepwiseLogarithmicPriceAdapter

def wad : Int := 10 ^ 18

/-- `MAX_LOG_ARG`. -/
def maxLogArg : Int := 2 ^ 254 - 1

def getDecodedData : Bytes → Outcome CurveParams := CurveParams.getDecodedData

def isPriceAdapterConfigDataValid (data : Bytes) : Outcome Bool := do
  let params ← getDecodedData data
  pure params.isValid

/-- The price change at a valid argument of the logarithm. -/
def logarithmicPrice (lnWad : Int → Outcome Int) (params : CurveParams) (lnArgument : Int) :
    Outcome Nat := do
  let shifted ← addInt lnArgument wad
  let logarithm ← lnWad shifted
  let lnExpression := toUint256 logarithm
  let largestExpression ← div uint256Max params.scalingFactor
  if largestExpression < lnExpression then pure params.getBoundaryPrice
  else do
    let priceChange ← mul params.scalingFactor lnExpression
    params.changedPrice priceChange

/-- `getPrice` with its configuration decoded and checked. -/
def price (lnWad : Int → Outcome Int) (params : CurveParams) (timeElapsed : Nat) :
    Outcome Nat := do
  let timeBucket ← div timeElapsed params.bucketSize
  let lastBucket ← div uint256Max params.timeCoefficient
  if lastBucket < timeBucket then pure params.getBoundaryPrice
  else do
    let product ← mul timeBucket params.timeCoefficient
    let lnArgument := toInt256 product
    if maxLogArg < lnArgument then pure params.getBoundaryPrice
    else logarithmicPrice lnWad params lnArgument

def getPrice (lnWad : Int → Outcome Int) (timeElapsed : Nat) (data : Bytes) : Outcome Nat := do
  let params ← getDecodedData data
  require (params.isValid = true) "BoundedStepwiseLogarithmicPriceAdapter: Invalid params"
  price lnWad params timeElapsed

/-! ### The logarithm -/

/-- What the adapter relies on of the library's logarithm: it is of type `int256`, defined
exactly on the positive arguments of that type, monotone, and zero at one. -/
structure LnWadLaws (lnWad : Int → Outcome Int) : Prop where
  int256 : ∀ argument value, lnWad argument = .ok value → FitsInt256 value
  monotone : ∀ first second low high, first ≤ second → lnWad first = .ok low →
    lnWad second = .ok high → low ≤ high
  one : lnWad 1000000000000000000 = .ok 0
  defined : ∀ argument, argument < 2 ^ 255 →
    ((∃ value, lnWad argument = .ok value) ↔ 0 < argument)

/-! ### The price of a bucket -/

/-- The price change at a bucket, infinite on the branches that return the boundary price. -/
inductive PriceChange (lnWad : Int → Outcome Int) (params : CurveParams) (timeBucket : Nat) :
    ℕ∞ → Prop
  | productOverflow (exceeds : uint256Max < timeBucket * params.timeCoefficient) :
      PriceChange lnWad params timeBucket ⊤
  | argumentTooLarge (fits : timeBucket * params.timeCoefficient ≤ uint256Max)
      (large : maxLogArg < toInt256 (timeBucket * params.timeCoefficient)) :
      PriceChange lnWad params timeBucket ⊤
  | changeOverflow (logarithm : Int)
      (fits : timeBucket * params.timeCoefficient ≤ uint256Max)
      (small : toInt256 (timeBucket * params.timeCoefficient) ≤ maxLogArg)
      (shifted : FitsInt256 (toInt256 (timeBucket * params.timeCoefficient) + wad))
      (computed : lnWad (toInt256 (timeBucket * params.timeCoefficient) + wad) = .ok logarithm)
      (exceeds : uint256Max < params.scalingFactor * toUint256 logarithm) :
      PriceChange lnWad params timeBucket ⊤
  | change (logarithm : Int)
      (fits : timeBucket * params.timeCoefficient ≤ uint256Max)
      (small : toInt256 (timeBucket * params.timeCoefficient) ≤ maxLogArg)
      (shifted : FitsInt256 (toInt256 (timeBucket * params.timeCoefficient) + wad))
      (computed : lnWad (toInt256 (timeBucket * params.timeCoefficient) + wad) = .ok logarithm)
      (within : params.scalingFactor * toUint256 logarithm ≤ uint256Max) :
      PriceChange lnWad params timeBucket (params.scalingFactor * toUint256 logarithm : Nat)

section Price

variable {lnWad : Int → Outcome Int} {params : CurveParams} {timeElapsed result : Nat}

/-- The price is the one after the price change of the bucket. -/
theorem price_eq_ok (valid : params.Valid) :
    price lnWad params timeElapsed = .ok result ↔
      ∃ change, PriceChange lnWad params (timeElapsed / params.bucketSize) change ∧
        params.priceAfter change = result := by
  have lastBucket := uint256Max_div_lt_iff (timeElapsed / params.bucketSize) _
    valid.timeCoefficient
  have largestExpression : ∀ logarithm : Int,
      uint256Max / params.scalingFactor < toUint256 logarithm ↔
        uint256Max < params.scalingFactor * toUint256 logarithm := by
    intro logarithm
    rw [uint256Max_div_lt_iff _ _ valid.scalingFactor, mul_comm]
  simp only [price, logarithmicPrice, bind_eq_ok, div_eq_ok, mul_eq_ok, addInt_eq_ok,
    PriceBounds.guarded_eq_ok, PriceBounds.changedPrice_eq, Except.ok.injEq]
  constructor
  · rintro ⟨_, ⟨_, rfl⟩, _, ⟨_, rfl⟩, ⟨exceeds, rfl⟩ | ⟨_, _, ⟨fits, rfl⟩, priced⟩⟩
    · exact ⟨⊤, .productOverflow (lastBucket.mp exceeds), rfl⟩
    · rcases priced with
        ⟨large, rfl⟩ | ⟨small, _, ⟨shifted, rfl⟩, logarithm, computed, _, ⟨_, rfl⟩, priced⟩
      · exact ⟨⊤, .argumentTooLarge fits large, rfl⟩
      · rcases priced with ⟨exceeds, rfl⟩ | ⟨_, _, ⟨within, rfl⟩, rfl⟩
        · exact ⟨⊤, .changeOverflow logarithm fits (not_lt.mp small) shifted computed
            ((largestExpression logarithm).mp exceeds), rfl⟩
        · exact ⟨_, .change logarithm fits (not_lt.mp small) shifted computed within, rfl⟩
  · rintro ⟨change, changed, rfl⟩
    refine ⟨_, ⟨valid.bucketSize, rfl⟩, _, ⟨valid.timeCoefficient, rfl⟩, ?_⟩
    cases changed with
    | productOverflow exceeds => exact Or.inl ⟨lastBucket.mpr exceeds, rfl⟩
    | argumentTooLarge fits large =>
      exact Or.inr ⟨mt lastBucket.mp (not_lt.mpr fits), _, ⟨fits, rfl⟩, Or.inl ⟨large, rfl⟩⟩
    | changeOverflow logarithm fits small shifted computed exceeds =>
      refine Or.inr ⟨mt lastBucket.mp (not_lt.mpr fits), _, ⟨fits, rfl⟩, Or.inr
        ⟨not_lt.mpr small, _, ⟨shifted, rfl⟩, logarithm, computed, _, ⟨valid.scalingFactor, rfl⟩,
        Or.inl ⟨?_, rfl⟩⟩⟩
      exact (largestExpression logarithm).mpr exceeds
    | change logarithm fits small shifted computed within =>
      refine Or.inr ⟨mt lastBucket.mp (not_lt.mpr fits), _, ⟨fits, rfl⟩, Or.inr
        ⟨not_lt.mpr small, _, ⟨shifted, rfl⟩, logarithm, computed, _, ⟨valid.scalingFactor, rfl⟩,
        Or.inr ⟨?_, _, ⟨within, rfl⟩, rfl⟩⟩⟩
      exact mt (largestExpression logarithm).mp (not_lt.mpr within)

theorem isPriceAdapterConfigDataValid_eq_ok {data : Bytes}
    (decoded : getDecodedData data = .ok params) :
    isPriceAdapterConfigDataValid data = .ok true ↔ params.Valid := by
  unfold isPriceAdapterConfigDataValid
  rw [decoded, ← CurveParams.isValid_eq_true]
  exact pure_eq_ok _ _

/-- The price of a configuration that is decoded. -/
theorem getPrice_eq_ok {data : Bytes} (decoded : getDecodedData data = .ok params) :
    getPrice lnWad timeElapsed data = .ok result ↔
      params.Valid ∧ ∃ change, PriceChange lnWad params (timeElapsed / params.bucketSize) change ∧
        params.priceAfter change = result := by
  simp only [getPrice, decoded, bind_eq_ok, Except.ok.injEq, exists_eq_left', require_eq_ok,
    exists_const, CurveParams.isValid_eq_true]
  exact and_congr_right fun valid => price_eq_ok valid

/-- All changes of a bucket lead to one price. -/
theorem PriceChange.priceAfter_eq {first second : ℕ∞}
    (firstChanged : PriceChange lnWad params (timeElapsed / params.bucketSize) first)
    (valid : params.Valid)
    (secondChanged : PriceChange lnWad params (timeElapsed / params.bucketSize) second) :
    params.priceAfter first = params.priceAfter second := by
  have firstPrice := (price_eq_ok valid).mpr ⟨first, firstChanged, rfl⟩
  have secondPrice := (price_eq_ok valid).mpr ⟨second, secondChanged, rfl⟩
  exact Except.ok.inj (firstPrice.symm.trans secondPrice)

end Price

/-! ### When there is a price, and how it moves -/

section Buckets

variable {lnWad : Int → Outcome Int} {params : CurveParams} {bucket first second : Nat}
  {change : ℕ∞}

/-- A product that overflows, or an argument that is too large, has an infinite change. -/
theorem PriceChange.eq_top (changed : PriceChange lnWad params bucket change)
    (large : bucket * params.timeCoefficient ≤ uint256Max →
      maxLogArg < toInt256 (bucket * params.timeCoefficient)) : change = ⊤ := by
  cases changed with
  | productOverflow _ => rfl
  | argumentTooLarge _ _ => rfl
  | changeOverflow _ _ _ _ _ _ => rfl
  | change _ fits small _ _ _ => exact absurd (large fits) (not_lt.mpr small)

theorem PriceChange.eq_checkedChange (changed : PriceChange lnWad params bucket change)
    (fits : bucket * params.timeCoefficient ≤ uint256Max)
    (small : toInt256 (bucket * params.timeCoefficient) ≤ maxLogArg) :
    ∃ logarithm,
      lnWad (toInt256 (bucket * params.timeCoefficient) + wad) = .ok logarithm ∧
      change = checkedChange 0 (params.scalingFactor * toUint256 logarithm) := by
  cases changed with
  | productOverflow exceeds => exact absurd fits (not_le.mpr exceeds)
  | argumentTooLarge _ large => exact absurd small (not_le.mpr large)
  | changeOverflow logarithm _ _ _ computed exceeds =>
    exact ⟨logarithm, computed, (checkedChange_of_lt exceeds).symm⟩
  | change logarithm _ _ _ computed within =>
    exact ⟨logarithm, computed, by rw [checkedChange_of_le within, Nat.sub_zero]⟩

/-- An argument up to the largest one can be shifted. -/
theorem fitsInt256_shifted (small : toInt256 (bucket * params.timeCoefficient) ≤ maxLogArg) :
    FitsInt256 (toInt256 (bucket * params.timeCoefficient) + wad) := by
  unfold maxLogArg at small
  unfold FitsInt256 wad
  have least : -2 ^ 255 ≤ toInt256 (bucket * params.timeCoefficient) := by
    unfold toInt256
    split <;> omega
  constructor <;> omega

/-- There is a price unless the product of bucket and coefficient is converted to an argument
that is not above minus one. -/
theorem exists_priceChange_iff (laws : LnWadLaws lnWad) :
    (∃ change, PriceChange lnWad params bucket change) ↔
      bucket * params.timeCoefficient < 2 ^ 255 ∨
        2 ^ 256 - 10 ^ 18 < bucket * params.timeCoefficient := by
  rcases Nat.lt_or_ge uint256Max (bucket * params.timeCoefficient) with exceeds | fits
  · refine iff_of_true ⟨⊤, .productOverflow exceeds⟩ (Or.inr ?_)
    unfold uint256Max at exceeds
    omega
  · rcases le_or_gt (toInt256 (bucket * params.timeCoefficient)) maxLogArg with small | large
    · have shifted := fitsInt256_shifted small
      have positive : (∃ change, PriceChange lnWad params bucket change) ↔
          0 < toInt256 (bucket * params.timeCoefficient) + wad := by
        rw [← laws.defined _ shifted.2]
        constructor
        · rintro ⟨change, changed⟩
          obtain ⟨logarithm, computed, _⟩ := changed.eq_checkedChange fits small
          exact ⟨logarithm, computed⟩
        · rintro ⟨logarithm, computed⟩
          rcases Nat.lt_or_ge uint256Max (params.scalingFactor * toUint256 logarithm)
            with exceeds | within
          · exact ⟨⊤, .changeOverflow _ fits small shifted computed exceeds⟩
          · exact ⟨_, .change _ fits small shifted computed within⟩
      rw [positive]
      unfold wad
      rcases Nat.lt_or_ge (bucket * params.timeCoefficient) (2 ^ 255) with below | above
      · rw [toInt256_of_lt below]
        omega
      · rw [toInt256_of_le above]
        omega
    · refine iff_of_true ⟨⊤, .argumentTooLarge fits large⟩ (Or.inl ?_)
      by_contra above
      rw [toInt256_of_le (not_lt.mp above)] at large
      unfold maxLogArg uint256Max at *
      omega

/-- The later of two times has a price at least as far from the initial price: its product does
not become negative, or it has a logarithm below zero whose conversion is large enough, or it
has a logarithm of zero as the earlier time does. -/
def InOrder (lnWad : Int → Outcome Int) (params : CurveParams) (first second : Nat) : Prop :=
  2 ^ 255 ≤ second * params.timeCoefficient → second * params.timeCoefficient < 2 ^ 256 →
    ∃ logarithm,
      lnWad ((second * params.timeCoefficient : Nat) - 2 ^ 256 + wad) = .ok logarithm ∧
      (logarithm < 0 → 2 ≤ params.scalingFactor ∨
        first * params.timeCoefficient < 2 ^ 254 ∨ 2 ^ 255 ≤ first * params.timeCoefficient ∨
        (params.room : Int) ≤ logarithm + 2 ^ 256) ∧
      (logarithm = 0 → params.room = 0 ∨
        toInt256 (first * params.timeCoefficient) ≤ maxLogArg ∧
          lnWad (toInt256 (first * params.timeCoefficient) + wad) = .ok 0)

/-- The logarithm of an argument that is not negative is kept by the conversion. -/
theorem LnWadLaws.kept_of_nonneg (laws : LnWadLaws lnWad) {argument logarithm : Int}
    (nonneg : 0 ≤ argument) (computed : lnWad (argument + wad) = .ok logarithm) :
    0 ≤ logarithm ∧ (toUint256 logarithm : Int) = logarithm := by
  have above : 0 ≤ logarithm :=
    laws.monotone _ _ _ _ (by unfold wad; omega) laws.one computed
  exact ⟨above, toUint256_of_nonneg above (laws.int256 _ _ computed)⟩

/-- The logarithm of a negative argument is at most zero. -/
theorem LnWadLaws.nonpos_of_neg (laws : LnWadLaws lnWad) {argument logarithm : Int}
    (negative : argument < 0) (computed : lnWad (argument + wad) = .ok logarithm) :
    logarithm ≤ 0 :=
  laws.monotone _ _ _ _ (by unfold wad; omega) computed laws.one

/-- A later bucket has a larger change as long as its product is not converted to a negative
argument. -/
theorem PriceChange.mono {firstChange secondChange : ℕ∞} (laws : LnWadLaws lnWad)
    (firstChanged : PriceChange lnWad params first firstChange)
    (secondChanged : PriceChange lnWad params second secondChange)
    (order : first * params.timeCoefficient ≤ second * params.timeCoefficient)
    (below : second * params.timeCoefficient < 2 ^ 255) : firstChange ≤ secondChange := by
  have secondArgument := toInt256_of_lt below
  have firstArgument := toInt256_of_lt (order.trans_lt below)
  have secondFits : second * params.timeCoefficient ≤ uint256Max := by
    unfold uint256Max
    omega
  have arguments : toInt256 (first * params.timeCoefficient) ≤
      toInt256 (second * params.timeCoefficient) := by
    rw [firstArgument, secondArgument]
    exact_mod_cast order
  rcases le_or_gt (toInt256 (second * params.timeCoefficient)) maxLogArg with small | large
  · obtain ⟨high, highComputed, rfl⟩ := secondChanged.eq_checkedChange secondFits small
    obtain ⟨low, lowComputed, rfl⟩ :=
      firstChanged.eq_checkedChange (order.trans secondFits) (arguments.trans small)
    obtain ⟨_, highKept⟩ :=
      laws.kept_of_nonneg (secondArgument ▸ Int.natCast_nonneg _) highComputed
    obtain ⟨_, lowKept⟩ := laws.kept_of_nonneg (firstArgument ▸ Int.natCast_nonneg _) lowComputed
    have ordered := laws.monotone _ _ _ _ (Int.add_le_add_right arguments _) lowComputed
      highComputed
    exact checkedChange_mono (Nat.mul_le_mul_left _ (by omega))
  · rw [secondChanged.eq_top fun _ => large]
    exact le_top

/-- The products whose arguments are too large. -/
theorem maxLogArg_lt_iff {product : Nat} (fits : product ≤ uint256Max) :
    maxLogArg < toInt256 product ↔ 2 ^ 254 ≤ product ∧ product < 2 ^ 255 := by
  unfold maxLogArg toInt256
  unfold uint256Max at fits
  split <;> omega

/-- A logarithm below zero is converted to at least what an earlier one is converted to. -/
theorem LnWadLaws.converted_le_of_neg (laws : LnWadLaws lnWad) {earlier logarithm : Int}
    (order : first * params.timeCoefficient ≤ second * params.timeCoefficient)
    (above : 2 ^ 255 ≤ second * params.timeCoefficient)
    (earlierComputed : lnWad (toInt256 (first * params.timeCoefficient) + wad) = .ok earlier)
    (computed : lnWad (toInt256 (second * params.timeCoefficient) + wad) = .ok logarithm)
    (negative : logarithm < 0) : toUint256 earlier ≤ toUint256 logarithm := by
  have converted := toUint256_of_neg negative (laws.int256 _ _ computed)
  obtain ⟨least, _⟩ := laws.int256 _ _ computed
  rcases Nat.lt_or_ge (first * params.timeCoefficient) (2 ^ 255) with below | wrapped
  · have nonneg := toInt256_of_lt below ▸ Int.natCast_nonneg _
    obtain ⟨_, kept⟩ := laws.kept_of_nonneg nonneg earlierComputed
    obtain ⟨_, most⟩ := laws.int256 _ _ earlierComputed
    omega
  · have arguments : toInt256 (first * params.timeCoefficient) ≤
        toInt256 (second * params.timeCoefficient) := by
      rw [toInt256_of_le wrapped, toInt256_of_le above]
      omega
    have ordered := laws.monotone _ _ _ _ (Int.add_le_add_right arguments _) earlierComputed
      computed
    have earlierConverted := toUint256_of_neg (ordered.trans_lt negative)
      (laws.int256 _ _ earlierComputed)
    omega

/-- A logarithm below zero is converted to a change that is large enough, unless the earlier
argument is too large for a logarithm and the scaling factor is one. -/
theorem PriceChange.ordered_iff_of_neg {firstChange secondChange : ℕ∞} {logarithm : Int}
    (laws : LnWadLaws lnWad) (valid : params.Valid)
    (firstChanged : PriceChange lnWad params first firstChange)
    (order : first * params.timeCoefficient ≤ second * params.timeCoefficient)
    (fits : second * params.timeCoefficient ≤ uint256Max)
    (above : 2 ^ 255 ≤ second * params.timeCoefficient)
    (computed : lnWad (toInt256 (second * params.timeCoefficient) + wad) = .ok logarithm)
    (changed : secondChange = checkedChange 0 (params.scalingFactor * toUint256 logarithm))
    (negative : logarithm < 0) :
    (firstChange ≤ secondChange ∨ (params.room : ℕ∞) ≤ secondChange) ↔
      2 ≤ params.scalingFactor ∨ first * params.timeCoefficient < 2 ^ 254 ∨
        2 ^ 255 ≤ first * params.timeCoefficient ∨ (params.room : Int) ≤ logarithm + 2 ^ 256 := by
  have fitsInt256 := laws.int256 _ _ computed
  have converted := toUint256_of_neg negative fitsInt256
  obtain ⟨least, _⟩ := fitsInt256
  have half : 2 ^ 255 ≤ toUint256 logarithm := by omega
  have inType : toUint256 logarithm ≤ uint256Max := by
    unfold uint256Max
    omega
  rcases Nat.lt_or_ge params.scalingFactor 2 with small | scaled
  · have one : params.scalingFactor = 1 := by
      have positive := valid.scalingFactor
      omega
    rw [one, one_mul, checkedChange_of_le inType, Nat.sub_zero] at changed
    by_cases large : maxLogArg < toInt256 (first * params.timeCoefficient)
    · rw [firstChanged.eq_top fun _ => large, changed, Nat.cast_le, top_le_iff]
      have finite : ¬ ((toUint256 logarithm : Nat) : ℕ∞) = ⊤ := ENat.natCast_ne_top _
      have bounds := (maxLogArg_lt_iff (order.trans fits)).mp large
      rw [or_iff_right finite, ← converted, Nat.cast_le]
      constructor
      · exact fun reached => Or.inr (Or.inr (Or.inr reached))
      · rintro (two | lower | upper | reached)
        · exact absurd two (not_le.mpr small)
        · exact absurd bounds.1 (not_le.mpr lower)
        · exact absurd bounds.2 (not_lt.mpr upper)
        · exact reached
    · obtain ⟨earlier, earlierComputed, rfl⟩ :=
        firstChanged.eq_checkedChange (order.trans fits) (not_lt.mp large)
      have smaller := laws.converted_le_of_neg order above earlierComputed computed negative
      refine iff_of_true (Or.inl ?_) (Or.inr ?_)
      · rw [changed, one, one_mul, checkedChange_of_le (smaller.trans inType), Nat.sub_zero]
        exact_mod_cast smaller
      · rw [maxLogArg_lt_iff (order.trans fits), not_and_or, not_le, not_lt] at large
        rcases large with lower | upper
        · exact Or.inl lower
        · exact Or.inr (Or.inl upper)
  · refine iff_of_true (Or.inl ?_) (Or.inl scaled)
    have exceeds : uint256Max < params.scalingFactor * toUint256 logarithm := by
      calc uint256Max < 2 * 2 ^ 255 := by decide
        _ ≤ params.scalingFactor * toUint256 logarithm := Nat.mul_le_mul scaled half
    rw [changed, checkedChange_of_lt exceeds]
    exact le_top

/-- A logarithm of zero leaves the price where it started. -/
theorem PriceChange.ordered_iff_of_zero {firstChange secondChange : ℕ∞}
    (laws : LnWadLaws lnWad) (valid : params.Valid)
    (firstChanged : PriceChange lnWad params first firstChange)
    (fits : first * params.timeCoefficient ≤ uint256Max) (changed : secondChange = 0) :
    (firstChange ≤ secondChange ∨ (params.room : ℕ∞) ≤ secondChange) ↔
      params.room = 0 ∨ toInt256 (first * params.timeCoefficient) ≤ maxLogArg ∧
        lnWad (toInt256 (first * params.timeCoefficient) + wad) = .ok 0 := by
  rw [changed, nonpos_iff_eq_zero, nonpos_iff_eq_zero, Nat.cast_eq_zero, or_comm]
  refine or_congr_right ?_
  constructor
  · intro zero
    have small : toInt256 (first * params.timeCoefficient) ≤ maxLogArg := by
      by_contra large
      rw [firstChanged.eq_top fun _ => not_le.mp large] at zero
      exact absurd zero (by simp)
    obtain ⟨logarithm, computed, rfl⟩ := firstChanged.eq_checkedChange fits small
    refine ⟨small, ?_⟩
    have converted : toUint256 logarithm = 0 := by
      rcases Nat.lt_or_ge uint256Max (params.scalingFactor * toUint256 logarithm)
        with exceeds | within
      · rw [checkedChange_of_lt exceeds] at zero
        exact absurd zero (by simp)
      · rw [checkedChange_of_le within, Nat.cast_eq_zero, Nat.sub_zero, Nat.mul_eq_zero] at zero
        exact zero.resolve_left valid.scalingFactor.ne'
    have logarithmZero : logarithm = 0 := by
      obtain ⟨least, most⟩ := laws.int256 _ _ computed
      rcases lt_or_ge logarithm 0 with negative | nonneg
      · have kept := toUint256_of_neg negative ⟨least, most⟩
        omega
      · have kept := toUint256_of_nonneg nonneg ⟨least, most⟩
        omega
    exact logarithmZero ▸ computed
  · rintro ⟨small, computed⟩
    obtain ⟨logarithm, computedAgain, rfl⟩ := firstChanged.eq_checkedChange fits small
    obtain rfl := Except.ok.inj (computedAgain.symm.trans computed)
    rw [show toUint256 0 = 0 from rfl, mul_zero, checkedChange_of_le (Nat.zero_le _)]
    rfl

/-- The changes of two buckets move the price one way exactly when the buckets are in order. -/
theorem PriceChange.ordered_iff {firstChange secondChange : ℕ∞} (laws : LnWadLaws lnWad)
    (valid : params.Valid) (firstChanged : PriceChange lnWad params first firstChange)
    (secondChanged : PriceChange lnWad params second secondChange) (order : first ≤ second) :
    (firstChange ≤ secondChange ∨ (params.room : ℕ∞) ≤ secondChange) ↔
      InOrder lnWad params first second := by
  have products : first * params.timeCoefficient ≤ second * params.timeCoefficient :=
    Nat.mul_le_mul_right _ order
  unfold InOrder
  rcases Nat.lt_or_ge uint256Max (second * params.timeCoefficient) with exceeds | fits
  · refine iff_of_true (Or.inl ?_) fun _ within => absurd exceeds (by unfold uint256Max; omega)
    rw [secondChanged.eq_top fun within => absurd within (not_le.mpr exceeds)]
    exact le_top
  · rcases Nat.lt_or_ge (second * params.timeCoefficient) (2 ^ 255) with below | above
    · refine iff_of_true (Or.inl ?_) fun large => absurd below (not_lt.mpr large)
      exact firstChanged.mono laws secondChanged products below
    · have argument := toInt256_of_le above
      have argumentNegative : toInt256 (second * params.timeCoefficient) < 0 := by
        unfold uint256Max at fits
        rw [argument]
        omega
      obtain ⟨logarithm, computed, changed⟩ := secondChanged.eq_checkedChange fits
        (argumentNegative.le.trans (by decide))
      have unique : ∀ {value}, lnWad (toInt256 (second * params.timeCoefficient) + wad) =
          .ok value → value = logarithm := fun computedAgain =>
        Except.ok.inj (computedAgain.symm.trans computed)
      rw [← argument]
      rcases (laws.nonpos_of_neg argumentNegative computed).lt_or_eq with negative | rfl
      · rw [firstChanged.ordered_iff_of_neg laws valid products fits above computed changed
          negative]
        constructor
        · intro holds _ _
          exact ⟨logarithm, computed, fun _ => holds, fun zero => absurd zero negative.ne⟩
        · intro holds
          obtain ⟨value, computedAgain, below, _⟩ :=
            holds above (by unfold uint256Max at fits; omega)
          obtain rfl := unique computedAgain
          exact below negative
      · rw [show toUint256 0 = 0 from rfl, mul_zero, checkedChange_of_le (Nat.zero_le _)]
          at changed
        rw [firstChanged.ordered_iff_of_zero laws valid (products.trans fits) changed]
        constructor
        · intro holds _ _
          exact ⟨0, computed, fun negative => absurd negative (lt_irrefl 0), fun _ => holds⟩
        · intro holds
          obtain ⟨value, computedAgain, _, zero⟩ :=
            holds above (by unfold uint256Max at fits; omega)
          obtain rfl := unique computedAgain
          exact zero rfl

end Buckets

end BoundedStepwiseLogarithmicPriceAdapter

end IndexProtocol

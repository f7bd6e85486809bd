/-
This file models the exponential price adapter: the price moves by the scaling
factor times an exponential of the time bucket, less one. The exponential is
computed by a library, which is a parameter. A product of bucket and coefficient
that is not below `2^255` becomes a negative argument when it is converted.
-/

import IndexProtocol.Integration.StepwisePrice

namespace IndexProtocol

open Revert CheckedMath

namespace BoundedStepwiseExponentialPriceAdapter

def wad : Nat := 10 ^ 18

/-- `MAX_EXP_ARG`. -/
def maxExpArg : Int := 100 * 10 ^ 18

def getDecodedData : Bytes → Outcome CurveParams := CurveParams.getDecodedData

def isPriceAdapterConfigDataValid (data : Bytes) : Outcome Bool := do
  let params ← getDecodedData data
  pure params.isValid

/-- The price change at a valid argument of the exponential. -/
def exponentialPrice (expWad : Int → Outcome Int) (params : CurveParams) (expArgument : Int) :
    Outcome Nat := do
  let exponential ← expWad expArgument
  let expExpression := toUint256 exponential
  let largestFactor ← div uint256Max expExpression
  if largestFactor < params.scalingFactor then pure params.getBoundaryPrice
  else do
    let scaled ← mul params.scalingFactor expExpression
    let priceChange ← sub scaled wad
    params.changedPrice priceChange

/-- `getPrice` with its configuration decoded and checked. -/
def price (expWad : Int → Outcome Int) (params : CurveParams) (timeElapsed : Nat) :
    Outcome Nat := do
  let timeBucket ← div timeElapsed params.bucketSize
  let lastBucket ← div uint256Max params.timeCoefficient
  if lastBucket < timeBucket then pure params.getBoundaryPrice
  else do
    let product ← mul params.timeCoefficient timeBucket
    let expArgument := toInt256 product
    if maxExpArg < expArgument then pure params.getBoundaryPrice
    else exponentialPrice expWad params expArgument

def getPrice (expWad : Int → Outcome Int) (timeElapsed : Nat) (data : Bytes) : Outcome Nat := do
  let params ← getDecodedData data
  require (params.isValid = true) "BoundedStepwiseExponentialPriceAdapter: Invalid params"
  price expWad params timeElapsed

/-! ### The exponential -/

/-- What the adapter relies on of the library's exponential: it is of type `int256`, monotone,
one at zero, zero at very negative arguments, and defined up to a limit beyond the largest
argument the adapter uses. -/
structure ExpWadLaws (expWad : Int → Outcome Int) : Prop where
  int256 : ∀ argument value, expWad argument = .ok value → FitsInt256 value
  monotone : ∀ first second low high, first ≤ second → expWad first = .ok low →
    expWad second = .ok high → low ≤ high
  zero : expWad 0 = .ok 1000000000000000000
  vanishing : ∃ bound, ∀ argument, argument ≤ bound → expWad argument = .ok 0
  limited : ∃ limit, maxExpArg ≤ limit ∧
    ∀ argument, (∃ value, expWad argument = .ok value) ↔ argument ≤ limit

section Exponential

variable {expWad : Int → Outcome Int}

/-- Up to the largest argument the exponential is a number that the conversion keeps. -/
theorem ExpWadLaws.returns (laws : ExpWadLaws expWad) {argument : Int}
    (small : argument ≤ maxExpArg) :
    ∃ exponential : Nat, expWad argument = .ok exponential ∧
      toUint256 exponential = exponential := by
  obtain ⟨limit, beyond, defined⟩ := laws.limited
  obtain ⟨bound, vanishing⟩ := laws.vanishing
  obtain ⟨value, computed⟩ := (defined argument).mpr (small.trans beyond)
  have nonneg : 0 ≤ value := by
    rcases le_total argument bound with below | above
    · rw [vanishing argument below, Except.ok.injEq] at computed
      exact computed.le
    · exact laws.monotone bound argument 0 value above (vanishing bound le_rfl) computed
  obtain ⟨exponential, rfl⟩ := Int.eq_ofNat_of_zero_le nonneg
  exact ⟨exponential, computed,
    by exact_mod_cast toUint256_of_nonneg nonneg (laws.int256 _ _ computed)⟩

end Exponential

/-! ### The price of a bucket -/

/-- The price change at a bucket, infinite on the branches that return the boundary price. -/
inductive PriceChange (expWad : Int → Outcome Int) (params : CurveParams) (timeBucket : Nat) :
    ℕ∞ → Prop
  | productOverflow (exceeds : uint256Max < params.timeCoefficient * timeBucket) :
      PriceChange expWad params timeBucket ⊤
  | argumentTooLarge (fits : params.timeCoefficient * timeBucket ≤ uint256Max)
      (large : maxExpArg < toInt256 (params.timeCoefficient * timeBucket)) :
      PriceChange expWad params timeBucket ⊤
  | changeOverflow (exponential : Int)
      (fits : params.timeCoefficient * timeBucket ≤ uint256Max)
      (small : toInt256 (params.timeCoefficient * timeBucket) ≤ maxExpArg)
      (computed : expWad (toInt256 (params.timeCoefficient * timeBucket)) = .ok exponential)
      (exceeds : uint256Max < params.scalingFactor * toUint256 exponential) :
      PriceChange expWad params timeBucket ⊤
  | change (exponential : Int)
      (fits : params.timeCoefficient * timeBucket ≤ uint256Max)
      (small : toInt256 (params.timeCoefficient * timeBucket) ≤ maxExpArg)
      (computed : expWad (toInt256 (params.timeCoefficient * timeBucket)) = .ok exponential)
      (within : params.scalingFactor * toUint256 exponential ≤ uint256Max)
      (enough : wad ≤ params.scalingFactor * toUint256 exponential) :
      PriceChange expWad params timeBucket
        (params.scalingFactor * toUint256 exponential - wad : Nat)

section Price

variable {expWad : Int → Outcome Int} {params : CurveParams} {timeElapsed result : Nat}

/-- The price is the one after the price change of the bucket. -/
theorem price_eq_ok (valid : params.Valid) :
    price expWad params timeElapsed = .ok result ↔
      ∃ change, PriceChange expWad params (timeElapsed / params.bucketSize) change ∧
        params.priceAfter change = result := by
  have lastBucket : uint256Max / params.timeCoefficient < timeElapsed / params.bucketSize ↔
      uint256Max < params.timeCoefficient * (timeElapsed / params.bucketSize) := by
    rw [uint256Max_div_lt_iff _ _ valid.timeCoefficient, mul_comm]
  have factor_pos : ∀ {exponential : Nat}, 0 < params.scalingFactor * exponential →
      0 < exponential :=
    fun positive => pos_of_mul_pos_right positive valid.scalingFactor.le
  simp only [price, exponentialPrice, bind_eq_ok, div_eq_ok, mul_eq_ok, sub_eq_ok,
    PriceBounds.guarded_eq_ok, PriceBounds.changedPrice_eq, Except.ok.injEq]
  constructor
  · rintro ⟨_, ⟨_, rfl⟩, _, ⟨_, rfl⟩, ⟨exceeds, rfl⟩ | ⟨_, _, ⟨fits, rfl⟩, priced⟩⟩
    · exact ⟨⊤, .productOverflow (lastBucket.mp exceeds), rfl⟩
    · rcases priced with ⟨large, rfl⟩ | ⟨small, exponential, computed, _, ⟨positive, rfl⟩, priced⟩
      · exact ⟨⊤, .argumentTooLarge fits large, rfl⟩
      · have largestFactor := uint256Max_div_lt_iff params.scalingFactor _ positive
        rcases priced with ⟨exceeds, rfl⟩ | ⟨_, _, ⟨within, rfl⟩, _, ⟨enough, rfl⟩, rfl⟩
        · exact ⟨⊤, .changeOverflow exponential fits (not_lt.mp small) computed
            (largestFactor.mp exceeds), rfl⟩
        · exact ⟨_, .change exponential fits (not_lt.mp small) computed within enough, rfl⟩
  · rintro ⟨change, changed, rfl⟩
    refine ⟨_, ⟨valid.bucketSize, rfl⟩, _, ⟨valid.timeCoefficient, rfl⟩, ?_⟩
    cases changed with
    | productOverflow exceeds => exact Or.inl ⟨lastBucket.mpr exceeds, rfl⟩
    | argumentTooLarge fits large =>
      exact Or.inr ⟨mt lastBucket.mp (not_lt.mpr fits), _, ⟨fits, rfl⟩, Or.inl ⟨large, rfl⟩⟩
    | changeOverflow exponential fits small computed exceeds =>
      have positive := factor_pos ((Nat.zero_le _).trans_lt exceeds)
      refine Or.inr ⟨mt lastBucket.mp (not_lt.mpr fits), _, ⟨fits, rfl⟩, Or.inr
        ⟨not_lt.mpr small, exponential, computed, _, ⟨positive, rfl⟩, Or.inl ⟨?_, rfl⟩⟩⟩
      exact (uint256Max_div_lt_iff _ _ positive).mpr exceeds
    | change exponential fits small computed within enough =>
      have positive := factor_pos (Nat.lt_of_lt_of_le (by decide) enough)
      refine Or.inr ⟨mt lastBucket.mp (not_lt.mpr fits), _, ⟨fits, rfl⟩, Or.inr
        ⟨not_lt.mpr small, exponential, computed, _, ⟨positive, rfl⟩, Or.inr
        ⟨?_, _, ⟨within, rfl⟩, _, ⟨enough, rfl⟩, rfl⟩⟩⟩
      exact mt (uint256Max_div_lt_iff _ _ positive).mp (not_lt.mpr within)

theorem isPriceAdapterConfigDataValid_eq_ok {data : Bytes}
    (decoded : getDecodedData data = .ok params) :
    isPriceAdapterConfigDataValid data = .ok true ↔ params.Valid := by
  unfold isPriceAdapterConfigDataValid
  rw [decoded, ← CurveParams.isValid_eq_true]
  exact pure_eq_ok _ _

/-- The price of a configuration that is decoded. -/
theorem getPrice_eq_ok {data : Bytes} (decoded : getDecodedData data = .ok params) :
    getPrice expWad timeElapsed data = .ok result ↔
      params.Valid ∧ ∃ change, PriceChange expWad params (timeElapsed / params.bucketSize) change ∧
        params.priceAfter change = result := by
  simp only [getPrice, decoded, bind_eq_ok, Except.ok.injEq, exists_eq_left', require_eq_ok,
    exists_const, CurveParams.isValid_eq_true]
  exact and_congr_right fun valid => price_eq_ok valid

/-- All changes of a bucket lead to one price. -/
theorem PriceChange.priceAfter_eq {first second : ℕ∞}
    (firstChanged : PriceChange expWad params (timeElapsed / params.bucketSize) first)
    (valid : params.Valid)
    (secondChanged : PriceChange expWad params (timeElapsed / params.bucketSize) second) :
    params.priceAfter first = params.priceAfter second := by
  have firstPrice := (price_eq_ok valid).mpr ⟨first, firstChanged, rfl⟩
  have secondPrice := (price_eq_ok valid).mpr ⟨second, secondChanged, rfl⟩
  exact Except.ok.inj (firstPrice.symm.trans secondPrice)

end Price

/-! ### When there is a price, and how it moves -/

section Buckets

variable {expWad : Int → Outcome Int} {params : CurveParams} {bucket first second : Nat}
  {change : ℕ∞}

/-- A product that overflows, or an argument that is too large, has an infinite change. -/
theorem PriceChange.eq_top (changed : PriceChange expWad params bucket change)
    (large : params.timeCoefficient * bucket ≤ uint256Max →
      maxExpArg < toInt256 (params.timeCoefficient * bucket)) : change = ⊤ := by
  cases changed with
  | productOverflow _ => rfl
  | argumentTooLarge _ _ => rfl
  | changeOverflow _ _ _ _ _ => rfl
  | change _ fits small _ _ _ => exact absurd (large fits) (not_lt.mpr small)

theorem PriceChange.eq_checkedChange (laws : ExpWadLaws expWad)
    (changed : PriceChange expWad params bucket change)
    (fits : params.timeCoefficient * bucket ≤ uint256Max)
    (small : toInt256 (params.timeCoefficient * bucket) ≤ maxExpArg) :
    ∃ exponential : Nat,
      expWad (toInt256 (params.timeCoefficient * bucket)) = .ok exponential ∧
      wad ≤ params.scalingFactor * exponential ∧
      change = checkedChange wad (params.scalingFactor * exponential) := by
  obtain ⟨exponential, computed, kept⟩ := laws.returns small
  refine ⟨exponential, computed, ?_⟩
  cases changed with
  | productOverflow exceeds => exact absurd fits (not_le.mpr exceeds)
  | argumentTooLarge _ large => exact absurd small (not_le.mpr large)
  | changeOverflow value _ _ computedAgain exceeds =>
    obtain rfl := Except.ok.inj (computedAgain.symm.trans computed)
    rw [kept] at exceeds
    have whole : wad ≤ uint256Max := by decide
    exact ⟨whole.trans exceeds.le, (checkedChange_of_lt exceeds).symm⟩
  | change value _ _ computedAgain within enough =>
    obtain rfl := Except.ok.inj (computedAgain.symm.trans computed)
    rw [kept] at within enough ⊢
    exact ⟨enough, (checkedChange_of_le within).symm⟩

theorem exists_priceChange (laws : ExpWadLaws expWad)
    (fits : params.timeCoefficient * bucket ≤ uint256Max)
    (small : toInt256 (params.timeCoefficient * bucket) ≤ maxExpArg)
    (enough : ∀ exponential : Nat,
      expWad (toInt256 (params.timeCoefficient * bucket)) = .ok exponential →
        wad ≤ params.scalingFactor * exponential) :
    ∃ change, PriceChange expWad params bucket change := by
  obtain ⟨exponential, computed, kept⟩ := laws.returns small
  have covered := enough exponential computed
  rw [← kept] at covered
  rcases Nat.lt_or_ge uint256Max (params.scalingFactor * toUint256 exponential)
    with exceeds | within
  · exact ⟨⊤, .changeOverflow _ fits small computed exceeds⟩
  · exact ⟨_, .change _ fits small computed within covered⟩

/-- There is a price unless the product of coefficient and bucket is converted to a negative
argument at which the scaled exponential is less than one. -/
theorem exists_priceChange_iff (laws : ExpWadLaws expWad) (valid : params.Valid) :
    (∃ change, PriceChange expWad params bucket change) ↔
      params.timeCoefficient * bucket < 2 ^ 255 ∨ 2 ^ 256 ≤ params.timeCoefficient * bucket ∨
        ∃ exponential : Nat,
          expWad ((params.timeCoefficient * bucket : Nat) - 2 ^ 256) = .ok exponential ∧
            wad ≤ params.scalingFactor * exponential := by
  have largestPositive : (0 : Int) < maxExpArg := by decide
  rcases Nat.lt_or_ge (params.timeCoefficient * bucket) (2 ^ 255) with below | above
  · refine iff_of_true ?_ (Or.inl below)
    have fits : params.timeCoefficient * bucket ≤ uint256Max := by
      unfold uint256Max
      omega
    have same := toInt256_of_lt below
    rcases le_or_gt (toInt256 (params.timeCoefficient * bucket)) maxExpArg with small | large
    · refine exists_priceChange laws fits small fun exponential computed => ?_
      have least := laws.monotone 0 _ _ _ (by rw [same]; exact Int.natCast_nonneg _) laws.zero
        computed
      have factor := valid.scalingFactor
      calc wad ≤ exponential := by exact_mod_cast least
        _ ≤ params.scalingFactor * exponential := Nat.le_mul_of_pos_left _ factor
    · exact ⟨⊤, .argumentTooLarge fits large⟩
  · rcases Nat.lt_or_ge uint256Max (params.timeCoefficient * bucket) with exceeds | fits
    · exact iff_of_true ⟨⊤, .productOverflow exceeds⟩ (Or.inr (Or.inl exceeds))
    · have wrapped := toInt256_of_le above
      have negative : toInt256 (params.timeCoefficient * bucket) ≤ maxExpArg := by
        rw [wrapped]
        unfold uint256Max at fits
        omega
      rw [or_iff_right (not_lt.mpr above), or_iff_right (by unfold uint256Max at fits; omega)]
      constructor
      · rintro ⟨change, changed⟩
        obtain ⟨exponential, computed, enough, _⟩ := changed.eq_checkedChange laws fits negative
        exact ⟨exponential, wrapped ▸ computed, enough⟩
      · rintro ⟨exponential, computed, enough⟩
        refine exists_priceChange laws fits negative fun value computedAgain => ?_
        rw [wrapped, computed, Except.ok.injEq, Nat.cast_inj] at computedAgain
        exact computedAgain ▸ enough

/-- The later of two times has a price at least as far from the initial price: its product does
not become negative before that of the earlier time does, or its change reaches the bound
or is the same. -/
def InOrder (expWad : Int → Outcome Int) (params : CurveParams) (first second : Nat) : Prop :=
  params.timeCoefficient * first < 2 ^ 255 → 2 ^ 255 ≤ params.timeCoefficient * second →
  params.timeCoefficient * second < 2 ^ 256 →
    ∃ exponential : Nat,
      expWad ((params.timeCoefficient * second : Nat) - 2 ^ 256) = .ok exponential ∧
      (min (params.room + wad) (2 ^ 256) ≤ params.scalingFactor * exponential ∨
        params.timeCoefficient * first ≤ maxExpArg ∧
          expWad (params.timeCoefficient * first : Nat) = .ok exponential)

/-- A later bucket has a larger change as long as the arguments are in order. -/
theorem PriceChange.mono {firstChange secondChange : ℕ∞} (laws : ExpWadLaws expWad)
    (firstChanged : PriceChange expWad params first firstChange)
    (secondChanged : PriceChange expWad params second secondChange)
    (fits : params.timeCoefficient * first ≤ uint256Max)
    (order : toInt256 (params.timeCoefficient * first) ≤
      toInt256 (params.timeCoefficient * second)) : firstChange ≤ secondChange := by
  by_cases large : params.timeCoefficient * second ≤ uint256Max →
      maxExpArg < toInt256 (params.timeCoefficient * second)
  · rw [secondChanged.eq_top large]
    exact le_top
  · rw [Classical.not_imp, not_lt] at large
    obtain ⟨secondFits, small⟩ := large
    obtain ⟨high, highComputed, _, rfl⟩ := secondChanged.eq_checkedChange laws secondFits small
    obtain ⟨low, lowComputed, _, rfl⟩ :=
      firstChanged.eq_checkedChange laws fits (order.trans small)
    have ordered := laws.monotone _ _ _ _ order lowComputed highComputed
    exact checkedChange_mono (Nat.mul_le_mul_left _ (by exact_mod_cast ordered))

/-- A bucket whose exponential is at least a given one has a larger change, unless the two
exponentials are the same. -/
theorem PriceChange.eq_of_le (laws : ExpWadLaws expWad) (valid : params.Valid)
    (changed : PriceChange expWad params bucket change)
    (fits : params.timeCoefficient * bucket ≤ uint256Max) {exponential : Nat}
    (least : ∀ value : Nat, expWad (toInt256 (params.timeCoefficient * bucket)) = .ok value →
      exponential ≤ value)
    (enough : wad ≤ params.scalingFactor * exponential)
    (order : change ≤ (params.scalingFactor * exponential - wad : Nat)) :
    toInt256 (params.timeCoefficient * bucket) ≤ maxExpArg ∧
      expWad (toInt256 (params.timeCoefficient * bucket)) = .ok exponential := by
  have small : toInt256 (params.timeCoefficient * bucket) ≤ maxExpArg := by
    by_contra large
    rw [changed.eq_top fun _ => not_le.mp large] at order
    exact absurd (top_le_iff.mp order) (ENat.natCast_ne_top _)
  obtain ⟨value, computed, valueEnough, rfl⟩ := changed.eq_checkedChange laws fits small
  have scaled : params.scalingFactor * value ≤ params.scalingFactor * exponential := by
    rcases Nat.lt_or_ge uint256Max (params.scalingFactor * value) with exceeds | within
    · rw [checkedChange_of_lt exceeds] at order
      exact absurd (top_le_iff.mp order) (ENat.natCast_ne_top _)
    · rw [checkedChange_of_le within, Nat.cast_le] at order
      omega
  have equal : value = exponential :=
    le_antisymm (Nat.le_of_mul_le_mul_left scaled valid.scalingFactor) (least value computed)
  exact ⟨small, equal ▸ computed⟩

/-- Where the argument of the later bucket has become negative and that of the earlier one has
not, the later change is at most the earlier one. -/
theorem PriceChange.ordered_iff_of_wrapped {firstChange secondChange : ℕ∞}
    (laws : ExpWadLaws expWad) (valid : params.Valid)
    (firstChanged : PriceChange expWad params first firstChange)
    (secondChanged : PriceChange expWad params second secondChange)
    (earlier : params.timeCoefficient * first < 2 ^ 255)
    (above : 2 ^ 255 ≤ params.timeCoefficient * second)
    (fits : params.timeCoefficient * second ≤ uint256Max) :
    (firstChange ≤ secondChange ∨ (params.room : ℕ∞) ≤ secondChange) ↔
      ∃ exponential : Nat,
        expWad ((params.timeCoefficient * second : Nat) - 2 ^ 256) = .ok exponential ∧
        (min (params.room + wad) (2 ^ 256) ≤ params.scalingFactor * exponential ∨
          params.timeCoefficient * first ≤ maxExpArg ∧
            expWad (params.timeCoefficient * first : Nat) = .ok exponential) := by
  have wrapped := toInt256_of_le above
  have same := toInt256_of_lt earlier
  have firstFits : params.timeCoefficient * first ≤ uint256Max := by
    unfold uint256Max
    omega
  have negative : toInt256 (params.timeCoefficient * second) < 0 := by
    unfold uint256Max at fits
    rw [wrapped]
    omega
  have small : toInt256 (params.timeCoefficient * second) ≤ maxExpArg :=
    negative.le.trans (by decide)
  obtain ⟨high, highComputed, highEnough, rfl⟩ :=
    secondChanged.eq_checkedChange laws fits small
  rw [wrapped] at highComputed
  rw [le_checkedChange_iff]
  constructor
  · intro moved
    refine ⟨high, highComputed, ?_⟩
    rcases Nat.lt_or_ge uint256Max (params.scalingFactor * high) with exceeds | within
    · left
      unfold uint256Max at exceeds
      omega
    · rcases moved with larger | exceeds | reached
      · right
        rw [checkedChange_of_le within] at larger
        have descending : ∀ low : Nat,
            expWad (toInt256 (params.timeCoefficient * first)) = .ok low → high ≤ low := by
          intro low lowComputed
          have order := laws.monotone _ _ _ _ (negative.le.trans (same ▸ Int.natCast_nonneg _))
            (wrapped ▸ highComputed) lowComputed
          exact_mod_cast order
        have equal := firstChanged.eq_of_le laws valid firstFits descending highEnough larger
        rwa [same] at equal
      · exact absurd exceeds (not_lt.mpr within)
      · exact Or.inl ((min_le_left _ _).trans (Nat.add_le_of_le_sub highEnough reached))
  · rintro ⟨exponential, computed, moved⟩
    rw [highComputed, Except.ok.injEq, Nat.cast_inj] at computed
    subst computed
    rcases moved with reached | ⟨firstSmall, lowComputed⟩
    · right
      unfold uint256Max
      omega
    · left
      obtain ⟨low, lowComputedAgain, _, rfl⟩ :=
        firstChanged.eq_checkedChange laws firstFits (same ▸ firstSmall)
      rw [same, lowComputed, Except.ok.injEq, Nat.cast_inj] at lowComputedAgain
      rw [lowComputedAgain]

/-- The changes of two buckets move the price one way exactly when the buckets are in order. -/
theorem PriceChange.ordered_iff {firstChange secondChange : ℕ∞} (laws : ExpWadLaws expWad)
    (valid : params.Valid) (firstChanged : PriceChange expWad params first firstChange)
    (secondChanged : PriceChange expWad params second secondChange) (order : first ≤ second) :
    (firstChange ≤ secondChange ∨ (params.room : ℕ∞) ≤ secondChange) ↔
      InOrder expWad params first second := by
  have products : params.timeCoefficient * first ≤ params.timeCoefficient * second :=
    Nat.mul_le_mul_left _ order
  unfold InOrder
  rcases Nat.lt_or_ge uint256Max (params.timeCoefficient * second) with exceeds | fits
  · refine iff_of_true (Or.inl ?_) fun _ _ within => absurd exceeds (by unfold uint256Max; omega)
    rw [secondChanged.eq_top fun within => absurd within (not_le.mpr exceeds)]
    exact le_top
  · have firstFits := products.trans fits
    rcases Nat.lt_or_ge (params.timeCoefficient * second) (2 ^ 255) with below | above
    · refine iff_of_true (Or.inl ?_) fun _ large _ => absurd below (not_lt.mpr large)
      refine firstChanged.mono laws secondChanged firstFits ?_
      rw [toInt256_of_lt below, toInt256_of_lt (products.trans_lt below)]
      exact_mod_cast products
    · rcases Nat.lt_or_ge (params.timeCoefficient * first) (2 ^ 255) with earlier | wrapped
      · rw [firstChanged.ordered_iff_of_wrapped laws valid secondChanged earlier above fits]
        unfold uint256Max at fits
        exact ⟨fun holds _ _ _ => holds, fun holds => holds earlier above (by omega)⟩
      · refine iff_of_true (Or.inl ?_) fun small => absurd wrapped (not_le.mpr small)
        refine firstChanged.mono laws secondChanged firstFits ?_
        rw [toInt256_of_le above, toInt256_of_le wrapped]
        omega

end Buckets

end BoundedStepwiseExponentialPriceAdapter

end IndexProtocol

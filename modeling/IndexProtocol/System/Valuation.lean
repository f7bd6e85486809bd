/-
This file proves how good the prices and the valuations of the protocol are. The
prices of a pair and of the reversed pair, where oracles give both, multiply to
one up to rounding: one of them is a quotient whose divisor is the other, or both
are quotients of the same two prices in the master quote asset. The valuation of a
Set is within an error of the exact one that depends on the prices alone: cutting
off the normalized units costs at most one unit of each component, and each later
quotient at most one of its own units.
-/

import IndexProtocol.Library.Truncation
import IndexProtocol.Protocol.SetTokenCreator
import IndexProtocol.Protocol.SetValuer

namespace IndexProtocol

open Revert PreciseUnitMath

/-! ### Prices of reversed pairs -/

namespace PriceOracle

variable {oracle : PriceOracle} {registry : ControllerRegistry} {feeds : PriceFeeds}
  {controllerAddress msgSender first second : Address} {price inverse : Nat}

/-- There is an oracle of the pair or of the reversed pair. -/
def Listed (oracle : PriceOracle) (assetOne assetTwo : Address) : Prop :=
  oracle.oracles assetOne assetTwo ≠ 0 ∨ oracle.oracles assetTwo assetOne ≠ 0

/-- The oracles give a price, so that no adapter is asked. -/
def Quoted (oracle : PriceOracle) (assetOne assetTwo : Address) : Prop :=
  oracle.Listed assetOne assetTwo ∨
    oracle.Listed assetOne oracle.masterQuoteAsset ∧
      oracle.Listed assetTwo oracle.masterQuoteAsset

theorem Listed.symm (listed : oracle.Listed first second) : oracle.Listed second first :=
  Or.symm listed

/-- Whether a direct or inverse price is found depends on the table of oracles alone. -/
theorem getDirectOrInversePrice_found {found : Bool}
    (returned : oracle.getDirectOrInversePrice feeds first second = .ok (found, price)) :
    found = true ↔ oracle.Listed first second := by
  unfold getDirectOrInversePrice at returned
  dsimp only at returned
  unfold Listed
  split at returned
  · simp only [bind_eq_ok, pure_eq_ok, Prod.mk.injEq] at returned
    obtain ⟨_, _, rfl, _⟩ := returned
    exact iff_of_true rfl (Or.inl ‹_›)
  · rename_i noDirect
    split at returned
    · simp only [bind_eq_ok, pure_eq_ok, Prod.mk.injEq] at returned
      obtain ⟨_, _, rfl, _⟩ := returned
      exact iff_of_true rfl (Or.inr ‹_›)
    · rename_i noInverse
      simp only [pure_eq_ok, Prod.mk.injEq] at returned
      obtain ⟨rfl, _⟩ := returned
      exact iff_of_false Bool.false_ne_true fun listed => listed.elim noDirect noInverse

/-- A price that is read from a direct or inverse oracle. -/
def ReadsPrice (oracle : PriceOracle) (feeds : PriceFeeds) (assetOne assetTwo : Address)
    (price : Nat) : Prop :=
  oracle.getDirectOrInversePrice feeds assetOne assetTwo = .ok (true, price)

/-- A pair that the oracles quote is priced directly, or else by its two prices in the master
quote asset. -/
theorem getPrice_of_quoted (quoted : oracle.Quoted first second)
    (returned : oracle.getPrice registry controllerAddress feeds msgSender first second =
      .ok price) :
    oracle.Listed first second ∧ oracle.ReadsPrice feeds first second price ∨
      ¬oracle.Listed first second ∧ ∃ one two,
        oracle.ReadsPrice feeds first oracle.masterQuoteAsset one ∧
          oracle.ReadsPrice feeds second oracle.masterQuoteAsset two ∧
          preciseDiv one two = .ok price := by
  simp only [getPrice, bind_eq_ok, require_eq_ok, exists_const, pure_eq_ok] at returned
  obtain ⟨_, ⟨found, direct⟩, directly, ⟨linkedFound, linked⟩, linking, ⟨finallyFound, final⟩,
    asking, _, rfl⟩ := returned
  have listed := getDirectOrInversePrice_found directly
  cases found with
  | true =>
    obtain ⟨rfl, rfl⟩ := Prod.mk.inj (Except.ok.inj linking)
    obtain ⟨_, rfl⟩ := Prod.mk.inj (Except.ok.inj asking)
    exact Or.inl ⟨listed.mp rfl, directly⟩
  | false =>
    have unlisted : ¬oracle.Listed first second := fun has =>
      Bool.false_ne_true (listed.mpr has)
    obtain ⟨oneListed, twoListed⟩ := quoted.resolve_left unlisted
    change oracle.getPriceFromMasterQuote feeds first second = _ at linking
    simp only [getPriceFromMasterQuote, bind_eq_ok, Prod.exists] at linking
    obtain ⟨foundOne, one, readsOne, foundTwo, two, readsTwo, dividing⟩ := linking
    obtain rfl := (getDirectOrInversePrice_found readsOne).mpr oneListed
    obtain rfl := (getDirectOrInversePrice_found readsTwo).mpr twoListed
    simp only [and_self, if_true, bind_eq_ok, pure_eq_ok, Prod.mk.injEq] at dividing
    obtain ⟨_, divided, rfl, rfl⟩ := dividing
    obtain ⟨_, rfl⟩ := Prod.mk.inj (Except.ok.inj asking)
    exact Or.inr ⟨unlisted, one, two, readsOne, readsTwo, divided⟩

/-- Two prices that multiply to one, up to rounding each of them down. -/
def Reciprocal (price inverse : Nat) : Prop :=
  price * inverse ≤ preciseUnit ^ 2 ∧ preciseUnit ^ 2 ≤ price * inverse + price + inverse

theorem Reciprocal.symm (reciprocal : Reciprocal price inverse) : Reciprocal inverse price := by
  unfold Reciprocal at *
  rw [mul_comm inverse price, Nat.add_right_comm]
  exact reciprocal

/-- The inverse of a price that is read. -/
theorem reciprocal_of_inverse (divided : preciseDiv preciseUnit price = .ok inverse) :
    Reciprocal price inverse := by
  obtain ⟨_, positive, rfl⟩ := (preciseDiv_eq_ok _ _ _).mp divided
  have floor := Nat.div_mul_le_self (preciseUnit * preciseUnit) price
  have strict := Nat.lt_mul_div_succ (preciseUnit * preciseUnit) positive
  constructor
  · rw [mul_comm price, sq]
    exact floor
  · rw [mul_add, mul_one] at strict
    rw [sq]
    exact strict.le.trans (Nat.le_add_right _ _)

/-- The two quotients of a pair of prices. -/
theorem reciprocal_of_quotients {one two : Nat} (there : preciseDiv one two = .ok price)
    (back : preciseDiv two one = .ok inverse) : Reciprocal price inverse := by
  obtain ⟨_, twoPositive, priced⟩ := (preciseDiv_eq_ok _ _ _).mp there
  obtain ⟨_, onePositive, inverted⟩ := (preciseDiv_eq_ok _ _ _).mp back
  have priceLe : price * two ≤ one * preciseUnit := priced ▸ Nat.div_mul_le_self _ _
  have inverseLe : inverse * one ≤ two * preciseUnit := inverted ▸ Nat.div_mul_le_self _ _
  have priceLt : one * preciseUnit < two * (price + 1) :=
    priced ▸ Nat.lt_mul_div_succ _ twoPositive
  have inverseLt : two * preciseUnit < one * (inverse + 1) :=
    inverted ▸ Nat.lt_mul_div_succ _ onePositive
  have product : 0 < one * two := Nat.mul_pos onePositive twoPositive
  constructor
  · refine Nat.le_of_mul_le_mul_right ?_ product
    calc price * inverse * (one * two) = price * two * (inverse * one) := by ring
      _ ≤ one * preciseUnit * (two * preciseUnit) := Nat.mul_le_mul priceLe inverseLe
      _ = preciseUnit ^ 2 * (one * two) := by ring
  · have strict : preciseUnit ^ 2 < (price + 1) * (inverse + 1) := by
      refine lt_of_mul_lt_mul_right ?_ product.le
      calc preciseUnit ^ 2 * (one * two) = one * preciseUnit * (two * preciseUnit) := by ring
        _ < two * (price + 1) * (one * (inverse + 1)) :=
            Nat.mul_lt_mul'' priceLt inverseLt
        _ = (price + 1) * (inverse + 1) * (one * two) := by ring
    have expanded : (price + 1) * (inverse + 1) = price * inverse + price + inverse + 1 := by ring
    omega

/-- The price of a pair with an oracle and of its reversal. -/
theorem reciprocal_of_listed
    (single : oracle.oracles first second = 0 ∨ oracle.oracles second first = 0)
    (listed : oracle.Listed first second) (there : oracle.ReadsPrice feeds first second price)
    (back : oracle.ReadsPrice feeds second first inverse) : Reciprocal price inverse := by
  have inverted : ∀ {one two : Address} {direct quotient : Nat}, oracle.oracles one two ≠ 0 →
      oracle.oracles two one = 0 → oracle.ReadsPrice feeds one two direct →
      oracle.ReadsPrice feeds two one quotient → Reciprocal direct quotient := by
    intro one two direct quotient has missing reads inverts
    unfold ReadsPrice getDirectOrInversePrice at reads inverts
    dsimp only at reads inverts
    rw [if_pos has] at reads
    rw [if_neg (not_not.mpr missing), if_pos has] at inverts
    simp only [calculateInversePrice, bind_eq_ok, pure_eq_ok, Prod.mk.injEq, true_and]
      at reads inverts
    obtain ⟨_, read, rfl⟩ := reads
    obtain ⟨_, ⟨value, again, divided⟩, rfl⟩ := inverts
    obtain rfl := Except.ok.inj (again.symm.trans read)
    exact reciprocal_of_inverse divided
  by_cases direct : oracle.oracles first second = 0
  · exact (inverted (listed.resolve_left fun has => has direct) direct back there).symm
  · exact inverted direct (single.resolve_left direct) there back

/-- Unless a pair has an oracle of its own in both directions, the prices that the oracles give of
it and of its reversal multiply to one, up to rounding each of them down; so no amount grows by
being converted at the one price and back at the other. -/
theorem prices_reciprocal (quoted : oracle.Quoted first second)
    (single : oracle.oracles first second = 0 ∨ oracle.oracles second first = 0)
    (there : oracle.getPrice registry controllerAddress feeds msgSender first second =
      .ok price)
    (back : oracle.getPrice registry controllerAddress feeds msgSender second first =
      .ok inverse) :
    price * inverse ≤ preciseUnit ^ 2 ∧
      preciseUnit ^ 2 ≤ price * inverse + price + inverse ∧
      ∀ amount, Rounding.mulFloor preciseUnit (Rounding.mulFloor preciseUnit amount price)
        inverse ≤ amount := by
  have reversed : oracle.Quoted second first := quoted.imp Listed.symm And.symm
  have reciprocal : Reciprocal price inverse := by
    rcases getPrice_of_quoted quoted there with ⟨listed, direct⟩ | ⟨unlisted, one, two, readsOne,
      readsTwo, divided⟩
    · rcases getPrice_of_quoted reversed back with ⟨_, opposite⟩ | ⟨none, _⟩
      · exact reciprocal_of_listed single listed direct opposite
      · exact absurd listed.symm none
    · rcases getPrice_of_quoted reversed back with ⟨listed, _⟩ | ⟨_, other, another, readsOther,
        readsAnother, opposite⟩
      · exact absurd listed.symm unlisted
      · obtain ⟨_, rfl⟩ := Prod.mk.inj (Except.ok.inj (readsOther.symm.trans readsTwo))
        obtain ⟨_, rfl⟩ := Prod.mk.inj (Except.ok.inj (readsAnother.symm.trans readsOne))
        exact reciprocal_of_quotients divided opposite
  refine ⟨reciprocal.1, reciprocal.2, fun amount => ?_⟩
  have converted := Rounding.mulFloor_mul_le preciseUnit amount price
  have returned := Rounding.mulFloor_mul_le preciseUnit
    (Rounding.mulFloor preciseUnit amount price) inverse
  refine Nat.le_of_mul_le_mul_right ?_ (pow_pos preciseUnit_pos 2)
  calc Rounding.mulFloor preciseUnit (Rounding.mulFloor preciseUnit amount price) inverse *
        preciseUnit ^ 2
      = Rounding.mulFloor preciseUnit (Rounding.mulFloor preciseUnit amount price) inverse *
          preciseUnit * preciseUnit := by ring
    _ ≤ Rounding.mulFloor preciseUnit amount price * inverse * preciseUnit :=
        Nat.mul_le_mul_right _ returned
    _ = Rounding.mulFloor preciseUnit amount price * preciseUnit * inverse := by ring
    _ ≤ amount * price * inverse := Nat.mul_le_mul_right _ converted
    _ = amount * (price * inverse) := by ring
    _ ≤ amount * preciseUnit ^ 2 := Nat.mul_le_mul_left _ reciprocal.1

/-- A table in which token 3 is priced in token 5, and token 5 in token 6. -/
def sampleOracle : PriceOracle where
  owner := 9
  oracles := fun assetOne assetTwo =>
    if assetOne = 3 ∧ assetTwo = 5 then 20 else if assetOne = 5 ∧ assetTwo = 6 then 21 else 0
  masterQuoteAsset := 5
  adapters := []

/-- Token 3 is worth 0.7 of token 5, which is worth 3 of token 6. -/
def sampleFeeds : PriceFeeds where
  read := fun oracle => pure (if oracle = 20 then 7 * 10 ^ 17 else 3 * 10 ^ 18)
  adapterPrice := fun _ _ _ => pure (false, 0)

/-- The valuer at account 4 is a resource of the system. -/
def sampleRegistry : ControllerRegistry :=
  { ControllerRegistry.construct 9 9 with isResource := fun account => account = 4 }

/-- Token 6 has an inverse price in the master quote asset, a third that is rounded. -/
theorem prices_reciprocal_sample :
    ∃ price inverse,
      sampleOracle.getPrice sampleRegistry 1 sampleFeeds 4 3 6 = .ok price ∧
      sampleOracle.getPrice sampleRegistry 1 sampleFeeds 4 6 3 = .ok inverse ∧
      price * inverse ≤ preciseUnit ^ 2 := by
  have priced : returns (sampleOracle.getPrice sampleRegistry 1 sampleFeeds 4 3 6)
      (fun _ => true) = true := by decide
  have inverted : returns (sampleOracle.getPrice sampleRegistry 1 sampleFeeds 4 6 3)
      (fun _ => true) = true := by decide
  obtain ⟨price, there, _⟩ := exists_of_returns priced
  obtain ⟨inverse, back, _⟩ := exists_of_returns inverted
  have quoted : sampleOracle.Quoted 3 6 :=
    Or.inr ⟨Or.inl (by decide), Or.inr (by decide)⟩
  exact ⟨price, inverse, there, back,
    (prices_reciprocal quoted (Or.inl (by decide)) there back).1⟩

end PriceOracle

/-! ### Valuations -/

namespace SetValuer

variable {contracts : ValuerContracts} {valuer quoteAsset : Address} {setToken : SetToken}
  {valuation : Nat}

/-- The value of a call that returns. -/
def valueOf {Value : Type} (default : Value) : Outcome Value → Value
  | .ok value => value
  | .error _ => default

/-- What the valuer is told of a token's price in the master quote asset. -/
def priceOf (contracts : ValuerContracts) (valuer token : Address) : Nat :=
  valueOf 0 (contracts.getPrice valuer token contracts.priceOracle.masterQuoteAsset)

/-- The units of a component, default and external together. -/
def unitsOf (setToken : SetToken) (component : Address) : Int :=
  valueOf 0 (setToken.getTotalComponentRealUnits component)

/-- What the valuer adds for a component. -/
def componentValue (contracts : ValuerContracts) (valuer : Address) (setToken : SetToken)
    (component : Address) : Int :=
  ((unitsOf setToken component * preciseUnit).tdiv (contracts.baseUnits component) *
    priceOf contracts valuer component).tdiv preciseUnit

/-- The worth of a component without any rounding. -/
def exactValue (contracts : ValuerContracts) (valuer : Address) (setToken : SetToken)
    (component : Address) : ℚ :=
  unitsOf setToken component / contracts.baseUnits component *
    priceOf contracts valuer component

/-- One normalized unit of the component at its price, and one unit of the value. -/
def valueError (contracts : ValuerContracts) (valuer component : Address) : ℚ :=
  priceOf contracts valuer component / preciseUnit + 1

/-- The conversion from the master quote asset to the quote asset. -/
def quoteRate (contracts : ValuerContracts) (valuer quoteAsset : Address) : ℚ :=
  if contracts.priceOracle.masterQuoteAsset ≠ quoteAsset then
    preciseUnit / priceOf contracts valuer quoteAsset
  else 1

theorem addComponentValue_eq_ok {component : Address} {before next : Int}
    (returned : addComponentValue contracts valuer setToken before component = .ok next) :
    0 < contracts.baseUnits component ∧
      next = componentValue contracts valuer setToken component + before := by
  simp only [addComponentValue, bind_eq_ok, SafeCast.toInt256_eq_ok, preciseMulInt_eq_ok,
    SignedSafeMath.add_eq_ok] at returned
  obtain ⟨price, priced, units, read, _, ⟨_, rfl⟩, normalized, dividing, _, ⟨_, rfl⟩, value,
    ⟨_, multiplied⟩, _, rfl⟩ := returned
  obtain ⟨nonzero, rfl⟩ := preciseDivInt_eq_ok dividing
  refine ⟨Nat.pos_of_ne_zero fun zero => nonzero (by rw [zero]; rfl), ?_⟩
  unfold componentValue priceOf unitsOf
  rw [priced, read]
  exact congrArg (· + before) multiplied.symm

/-- The loop sums what is added for each component. -/
theorem addComponentValues_eq_ok {total : Int}
    (returned : setToken.components.foldlM (addComponentValue contracts valuer setToken) 0 =
      .ok total) :
    (∀ component ∈ setToken.components, 0 < contracts.baseUnits component) ∧
      total = (setToken.components.map (componentValue contracts valuer setToken)).sum := by
  refine foldlM_seen _ (fun seen total => (∀ component ∈ seen, 0 < contracts.baseUnits component) ∧
    total = (seen.map (componentValue contracts valuer setToken)).sum) setToken.components
    ⟨fun _ member => absurd member List.not_mem_nil, rfl⟩ ?_ returned
  rintro seen component rest before next - ⟨positive, rfl⟩ added
  obtain ⟨scale, rfl⟩ := addComponentValue_eq_ok added
  constructor
  · intro other member
    rcases List.mem_append.mp member with earlier | last
    · exact positive other earlier
    · exact List.mem_singleton.mp last ▸ scale
  · rw [List.map_append, List.sum_append, List.map_singleton, List.sum_singleton, add_comm]

/-- The two quotients of a component, one after the other. -/
theorem componentValue_within {component : Address}
    (positive : 0 < contracts.baseUnits component) :
    Truncation.Within (valueError contracts valuer component)
      (componentValue contracts valuer setToken component)
      (exactValue contracts valuer setToken component) := by
  have scalePositive : (0 : Int) < contracts.baseUnits component := by exact_mod_cast positive
  have normalized := Truncation.within_tdiv (unitsOf setToken component * preciseUnit)
    scalePositive
  have valued := (normalized.mul (priceOf contracts valuer component)).tdiv preciseUnit_int_pos
  have unit : (preciseUnit : ℚ) ≠ 0 := by exact_mod_cast preciseUnit_pos.ne'
  have exact : ((unitsOf setToken component * preciseUnit : Int) : ℚ) /
        (contracts.baseUnits component : Int) * priceOf contracts valuer component /
        (preciseUnit : Int) = exactValue contracts valuer setToken component := by
    unfold exactValue
    push_cast
    field_simp
  have error : (1 : ℚ) * priceOf contracts valuer component / (preciseUnit : Int) + 1 =
      valueError contracts valuer component := by
    unfold valueError
    push_cast
    rw [one_mul]
  rw [exact, error] at valued
  exact valued

/-- A component that is no debt is never valued above its worth. -/
theorem componentValue_le {component : Address}
    (positive : 0 < contracts.baseUnits component) (owned : 0 ≤ unitsOf setToken component) :
    0 ≤ componentValue contracts valuer setToken component ∧
      (componentValue contracts valuer setToken component : ℚ) ≤
        exactValue contracts valuer setToken component := by
  have scalePositive : (0 : Int) < contracts.baseUnits component := by exact_mod_cast positive
  have priceNonneg : (0 : ℚ) ≤ priceOf contracts valuer component := Nat.cast_nonneg _
  have unitPositive : (0 : ℚ) < preciseUnit := by exact_mod_cast preciseUnit_pos
  have amount : 0 ≤ unitsOf setToken component * preciseUnit :=
    mul_nonneg owned preciseUnit_int_pos.le
  have normalized := Truncation.tdiv_le_div amount scalePositive
  have product : 0 ≤ (unitsOf setToken component * preciseUnit).tdiv
      (contracts.baseUnits component) * priceOf contracts valuer component :=
    mul_nonneg (Int.tdiv_nonneg amount scalePositive.le) (Int.natCast_nonneg _)
  refine ⟨Int.tdiv_nonneg product preciseUnit_int_pos.le,
    (Truncation.tdiv_le_div product preciseUnit_int_pos).trans ?_⟩
  have scaled := mul_le_mul_of_nonneg_right normalized priceNonneg
  have unit : (preciseUnit : ℚ) ≠ 0 := unitPositive.ne'
  have exact : exactValue contracts valuer setToken component =
      ((unitsOf setToken component * preciseUnit : Int) : ℚ) /
        (contracts.baseUnits component : Int) * priceOf contracts valuer component /
        (preciseUnit : Int) := by
    unfold exactValue
    push_cast
    field_simp
  rw [exact]
  push_cast at scaled ⊢
  exact div_le_div_of_nonneg_right scaled unitPositive.le

/-- The conversion keeps the error, over the quote price, and adds one unit. It never raises a
valuation that is not negative. -/
theorem quote_within {total converted : Int} {error exact : ℚ}
    (within : Truncation.Within error total exact)
    (returned : quote contracts valuer quoteAsset total = .ok converted) :
    Truncation.Within (error * quoteRate contracts valuer quoteAsset + 1) converted
        (exact * quoteRate contracts valuer quoteAsset) ∧
      (0 ≤ total → (total : ℚ) ≤ exact →
        (converted : ℚ) ≤ exact * quoteRate contracts valuer quoteAsset) := by
  unfold quote at returned
  unfold quoteRate
  by_cases other : contracts.priceOracle.masterQuoteAsset ≠ quoteAsset
  · rw [if_pos other] at returned ⊢
    simp only [bind_eq_ok, SafeCast.toInt256_eq_ok] at returned
    obtain ⟨price, priced, _, ⟨_, rfl⟩, dividing⟩ := returned
    obtain ⟨nonzero, rfl⟩ := preciseDivInt_eq_ok dividing
    have read : priceOf contracts valuer quoteAsset = price := by
      unfold priceOf
      rw [priced]
      rfl
    have positive : (0 : Int) < price := by omega
    have pricePositive : (0 : ℚ) < price := by exact_mod_cast positive
    rw [read]
    constructor
    · have scaled := (within.mul preciseUnit).tdiv positive
      rw [← mul_div_assoc, ← mul_div_assoc]
      exact_mod_cast scaled
    · intro totalNonneg below
      have product : 0 ≤ total * preciseUnit := mul_nonneg totalNonneg preciseUnit_int_pos.le
      refine (Truncation.tdiv_le_div product positive).trans ?_
      rw [← mul_div_assoc]
      push_cast
      exact div_le_div_of_nonneg_right
        (mul_le_mul_of_nonneg_right below (Nat.cast_nonneg _)) pricePositive.le
  · rw [if_neg other] at returned ⊢
    obtain rfl := (pure_eq_ok _ _).mp returned
    rw [mul_one, mul_one]
    exact ⟨within.mono (le_add_of_nonneg_right zero_le_one), fun _ below => below⟩

/-- The valuation that is reported is within an error of the exact one that depends on the prices
alone: one normalized unit and one unit of value for each component, at the price of the quote
asset, and one unit more. A Set without debts is never valued above its worth, and the order in
which the Set lists its components does not matter. -/
theorem valuation_accurate
    (returned : calculateSetTokenValuation contracts valuer setToken quoteAsset =
      .ok valuation) :
    Truncation.Within
        ((setToken.components.map (valueError contracts valuer)).sum *
          quoteRate contracts valuer quoteAsset + 1)
        valuation
        ((setToken.components.map (exactValue contracts valuer setToken)).sum *
          quoteRate contracts valuer quoteAsset) ∧
      ((∀ component ∈ setToken.components, 0 ≤ unitsOf setToken component) →
        (valuation : ℚ) ≤
          (setToken.components.map (exactValue contracts valuer setToken)).sum *
            quoteRate contracts valuer quoteAsset) ∧
      ∀ reordered other, setToken.components.Perm reordered →
        calculateSetTokenValuation contracts valuer { setToken with components := reordered }
          quoteAsset = .ok other → other = valuation := by
  simp only [calculateSetTokenValuation, bind_eq_ok, SafeCast.toUint256_eq_ok] at returned
  obtain ⟨total, adding, converted, quoting, rfl⟩ := returned
  obtain ⟨scales, rfl⟩ := addComponentValues_eq_ok adding
  have within : Truncation.Within (setToken.components.map (valueError contracts valuer)).sum
      (setToken.components.map (componentValue contracts valuer setToken)).sum
      (setToken.components.map (exactValue contracts valuer setToken)).sum :=
    Truncation.Within.sum setToken.components fun component member =>
      componentValue_within (scales component member)
  obtain ⟨near, below⟩ := quote_within within quoting
  refine ⟨near, fun owned => below ?_ ?_, fun reordered other permuted again => ?_⟩
  · refine List.sum_nonneg fun value member => ?_
    obtain ⟨component, listed, rfl⟩ := List.mem_map.mp member
    exact (componentValue_le (scales component listed) (owned component listed)).1
  · exact Truncation.sum_le_sum setToken.components fun component listed =>
      (componentValue_le (scales component listed) (owned component listed)).2
  · simp only [calculateSetTokenValuation, bind_eq_ok, SafeCast.toUint256_eq_ok] at again
    obtain ⟨otherTotal, otherAdding, otherConverted, otherQuoting, rfl⟩ := again
    obtain ⟨_, rfl⟩ := addComponentValues_eq_ok otherAdding
    have sums : (reordered.map (componentValue contracts valuer setToken)).sum =
        (setToken.components.map (componentValue contracts valuer setToken)).sum :=
      (permuted.symm.map _).sum_eq
    change quote contracts valuer quoteAsset
      (reordered.map (componentValue contracts valuer setToken)).sum = _ at otherQuoting
    rw [sums, quoting] at otherQuoting
    exact (Int.ofNat.inj (Except.ok.inj otherQuoting)).symm

/-- A Set of one and an odd unit of token 3 and a half of token 6, valued in token 6. -/
theorem valuation_accurate_sample :
    let contracts : ValuerContracts :=
      { registry := PriceOracle.sampleRegistry, controllerAddress := 1
        priceOracle := PriceOracle.sampleOracle, feeds := PriceOracle.sampleFeeds
        decimals := fun _ => 18 }
    let setToken := SetToken.construct 2 [3, 6] [10 ^ 18 + 1, 5 * 10 ^ 17] [4] 5
    ∃ valuation, calculateSetTokenValuation contracts 4 setToken 6 = .ok valuation ∧
      (valuation : ℚ) ≤ (setToken.components.map (exactValue contracts 4 setToken)).sum *
        quoteRate contracts 4 6 := by
  intro contracts setToken
  have succeeds : returns (calculateSetTokenValuation contracts 4 setToken 6)
      (fun _ => true) = true := by decide
  obtain ⟨valuation, returned, _⟩ := exists_of_returns succeeds
  have owned : setToken.components.all (fun component =>
      decide (0 ≤ unitsOf setToken component)) = true := by decide
  exact ⟨valuation, returned, (valuation_accurate returned).2.1 fun component listed =>
    of_decide_eq_true (List.all_eq_true.mp owned component listed)⟩

end SetValuer

end IndexProtocol

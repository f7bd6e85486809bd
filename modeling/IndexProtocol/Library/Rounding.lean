/-
This file collects the facts about fixed-point products over a scale: the
product rounded down, the product rounded up, what sums of either keep of the
exact value, when an amount survives a change of scale and back, how shares of
two reserves in proportion are rounded, and how a truncated quotient is
corrected to the floor and away from zero.
-/

import Mathlib.Algebra.Order.Floor.Div
import Mathlib.Algebra.BigOperators.Group.List.Basic
import Mathlib.Data.Rat.Floor
import Mathlib.Tactic.Linarith
import Mathlib.Tactic.Ring

namespace Rounding

/-- The product of two amounts over a scale, rounded down. -/
def mulFloor (scale first second : Nat) : Nat := first * second / scale

/-- The product of two amounts over a scale, rounded up. -/
def mulCeil (scale first second : Nat) : Nat := (first * second) ⌈/⌉ scale

section Bounds

variable (scale first second : Nat)

theorem mulFloor_comm : mulFloor scale first second = mulFloor scale second first := by
  unfold mulFloor
  rw [mul_comm]

theorem mulCeil_comm : mulCeil scale first second = mulCeil scale second first := by
  unfold mulCeil
  rw [mul_comm]

theorem mulFloor_mul_le : mulFloor scale first second * scale ≤ first * second :=
  Nat.div_mul_le_self _ _

theorem le_mulCeil_mul (positive : 0 < scale) :
    first * second ≤ mulCeil scale first second * scale := by
  unfold mulCeil
  rw [mul_comm _ scale]
  exact le_smul_ceilDiv positive

theorem mulCeil_le_iff (positive : 0 < scale) (bound : Nat) :
    mulCeil scale first second ≤ bound ↔ first * second ≤ bound * scale := by
  unfold mulCeil
  rw [ceilDiv_le_iff_le_smul positive, smul_eq_mul, mul_comm scale bound]

theorem le_mulFloor_iff (positive : 0 < scale) (bound : Nat) :
    bound ≤ mulFloor scale first second ↔ bound * scale ≤ first * second :=
  Nat.le_div_iff_mul_le positive

theorem mulCeil_mul_lt (positive : 0 < scale) :
    mulCeil scale first second * scale < first * second + scale := by
  unfold mulCeil
  rw [Nat.ceilDiv_eq_add_pred_div]
  have floor := Nat.div_mul_le_self (first * second + scale - 1) scale
  omega

theorem mulCeil_mono {scale first second less : Nat} (positive : 0 < scale)
    (order : less ≤ first) : mulCeil scale less second ≤ mulCeil scale first second :=
  (mulCeil_le_iff _ _ _ positive _).mpr
    ((Nat.mul_le_mul_right second order).trans (le_mulCeil_mul _ _ _ positive))

/-- A product rounded down is at most a larger one rounded up. -/
theorem mulFloor_le_mulCeil {scale first second third : Nat} (positive : 0 < scale)
    (order : second ≤ third) : mulFloor scale first second ≤ mulCeil scale first third := by
  refine Nat.le_of_mul_le_mul_right ?_ positive
  calc mulFloor scale first second * scale ≤ first * second := mulFloor_mul_le _ _ _
    _ ≤ first * third := Nat.mul_le_mul_left _ order
    _ ≤ mulCeil scale first third * scale := le_mulCeil_mul _ _ _ positive

/-- Where one more of the second factor adds at least one to the product over the scale, a
product rounded up is at most a larger one rounded down. -/
theorem mulCeil_le_mulFloor {scale first second third : Nat} (positive : 0 < scale)
    (large : scale ≤ first) (order : second < third) :
    mulCeil scale first second ≤ mulFloor scale first third := by
  rw [le_mulFloor_iff scale first third positive]
  calc mulCeil scale first second * scale ≤ first * second + scale :=
        (mulCeil_mul_lt _ _ _ positive).le
    _ ≤ first * (second + 1) := by rw [Nat.mul_succ]; exact Nat.add_le_add_left large _
    _ ≤ first * third := Nat.mul_le_mul_left _ order

theorem mulFloor_mono {scale first second less fewer : Nat} (firstOrder : less ≤ first)
    (secondOrder : fewer ≤ second) : mulFloor scale less fewer ≤ mulFloor scale first second :=
  Nat.div_le_div_right (Nat.mul_le_mul firstOrder secondOrder)

/-- Two products rounded down come to at most the product of the sum rounded down. -/
theorem mulFloor_add_le (scale first second amount : Nat) :
    mulFloor scale first amount + mulFloor scale second amount ≤
      mulFloor scale (first + second) amount := by
  unfold mulFloor
  rw [Nat.add_mul]
  exact Nat.div_add_div_le_add_div

/-- Taking a share off, rounded up, leaves at least the rest of the whole, rounded down. -/
theorem mulFloor_complement_le {scale amount rate : Nat} (positive : 0 < scale) :
    mulFloor scale amount (scale - rate) ≤ amount - mulCeil scale amount rate := by
  rcases Nat.le_total scale rate with all | part
  · rw [Nat.sub_eq_zero_of_le all, mulFloor, Nat.mul_zero, Nat.zero_div]
    exact Nat.zero_le _
  · have kept := mulFloor_mul_le scale amount (scale - rate)
    rw [Nat.mul_sub] at kept
    have room : amount * rate ≤ amount * scale := Nat.mul_le_mul_left _ part
    have within : mulFloor scale amount (scale - rate) ≤ amount :=
      Nat.le_of_mul_le_mul_right (kept.trans (Nat.sub_le _ _)) positive
    have share : mulCeil scale amount rate ≤ amount - mulFloor scale amount (scale - rate) := by
      rw [mulCeil_le_iff _ _ _ positive, Nat.sub_mul]
      omega
    omega

/-- What is left when a share, rounded down, is taken off covers the rest of the whole. -/
theorem mul_complement_le (scale amount rate : Nat) :
    amount * (scale - rate) ≤ (amount - mulFloor scale amount rate) * scale := by
  have share := mulFloor_mul_le scale amount rate
  rw [Nat.mul_sub, Nat.sub_mul]
  exact Nat.sub_le_sub_left share _

/-- A share below the whole of a positive amount is less than it. -/
theorem mulFloor_lt {scale rate amount : Nat} (below : rate < scale) (some : 0 < amount) :
    mulFloor scale amount rate < amount :=
  Nat.div_lt_of_lt_mul (by rw [mul_comm]; exact Nat.mul_lt_mul_of_pos_right below some)

/-- An amount grossed up for a share, rounded down, leaves at most the net after the share,
rounded down, is taken off. -/
theorem sub_mulFloor_le {scale rate net amount : Nat} (below : rate < scale)
    (bounded : amount ≤ net * scale / (scale - rate)) :
    amount - mulFloor scale amount rate ≤ net := by
  have gross : amount * (scale - rate) ≤ net * scale :=
    (Nat.mul_le_mul_right _ bounded).trans (Nat.div_mul_le_self _ _)
  have shared : (amount - net) * scale ≤ amount * rate := by
    rw [Nat.sub_mul]
    rw [Nat.mul_sub] at gross
    omega
  have floor := (Nat.le_div_iff_mul_le (Nat.zero_lt_of_lt below)).mpr shared
  unfold mulFloor
  omega

/-- An amount grossed up for a share, rounded down, leaves exactly the net after the share,
rounded down, is taken off. -/
theorem sub_mulFloor_eq {scale rate net : Nat} (below : rate < scale) :
    net * scale / (scale - rate) - mulFloor scale (net * scale / (scale - rate)) rate = net := by
  refine le_antisymm (sub_mulFloor_le below le_rfl) ?_
  have kept : 0 < scale - rate := Nat.sub_pos_of_lt below
  have gross : net * scale < (net * scale / (scale - rate) + 1) * (scale - rate) := by
    rw [mul_comm (_ + 1)]
    exact Nat.lt_mul_div_succ _ kept
  generalize net * scale / (scale - rate) = amount at gross ⊢
  have share : mulFloor scale amount rate * scale ≤ amount * rate := mulFloor_mul_le _ _ _
  have whole : amount * (scale - rate) + amount * rate = amount * scale := by
    rw [← Nat.mul_add, Nat.sub_add_cancel below.le]
  -- The share and the net together exceed the amount by less than one unit of the scale.
  have less : net * scale + mulFloor scale amount rate * scale < (amount + 1) * scale := by
    rw [Nat.add_mul, one_mul] at gross ⊢
    omega
  rw [← Nat.add_mul] at less
  have bound := Nat.lt_of_mul_lt_mul_right less
  omega

/-! ### Amounts per unit of a quantity -/

/-- What covers a product rounded up leaves at least the factor for each unit. -/
theorem le_quotient {scale quantity factor amount : Nat} (positive : 0 < scale)
    (some : 0 < quantity) (covered : mulCeil scale quantity factor ≤ amount) :
    factor ≤ amount * scale / quantity := by
  rw [Nat.le_div_iff_mul_le some, mul_comm]
  exact (mulCeil_le_iff _ _ _ positive _).mp covered

/-- What a product rounded down covers leaves at most the factor for each unit. -/
theorem quotient_le {scale quantity factor amount : Nat}
    (covered : amount ≤ mulFloor scale quantity factor) :
    amount * scale / quantity ≤ factor := by
  refine Nat.div_le_of_le_mul ?_
  exact (Nat.mul_le_mul_right _ covered).trans (mulFloor_mul_le _ _ _)

/-- A product rounded down is spread over the quantity as the factor exactly when nothing was
rounded off. -/
theorem mulFloor_quotient_eq_iff {scale quantity factor : Nat} (some : 0 < quantity) :
    mulFloor scale factor quantity * scale / quantity = factor ↔ scale ∣ factor * quantity := by
  constructor
  · intro restored
    have least : factor * quantity ≤ mulFloor scale factor quantity * scale := by
      calc factor * quantity = mulFloor scale factor quantity * scale / quantity * quantity := by
            rw [restored]
        _ ≤ mulFloor scale factor quantity * scale := Nat.div_mul_le_self _ _
    exact Dvd.intro_left _ (le_antisymm (mulFloor_mul_le _ _ _) least)
  · intro divides
    have product : mulFloor scale factor quantity * scale = factor * quantity :=
      Nat.div_mul_cancel divides
    rw [product, Nat.mul_div_cancel _ some]

/-- A product rounded up is spread over the quantity as the factor, from a quantity of one unit
of the scale on. -/
theorem mulCeil_quotient {scale quantity factor : Nat} (positive : 0 < scale)
    (large : scale ≤ quantity) : mulCeil scale quantity factor * scale / quantity = factor := by
  have some : 0 < quantity := positive.trans_le large
  refine le_antisymm (Nat.le_of_lt_succ ?_) (le_quotient positive some le_rfl)
  rw [Nat.div_lt_iff_lt_mul some]
  calc mulCeil scale quantity factor * scale < quantity * factor + scale :=
        mulCeil_mul_lt _ _ _ positive
    _ ≤ quantity * factor + quantity := Nat.add_le_add_left large _
    _ = (factor + 1) * quantity := by ring

/-- What a product rounded up covers exceeds the factor by less than one unit of the scale. -/
theorem quotient_mul_lt {scale quantity factor amount : Nat} (positive : 0 < scale)
    (covered : amount ≤ mulCeil scale quantity factor) :
    amount * scale / quantity * quantity < factor * quantity + scale := by
  have least : ¬mulCeil scale quantity factor ≤ mulCeil scale quantity factor - 1 ∨
      mulCeil scale quantity factor = 0 := by omega
  refine (Nat.div_mul_le_self _ _).trans_lt ?_
  rcases least with least | zero
  · rw [mulCeil_le_iff _ _ _ positive, not_le, Nat.sub_mul, one_mul] at least
    have rounded := Nat.mul_le_mul_right scale covered
    rw [mul_comm factor]
    omega
  · rw [Nat.le_zero.mp (covered.trans_eq zero), zero_mul]
    omega

end Bounds

/-! ### Sums -/

section Sums

variable (scale quantity : Nat)

/-- What a product over the scale leaves when it is rounded down. -/
def remainder (amount : Nat) : Nat := amount * quantity % scale

/-- What a product over the scale lacks when it is rounded up. -/
def shortfall (amount : Nat) : Nat := mulCeil scale amount quantity * scale - amount * quantity

theorem mulFloor_mul_add_remainder (amount : Nat) :
    mulFloor scale amount quantity * scale + remainder scale quantity amount =
      amount * quantity :=
  Nat.div_add_mod' _ _

theorem mulCeil_mul_eq (positive : 0 < scale) (amount : Nat) :
    mulCeil scale amount quantity * scale =
      amount * quantity + shortfall scale quantity amount := by
  have above := le_mulCeil_mul scale amount quantity positive
  unfold shortfall
  omega

/-- Shares rounded down one by one, and what they leave, make up the share of the sum. -/
theorem sum_mulFloor_mul_add_remainders (amounts : List Nat) :
    (amounts.map fun amount => mulFloor scale amount quantity).sum * scale +
      (amounts.map (remainder scale quantity)).sum = amounts.sum * quantity := by
  induction amounts with
  | nil => simp
  | cons amount rest inductionHypothesis =>
    have first := mulFloor_mul_add_remainder scale quantity amount
    rw [List.map_cons, List.sum_cons, List.map_cons, List.sum_cons, List.sum_cons, Nat.add_mul,
      Nat.add_mul]
    omega

theorem sum_mulCeil_mul_eq (positive : 0 < scale) (amounts : List Nat) :
    (amounts.map fun amount => mulCeil scale amount quantity).sum * scale =
      amounts.sum * quantity + (amounts.map (shortfall scale quantity)).sum := by
  induction amounts with
  | nil => simp
  | cons amount rest inductionHypothesis =>
    have first := mulCeil_mul_eq scale quantity positive amount
    rw [List.map_cons, List.sum_cons, List.map_cons, List.sum_cons, List.sum_cons, Nat.add_mul,
      Nat.add_mul]
    omega

theorem sum_mulFloor_mul_le (amounts : List Nat) :
    (amounts.map fun amount => mulFloor scale amount quantity).sum * scale ≤
      amounts.sum * quantity := by
  rw [← sum_mulFloor_mul_add_remainders scale quantity amounts]
  exact Nat.le_add_right _ _

theorem le_sum_mulCeil_mul (positive : 0 < scale) (amounts : List Nat) :
    amounts.sum * quantity ≤
      (amounts.map fun amount => mulCeil scale amount quantity).sum * scale := by
  rw [sum_mulCeil_mul_eq scale quantity positive amounts]
  exact Nat.le_add_right _ _

/-- The share of a sum, rounded down, exceeds the sum of the shares by what they leave
together. -/
theorem mulFloor_sum (positive : 0 < scale) (amounts : List Nat) :
    mulFloor scale amounts.sum quantity =
      (amounts.map fun amount => mulFloor scale amount quantity).sum +
        (amounts.map (remainder scale quantity)).sum / scale := by
  unfold mulFloor
  rw [← sum_mulFloor_mul_add_remainders scale quantity amounts, Nat.add_comm, mul_comm,
    Nat.add_mul_div_left _ _ positive, Nat.add_comm]
  rfl

theorem shortfall_lt (positive : 0 < scale) (amount : Nat) :
    shortfall scale quantity amount < scale := by
  have rounded := mulCeil_mul_eq scale quantity positive amount
  have least := mulCeil_le_iff scale amount quantity positive (mulCeil scale amount quantity - 1)
  rcases Nat.eq_zero_or_pos (mulCeil scale amount quantity) with zero | some
  · rw [zero, zero_mul] at rounded
    omega
  · have below : ¬ amount * quantity ≤ (mulCeil scale amount quantity - 1) * scale := by
      rw [← least]
      omega
    rw [Nat.sub_mul, one_mul] at below
    omega

/-- The sum of the shares, rounded up, exceeds the share of the sum by what they lack
together. -/
theorem sum_mulCeil (positive : 0 < scale) (amounts : List Nat) :
    (amounts.map fun amount => mulCeil scale amount quantity).sum =
      mulCeil scale amounts.sum quantity +
        (amounts.map (shortfall scale quantity)).sum / scale := by
  have each := sum_mulCeil_mul_eq scale quantity positive amounts
  have whole := mulCeil_mul_eq scale quantity positive amounts.sum
  have order : mulCeil scale amounts.sum quantity ≤
      (amounts.map fun amount => mulCeil scale amount quantity).sum :=
    (mulCeil_le_iff scale _ _ positive _).mpr (by omega)
  obtain ⟨excess, sum⟩ := Nat.exists_eq_add_of_le order
  rw [sum, Nat.add_mul] at each
  have lack : (amounts.map (shortfall scale quantity)).sum =
      shortfall scale quantity amounts.sum + excess * scale := by omega
  rw [sum, lack, Nat.add_mul_div_right _ _ positive,
    Nat.div_eq_of_lt (shortfall_lt scale quantity positive _), zero_add]

end Sums

/-! ### Dilution -/

section Dilution

/-- A supply inflated by a rate of the whole, rounded down, is at most the supply divided by
what the rate leaves of the whole. -/
theorem inflated_mul_le (whole rate supply : Nat) (bounded : rate ≤ whole) :
    (supply + rate * supply / (whole - rate)) * (whole - rate) ≤ supply * whole := by
  have quotient : rate * supply / (whole - rate) * (whole - rate) ≤ rate * supply :=
    Nat.div_mul_le_self _ _
  calc (supply + rate * supply / (whole - rate)) * (whole - rate)
      = supply * (whole - rate) + rate * supply / (whole - rate) * (whole - rate) := by ring
    _ ≤ supply * (whole - rate) + rate * supply := Nat.add_le_add_left quotient _
    _ = supply * (whole - rate + rate) := by ring
    _ = supply * whole := by rw [Nat.sub_add_cancel bounded]

/-- Two dilutions one after the other dilute at most as much as one by the sum of their
rates. -/
theorem compound_le {whole first second start supply inflated : Int} (positive : 0 < whole)
    (supplyNonneg : 0 ≤ inflated) (startNonneg : 0 ≤ start) (firstNonneg : 0 ≤ first)
    (secondNonneg : 0 ≤ second)
    (before : supply * (whole - first) ≤ start * whole)
    (inflation : inflated * (whole - second) ≤ supply * whole) :
    inflated * (whole - (first + second)) ≤ start * whole := by
  rcases le_or_gt whole first with above | below
  · exact (mul_nonpos_of_nonneg_of_nonpos supplyNonneg (by linarith)).trans
      (mul_nonneg startNonneg positive.le)
  · refine le_of_mul_le_mul_right ?_ positive
    calc inflated * (whole - (first + second)) * whole
        ≤ inflated * (whole - second) * (whole - first) := by
          have cross := mul_nonneg supplyNonneg (mul_nonneg firstNonneg secondNonneg)
          linarith [cross, mul_comm first second]
      _ ≤ supply * whole * (whole - first) :=
          mul_le_mul_of_nonneg_right inflation (by linarith)
      _ = supply * (whole - first) * whole := by ring
      _ ≤ start * whole * whole := mul_le_mul_of_nonneg_right before positive.le

/-- A value drained at a rate and rounded down, one unit for each unit of the rate at most, is
drained twice at most as by the sum of the rates. -/
theorem drained_le {whole first second start reached after : Int} (positive : 0 < whole)
    (startNonneg : 0 ≤ start) (firstNonneg : 0 ≤ first) (secondNonneg : 0 ≤ second)
    (within : second ≤ whole) (before : start * (whole - first) ≤ (reached + first) * whole)
    (drain : reached * (whole - second) ≤ (after + second) * whole) :
    start * (whole - (first + second)) ≤ (after + (first + second)) * whole := by
  refine le_of_mul_le_mul_right ?_ positive
  have scaled := mul_le_mul_of_nonneg_right before (sub_nonneg.mpr within)
  have drained := mul_le_mul_of_nonneg_right drain positive.le
  have cross := mul_nonneg startNonneg (mul_nonneg firstNonneg secondNonneg)
  have rest := mul_nonneg (mul_nonneg firstNonneg secondNonneg) positive.le
  calc start * (whole - (first + second)) * whole
      ≤ start * (whole - first) * (whole - second) := by linarith
    _ ≤ (reached + first) * whole * (whole - second) := scaled
    _ = reached * (whole - second) * whole + first * whole * whole - first * second * whole := by
        ring
    _ ≤ (after + second) * whole * whole + first * whole * whole := by linarith
    _ = (after + (first + second)) * whole * whole := by ring

/-- Draining by a rate takes at most one unit more than the exact share, and none without a
rate. -/
theorem drain_le {whole rate value : Int} (positive : 0 < whole) (rateNonneg : 0 ≤ rate) :
    value * (whole - rate) ≤ (value * (whole - rate) / whole + rate) * whole := by
  rcases rateNonneg.eq_or_lt with rfl | some
  · rw [sub_zero, add_zero, Int.mul_ediv_cancel _ positive.ne']
  · have floor := Int.lt_ediv_add_one_mul_self (value * (whole - rate)) positive
    refine floor.le.trans (mul_le_mul_of_nonneg_right ?_ positive.le)
    linarith [Int.add_one_le_iff.mpr some]

end Dilution

/-! ### Changes of scale -/

section Scales

variable {whole rate : Int} (positive : 0 < whole) (ratePositive : 0 < rate)

include positive ratePositive

/-- An amount that is divided by a rate and multiplied by it again, both rounded down, is read
back as at most itself. -/
theorem ediv_mul_ediv_le (amount : Int) : amount * whole / rate * rate / whole ≤ amount :=
  Int.ediv_le_of_le_mul positive (Int.ediv_mul_le _ ratePositive.ne')

/-- It falls short of itself by at most the rate over the scale, rounded up. -/
theorem le_ediv_mul_ediv_add (amount : Int) :
    amount - (rate + whole - 1) / whole ≤ amount * whole / rate * rate / whole := by
  have most : amount * whole < (amount * whole / rate + 1) * rate :=
    Int.lt_ediv_add_one_mul_self _ ratePositive
  have rounded : rate + whole - 1 < ((rate + whole - 1) / whole + 1) * whole :=
    Int.lt_ediv_add_one_mul_self _ positive
  rw [Int.le_ediv_iff_mul_le positive]
  rw [add_mul, one_mul] at most rounded
  rw [sub_mul]
  omega

theorem ediv_mul_ediv_nonneg {amount : Int} (nonneg : 0 ≤ amount) :
    0 ≤ amount * whole / rate * rate / whole := by
  refine Int.ediv_nonneg (mul_nonneg ?_ ratePositive.le) positive.le
  exact Int.ediv_nonneg (mul_nonneg nonneg positive.le) ratePositive.le

/-- A negative amount is read back as negative. -/
theorem ediv_mul_ediv_neg {amount : Int} (negative : amount < 0) :
    amount * whole / rate * rate / whole < 0 := by
  refine Int.ediv_neg_of_neg_of_pos ?_ positive
  refine mul_neg_of_neg_of_pos ?_ ratePositive
  exact Int.ediv_neg_of_neg_of_pos (mul_neg_of_neg_of_pos negative positive) ratePositive

end Scales

/-- An amount that is divided by a rate and multiplied by it again, both rounded down, is read
back exactly when the rate divides it without a remainder. -/
theorem ediv_mul_ediv_eq_iff {whole rate : Int} (positive : 0 < whole) (ratePositive : 0 < rate)
    (amount : Int) : amount * whole / rate * rate / whole = amount ↔ rate ∣ amount * whole := by
  constructor
  · intro restored
    have most : amount * whole / rate * rate ≤ amount * whole :=
      Int.ediv_mul_le _ ratePositive.ne'
    have least : amount * whole ≤ amount * whole / rate * rate := by
      calc amount * whole = amount * whole / rate * rate / whole * whole := by rw [restored]
        _ ≤ amount * whole / rate * rate := Int.ediv_mul_le _ positive.ne'
    exact Dvd.intro_left _ (le_antisymm most least)
  · intro divides
    rw [Int.ediv_mul_cancel divides, Int.mul_ediv_cancel _ positive.ne']

/-! ### Proportions -/

section Proportions

variable {amount share supply first second : Nat}

/-- What a share is worth of the second reserve is at most what goes with an amount that covers
the share, all rounded down. -/
theorem share_mul_div_le (supplyPositive : 0 < supply) (firstPositive : 0 < first)
    (covered : share ≤ amount * supply / first) :
    share * second / supply ≤ amount * second / first := by
  rw [Nat.le_div_iff_mul_le firstPositive] at covered ⊢
  refine Nat.le_of_mul_le_mul_right ?_ supplyPositive
  calc share * second / supply * first * supply
      = share * second / supply * supply * first := by ring
    _ ≤ share * second * first := Nat.mul_le_mul_right _ (Nat.div_mul_le_self _ _)
    _ = share * first * second := by ring
    _ ≤ amount * supply * second := Nat.mul_le_mul_right _ covered
    _ = amount * second * supply := by ring

/-- A share is covered by the amount that goes with another amount, both rounded down, exactly
when the other amount covers the least amount that is worth the share. -/
theorem share_le_div_mul_div_iff (supplyPositive : 0 < supply) (firstPositive : 0 < first)
    (secondPositive : 0 < second) :
    share ≤ amount * second / first * supply / second ↔
      (share * second) ⌈/⌉ supply * first ≤ amount * second := by
  rw [Nat.le_div_iff_mul_le secondPositive, ← Nat.le_div_iff_mul_le firstPositive,
    ceilDiv_le_iff_le_mul supplyPositive, mul_comm supply]

/-- A share of the second reserve by way of the first is worth no more than the share of the
first. -/
theorem proportion_share_le (firstPositive : 0 < first) (secondPositive : 0 < second) :
    amount * second / first * supply / second ≤ amount * supply / first := by
  rw [Nat.le_div_iff_mul_le firstPositive]
  refine Nat.le_of_mul_le_mul_right ?_ secondPositive
  calc amount * second / first * supply / second * first * second
      = amount * second / first * supply / second * second * first := by ring
    _ ≤ amount * second / first * supply * first :=
        Nat.mul_le_mul_right _ (Nat.div_mul_le_self _ _)
    _ = amount * second / first * first * supply := by ring
    _ ≤ amount * second * supply := Nat.mul_le_mul_right _ (Nat.div_mul_le_self _ _)
    _ = amount * supply * second := by ring

/-- If the amount that goes with the first one exceeds the second, then the amount that goes
with the second one is at most the first. -/
theorem proportion_le_of_lt (firstPositive : 0 < first) (secondPositive : 0 < second)
    {other : Nat} (exceeds : other < amount * second / first) :
    other * first / second ≤ amount := by
  have covered : other * first ≤ amount * second :=
    (Nat.le_div_iff_mul_le firstPositive).mp exceeds.le
  calc other * first / second ≤ amount * second / second := Nat.div_le_div_right covered
    _ = amount := Nat.mul_div_cancel _ secondPositive

/-- A fraction of a size is nothing, rounded down twice, exactly when the part is below the
least share of the whole that a size this large still feels. -/
theorem mul_div_div_eq_zero_iff {size scale part whole : Nat} (scalePositive : 0 < scale)
    (wholePositive : 0 < whole) :
    size * (part / whole) / scale = 0 ↔ size = 0 ∨ part < scale ⌈/⌉ size * whole := by
  rw [Nat.div_eq_zero_iff_lt scalePositive]
  rcases Nat.eq_zero_or_pos size with rfl | positive
  · simp [scalePositive]
  · rw [← not_le, ← ceilDiv_le_iff_le_mul positive, not_le, Nat.div_lt_iff_lt_mul wholePositive]
    exact (or_iff_right positive.ne').symm

/-- A size is taken whole exactly when it is nothing or the rate is the whole scale. -/
theorem mul_div_eq_self_iff {size scale rate : Nat} (scalePositive : 0 < scale)
    (bounded : rate ≤ scale) : size * rate / scale = size ↔ size = 0 ∨ rate = scale := by
  rcases Nat.eq_zero_or_pos size with rfl | positive
  · simp
  · rcases bounded.lt_or_eq with below | rfl
    · have less : size * rate / scale < size := mulFloor_lt below positive
      simp [less.ne, below.ne, positive.ne']
    · simp [Nat.mul_div_cancel size scalePositive]

end Proportions

/-! ### Quotients of integers as rationals -/

theorem floor_quotient (a b : Int) : ⌊(a : ℚ) / b⌋ = a.fdiv b := by
  rcases le_or_gt 0 b with nonneg | negative
  · obtain ⟨scale, rfl⟩ := Int.eq_ofNat_of_zero_le nonneg
    rw [Int.fdiv_eq_ediv_of_nonneg _ nonneg]
    exact Rat.floor_intCast_div_natCast a scale
  · obtain ⟨scale, positive⟩ := Int.eq_ofNat_of_zero_le (neg_nonneg.mpr negative.le)
    obtain rfl : b = -scale := by omega
    rw [← Int.neg_fdiv_neg, neg_neg, Int.fdiv_eq_ediv_of_nonneg _ (Int.natCast_nonneg _),
      ← Rat.floor_intCast_div_natCast]
    congr 1
    push_cast
    rw [neg_div, div_neg]

theorem ceil_quotient (a b : Int) (nonzero : b ≠ 0) :
    ⌈(a : ℚ) / b⌉ = a.fdiv b + if b ∣ a then 0 else 1 := by
  have opposite := floor_quotient (-a) b
  rw [Int.neg_fdiv, Int.cast_neg, neg_div, Int.floor_neg] at opposite
  simp only [nonzero, false_or] at opposite
  omega

/-- The integer next to a rational on the side away from zero. -/
def outward (quotient : ℚ) : ℤ := if 0 ≤ quotient then ⌈quotient⌉ else ⌊quotient⌋

/-- An inexact quotient is positive exactly when the signs of its operands agree. -/
theorem quotient_nonneg_iff (a b : Int) (nonzero : b ≠ 0) (inexact : ¬b ∣ a) :
    0 ≤ (a : ℚ) / b ↔ (a < 0 ↔ b < 0) := by
  have dividend : a ≠ 0 := fun zero => inexact (zero ▸ dvd_zero b)
  rw [div_nonneg_iff]
  norm_cast
  omega

/-- Decrementing the truncated quotient when the signs differ and the division is inexact
gives the floor. -/
theorem tdiv_lowered (a b : Int) (nonzero : b ≠ 0) :
    (if decide (a < 0) ≠ decide (b < 0) ∧ a.tmod b ≠ 0 then a.tdiv b - 1 else a.tdiv b) =
      ⌊(a : ℚ) / b⌋ := by
  rw [floor_quotient, Int.fdiv_eq_tdiv]
  by_cases divides : b ∣ a
  · rw [if_neg fun both => both.2 (Int.tmod_eq_zero_of_dvd divides), if_pos divides, sub_zero]
  · have inexact : a.tmod b ≠ 0 := fun zero => divides (Int.dvd_of_tmod_eq_zero zero)
    simp only [divides, inexact, ne_eq, decide_eq_decide, not_false_eq_true, and_true, if_false]
    rcases lt_or_gt_of_ne nonzero with negative | positive
    · rw [Int.sign_eq_neg_one_of_neg negative]
      split_ifs <;> omega
    · rw [Int.sign_eq_one_of_pos positive]
      split_ifs <;> omega

/-- Moving an inexact truncated quotient by one in the direction of its sign rounds it away
from zero. -/
theorem tdiv_raised (a b : Int) (nonzero : b ≠ 0) :
    (if a.tmod b ≠ 0 then
      if decide (a < 0) = decide (b < 0) then a.tdiv b + 1 else a.tdiv b - 1
    else a.tdiv b) = outward ((a : ℚ) / b) := by
  unfold outward
  rw [ceil_quotient _ _ nonzero, floor_quotient, Int.fdiv_eq_tdiv]
  by_cases divides : b ∣ a
  · rw [if_neg (not_not.mpr (Int.tmod_eq_zero_of_dvd divides))]
    simp [divides]
  · have inexact : a.tmod b ≠ 0 := fun zero => divides (Int.dvd_of_tmod_eq_zero zero)
    simp only [quotient_nonneg_iff _ _ nonzero divides, divides, inexact, ne_eq,
      decide_eq_decide, not_false_eq_true, if_true, if_false]
    rcases lt_or_gt_of_ne nonzero with negative | positive
    · rw [Int.sign_eq_neg_one_of_neg negative]
      split_ifs <;> omega
    · rw [Int.sign_eq_one_of_pos positive]
      split_ifs <;> omega

/-- The natural quotient rounded up is the ceiling of the rational quotient. -/
theorem natCeil_quotient (a b : Nat) : ⌈(a : ℚ) / b⌉₊ = a ⌈/⌉ b := by
  rcases Nat.eq_zero_or_pos b with rfl | positive
  · simp
  · refine eq_of_forall_ge_iff fun bound => ?_
    rw [Nat.ceil_le, ceilDiv_le_iff_le_mul positive, div_le_iff₀ (by exact_mod_cast positive),
      mul_comm b]
    norm_cast

end Rounding

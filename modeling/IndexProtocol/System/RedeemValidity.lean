/-
This file proves when the getter that says whether a redemption is valid tells
the truth. The getter computes the amounts of the redemption and compares what
is paid out net of fees with the reserve of the Set; the redemption itself also
takes the fees out of the reserve, divides by the supply that is left and scales
the position multiplier. A redemption that would succeed is always reported as
valid, and one reported as valid succeeds exactly when the reserve covers the
fees too and the later steps fit.
-/

import IndexProtocol.System.NavBacking

namespace IndexProtocol

open Revert PreciseUnitMath

namespace CustomOracleNAVIssuanceModule

/-- The checks and the computation of a redemption, with no least amount to receive. -/
def computeRedemption (module : CustomOracleNAVIssuanceModule) (contracts : NAVContracts)
    (reserveAsset : Address) (setTokenQuantity : Nat) (world : World) : Outcome ActionInfo := do
  module.validateCommon reserveAsset setTokenQuantity
  let redeemInfo ←
    module.createRedemptionInfo contracts reserveAsset setTokenQuantity world
  module.validateRedemptionInfo 0 redeemInfo
  pure redeemInfo

/-- The request is for some Set tokens, against a reserve asset, and leaves the least supply. -/
structure RedeemRequested (module : CustomOracleNAVIssuanceModule) (reserveAsset : Address)
    (setTokenQuantity : Nat) (world : World) : Prop where
  positive : 0 < setTokenQuantity
  listed : module.isReserveAsset reserveAsset = true
  supply : module.navIssuanceSettings.minSetTokenSupply + setTokenQuantity ≤
    world.setToken.totalSupply

/-- What the Set tokens are worth in the reserve asset, what is left of it net of fees, and the
reserve of the Set, where all three can be computed. -/
structure RedeemAmounts (module : CustomOracleNAVIssuanceModule) (contracts : NAVContracts)
    (reserveAsset : Address) (setTokenQuantity : Nat) (world : World)
    (gross net existing : Nat) : Prop where
  quantity :
    module.getRedeemReserveQuantity contracts reserveAsset setTokenQuantity world = .ok gross
  fees : ∃ protocolFees managerFee, module.getFees gross
    protocolRedeemManagerRevenueShareFeeIndex protocolRedeemDirectFeeIndex managerRedeemFeeIndex
    world = .ok (protocolFees, managerFee, net)
  reserve : ∃ unit : Nat,
    world.setToken.getDefaultPositionRealUnit reserveAsset = .ok (unit : Int) ∧
    preciseMul unit world.setToken.totalSupply = .ok existing

/-- The reserve covers what is paid out and the fees, some supply is left, and the new unit and
the new multiplier can be computed. -/
structure RedeemFits (world : World) (setTokenQuantity gross existing : Nat) : Prop where
  covered : gross ≤ existing
  remains : setTokenQuantity < world.setToken.totalSupply
  supply : world.setToken.totalSupply < 2 ^ 255
  multiplier : FitsInt256 (world.setToken.positionMultiplier * world.setToken.totalSupply)
  unit : (existing - gross) * preciseUnit < 2 ^ 256

section Amounts

variable {module : CustomOracleNAVIssuanceModule} {contracts : NAVContracts}
  {reserveAsset : Address} {quantity gross net existing : Nat} {world : World}

theorem RedeemAmounts.unique {otherGross otherNet otherExisting : Nat}
    (amounts : module.RedeemAmounts contracts reserveAsset quantity world gross net existing)
    (others : module.RedeemAmounts contracts reserveAsset quantity world otherGross otherNet
      otherExisting) : otherGross = gross ∧ otherNet = net ∧ otherExisting = existing := by
  obtain rfl := Except.ok.inj (others.quantity.symm.trans amounts.quantity)
  obtain ⟨_, _, fees⟩ := amounts.fees
  obtain ⟨_, _, otherFees⟩ := others.fees
  obtain ⟨unit, read, product⟩ := amounts.reserve
  obtain ⟨otherUnit, otherRead, otherProduct⟩ := others.reserve
  have sameFees := Except.ok.inj (otherFees.symm.trans fees)
  have sameUnit := Int.ofNat.inj (Except.ok.inj (otherRead.symm.trans read))
  subst sameUnit
  exact ⟨rfl, congrArg (fun fees => fees.2.2) sameFees,
    Except.ok.inj (otherProduct.symm.trans product)⟩

/-- The fees are taken out of the quantity, and the rest is what is left. -/
theorem getFees_sum {protocolIndex directIndex protocolFees managerFee : Nat} {index : Fin 2}
    (returned : module.getFees gross protocolIndex directIndex index world =
      .ok (protocolFees, managerFee, net)) : net + protocolFees + managerFee = gross := by
  simp only [getFees, bind_eq_ok, SafeMath.sub_eq_ok, pure_eq_ok, Prod.exists,
    Prod.mk.injEq] at returned
  obtain ⟨_, _, _, _, _, _, _, _, ⟨first, rfl⟩, _, ⟨second, rfl⟩, rfl, rfl, rfl⟩ := returned
  omega

/-- The getter says yes exactly when the request is in order, the amounts can be computed and
the reserve covers the net amount. -/
theorem isRedeemValid_eq_true :
    module.isRedeemValid contracts reserveAsset quantity world = .ok true ↔
      module.RedeemRequested reserveAsset quantity world ∧
        module.navIssuanceSettings.minSetTokenSupply + quantity < 2 ^ 256 ∧
          ∃ gross net existing,
            module.RedeemAmounts contracts reserveAsset quantity world gross net existing ∧
              net ≤ existing := by
  unfold isRedeemValid
  split
  · rename_i refused
    refine iff_of_false (fun returned => Bool.false_ne_true ((pure_eq_ok _ _).mp returned))
      fun valid => ?_
    rcases refused with none | unlisted
    · exact valid.1.positive.ne' none
    · exact Bool.false_ne_true (unlisted.symm.trans valid.1.listed)
  · rename_i accepted
    obtain ⟨nonzero, listed⟩ := not_or.mp accepted
    rw [Bool.not_eq_false] at listed
    simp only [bind_eq_ok, SafeMath.add_eq_ok]
    constructor
    · rintro ⟨_, ⟨fits, rfl⟩, returned⟩
      split at returned
      · exact absurd ((pure_eq_ok _ _).mp returned) Bool.false_ne_true
      · rename_i enough
        simp only [bind_eq_ok, SafeCast.toUint256_eq_ok, pure_eq_ok, Prod.exists,
          decide_eq_true_eq] at returned
        obtain ⟨gross, worth, protocolFees, managerFee, net, fees, _, read, unit, rfl, existing,
          product, covered⟩ := returned
        exact ⟨⟨Nat.pos_of_ne_zero nonzero, listed, Nat.not_lt.mp enough⟩, fits, gross, net,
          existing, ⟨worth, ⟨_, _, fees⟩, unit, read, product⟩, covered⟩
    · rintro ⟨requested, fits, gross, net, existing, ⟨worth, ⟨_, _, fees⟩, unit, read, product⟩,
        covered⟩
      refine ⟨_, ⟨fits, rfl⟩, ?_⟩
      rw [if_neg (Nat.not_lt.mpr requested.supply)]
      simp only [bind_eq_ok, SafeCast.toUint256_eq_ok, pure_eq_ok, Prod.exists,
        decide_eq_true_eq]
      exact ⟨gross, worth, _, _, net, fees, _, read, unit, rfl, existing, product, covered⟩

theorem scaledMultiplier_succeeds_iff {setToken : SetToken} {previous newSupply : Nat}
    (less : newSupply ≤ previous) :
    (∃ multiplier, scaledMultiplier setToken previous newSupply = .ok multiplier) ↔
      0 < newSupply ∧ previous < 2 ^ 255 ∧
        FitsInt256 (setToken.positionMultiplier * previous) := by
  simp only [scaledMultiplier, bind_eq_ok, SafeCast.toInt256_eq_ok, SignedSafeMath.mul_eq_ok,
    SignedSafeMath.div_eq_ok]
  constructor
  · rintro ⟨_, _, ⟨bound, rfl⟩, _, ⟨fits, rfl⟩, _, ⟨_, rfl⟩, nonzero, _⟩
    exact ⟨by omega, bound, fits⟩
  · rintro ⟨positive, bound, fits⟩
    exact ⟨_, _, ⟨bound, rfl⟩, _, ⟨fits, rfl⟩, _, ⟨by omega, rfl⟩, by omega, by omega, rfl⟩

theorem computeRedemption_succeeds_iff :
    (∃ info, module.computeRedemption contracts reserveAsset quantity world = .ok info) ↔
      module.RedeemRequested reserveAsset quantity world ∧
        ∃ gross net existing,
          module.RedeemAmounts contracts reserveAsset quantity world gross net existing ∧
            RedeemFits world quantity gross existing := by
  simp only [computeRedemption, validateCommon, validateRedemptionInfo, createRedemptionInfo,
    getRedeemPositionMultiplier, getRedeemPositionUnit, bind_eq_ok, require_eq_ok,
    exists_const, pure_eq_ok, Prod.exists, SafeMath.sub_eq_ok, SafeMath.add_eq_ok,
    SafeCast.toUint256_eq_ok, preciseDiv_eq_ok]
  constructor
  · rintro ⟨info, ⟨positive, listed⟩, _, ⟨gross, worth, protocolFees, managerFee, net, fees,
      newSupply, multiplier, ⟨_, ⟨less, rfl⟩, _, scaled, rfl, rfl⟩, _,
      ⟨_, read, unit, rfl, existing, product, _, ⟨_, rfl⟩, _, ⟨_, rfl⟩, covered, _,
        ⟨_, rfl⟩, large, remains, rfl⟩, rfl⟩, ⟨least, _⟩, _⟩
    have sum := getFees_sum fees
    rw [sum] at covered large
    obtain ⟨_, bound, fits⟩ := (scaledMultiplier_succeeds_iff (Nat.sub_le _ _)).mp ⟨_, scaled⟩
    have supply : module.navIssuanceSettings.minSetTokenSupply ≤
        world.setToken.totalSupply - quantity := least
    exact ⟨⟨positive, listed, by omega⟩, gross, net, existing,
      ⟨worth, ⟨_, _, fees⟩, unit, read, product⟩, covered, by omega, bound, fits, large⟩
  · rintro ⟨⟨positive, listed, supply⟩, gross, net, existing,
      ⟨worth, ⟨protocolFees, managerFee, fees⟩, unit, read, product⟩,
      covered, remains, bound, fits, large⟩
    have sum := getFees_sum fees
    obtain ⟨multiplier, scaled⟩ := (scaledMultiplier_succeeds_iff (Nat.sub_le _ quantity)).mpr
      ⟨Nat.sub_pos_of_lt remains, bound, fits⟩
    rw [← sum] at covered large
    have small : existing < 2 ^ 256 := by
      obtain ⟨fitsProduct, rfl⟩ := (preciseMul_eq_ok _ _ _).mp product
      exact (Nat.div_le_self _ _).trans_lt fitsProduct
    have least : module.navIssuanceSettings.minSetTokenSupply ≤
        world.setToken.totalSupply - quantity := Nat.le_sub_of_add_le supply
    exact ⟨_, ⟨positive, listed⟩, _, ⟨gross, worth, protocolFees, managerFee, net, fees, _,
      multiplier, ⟨_, ⟨remains.le, rfl⟩, _, scaled, rfl⟩, _,
      ⟨_, read, unit, rfl, existing, product, _, ⟨by omega, rfl⟩, _, ⟨by omega, rfl⟩, covered, _,
        ⟨covered, rfl⟩, large, Nat.sub_pos_of_lt remains, rfl⟩, rfl⟩,
      ⟨least, Nat.zero_le _⟩, rfl⟩

end Amounts

/-- Whenever the amounts can be computed and the reserve covers the net amount, it covers the
fees too and the redemption fits. -/
def RedeemsInFull (module : CustomOracleNAVIssuanceModule) (contracts : NAVContracts)
    (reserveAsset : Address) (setTokenQuantity : Nat) (world : World) : Prop :=
  module.RedeemRequested reserveAsset setTokenQuantity world →
    module.navIssuanceSettings.minSetTokenSupply + setTokenQuantity < 2 ^ 256 →
      ∀ gross net existing,
        module.RedeemAmounts contracts reserveAsset setTokenQuantity world gross net existing →
          net ≤ existing → RedeemFits world setTokenQuantity gross existing

/-- The getter and the computation of the redemption agree exactly when the reserve, where it
covers what is paid out net of fees, covers the fees too, and the new supply, unit and multiplier
can be computed. -/
theorem isRedeemValid_iff (module : CustomOracleNAVIssuanceModule) (contracts : NAVContracts)
    (reserveAsset : Address) (setTokenQuantity : Nat) (world : World) :
    (module.isRedeemValid contracts reserveAsset setTokenQuantity world = .ok true ↔
      ∃ info, module.computeRedemption contracts reserveAsset setTokenQuantity world =
        .ok info) ↔
      module.RedeemsInFull contracts reserveAsset setTokenQuantity world := by
  rw [isRedeemValid_eq_true, computeRedemption_succeeds_iff]
  constructor
  · intro agree requested fits gross net existing amounts covered
    obtain ⟨_, otherGross, otherNet, otherExisting, others, otherFits⟩ :=
      agree.mp ⟨requested, fits, gross, net, existing, amounts, covered⟩
    obtain ⟨rfl, rfl, rfl⟩ := amounts.unique others
    exact otherFits
  · intro inFull
    constructor
    · rintro ⟨requested, fits, gross, net, existing, amounts, covered⟩
      exact ⟨requested, gross, net, existing, amounts,
        inFull requested fits gross net existing amounts covered⟩
    · rintro ⟨requested, gross, net, existing, amounts, fits⟩
      obtain ⟨_, _, fees⟩ := amounts.fees
      have sum := getFees_sum fees
      have covered := fits.covered
      have supply := requested.supply
      have bound := fits.supply
      exact ⟨requested, by omega, gross, net, existing, amounts, by omega⟩

/-- Of the reserve of two, redeeming 1.35 of two Set tokens is worth 2.00475: the net amount of
1.98269775 is covered, the fees are not. -/
theorem isRedeemValid_untrue :
    ¬(sampleNAVModule.isRedeemValid sampleContracts 3 (135 * 10 ^ 16) sampleReserveWorld =
        .ok true ↔
      ∃ info, sampleNAVModule.computeRedemption sampleContracts 3 (135 * 10 ^ 16)
        sampleReserveWorld = .ok info) := by
  have valid : sampleNAVModule.isRedeemValid sampleContracts 3 (135 * 10 ^ 16)
      sampleReserveWorld = .ok true := by
    decide
  have refused : sampleNAVModule.computeRedemption sampleContracts 3 (135 * 10 ^ 16)
      sampleReserveWorld = .error "Must be greater than total available collateral" := by
    rfl
  rw [refused]
  rintro ⟨succeeds, _⟩
  obtain ⟨_, returned⟩ := succeeds valid
  cases returned

end CustomOracleNAVIssuanceModule

end IndexProtocol

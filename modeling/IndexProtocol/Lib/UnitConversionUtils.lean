/-
This file models the conversions between amounts in precise units and amounts in
the decimals of a token.
-/

import IndexProtocol.Lib.PreciseUnitMath

namespace IndexProtocol

open Revert

namespace UnitConversionUtils

/-- `10 ** (18 - decimals)`. Neither the difference nor the power is checked: with more than 18
decimals the exponent wraps around to a number so large that the power is zero. -/
def decimalFactor (decimals : Nat) : Nat :=
  if decimals ≤ 18 then 10 ^ (18 - decimals) else 0

def fromPreciseUnitToDecimals (amount decimals : Nat) : Outcome Nat :=
  SafeMath.div amount (decimalFactor decimals)

def fromPreciseUnitToDecimalsInt (amount : Int) (decimals : Nat) : Outcome Int :=
  SignedSafeMath.div amount (decimalFactor decimals)

def toPreciseUnitsFromDecimals (amount decimals : Nat) : Outcome Nat :=
  SafeMath.mul amount (decimalFactor decimals)

def toPreciseUnitsFromDecimalsInt (amount : Int) (decimals : Nat) : Outcome Int :=
  SignedSafeMath.mul amount (decimalFactor decimals)

end UnitConversionUtils

end IndexProtocol

/-
This file models the contract that values Set tokens. The units of every
component, default and external together, are normalized by the decimals of the
component and priced in the master quote asset; the sum is converted to the
quote asset. Each product and each quotient is cut off towards zero.
-/

import IndexProtocol.Protocol.PriceOracle
import IndexProtocol.Protocol.SetToken

namespace IndexProtocol

open Revert PreciseUnitMath

/-- The contracts that the valuer asks: the controller, with its own address, the price oracle
that the controller registers, the feeds behind it, and the decimals of the tokens. -/
structure ValuerContracts where
  registry : ControllerRegistry
  controllerAddress : Address
  priceOracle : PriceOracle
  feeds : PriceFeeds
  decimals : Address → Nat

namespace ValuerContracts

/-- A price as the valuer at this address is told. -/
def getPrice (contracts : ValuerContracts) (valuer assetOne assetTwo : Address) : Outcome Nat :=
  contracts.priceOracle.getPrice contracts.registry contracts.controllerAddress contracts.feeds
    valuer assetOne assetTwo

/-- `10 ** decimals`, which the compiler does not check. -/
def baseUnits (contracts : ValuerContracts) (component : Address) : Nat :=
  10 ^ contracts.decimals component % 2 ^ 256

end ValuerContracts

namespace SetValuer

/-- One component, added to the valuation of the components before it. -/
def addComponentValue (contracts : ValuerContracts) (valuer : Address) (setToken : SetToken)
    (valuation : Int) (component : Address) : Outcome Int := do
  let componentPrice ←
    contracts.getPrice valuer component contracts.priceOracle.masterQuoteAsset
  let aggregateUnits ← setToken.getTotalComponentRealUnits component
  let baseUnits ← SafeCast.toInt256 (contracts.baseUnits component)
  let normalizedUnits ← preciseDivInt aggregateUnits baseUnits
  let price ← SafeCast.toInt256 componentPrice
  let componentValue ← preciseMulInt normalizedUnits price
  SignedSafeMath.add componentValue valuation

/-- The valuation in the master quote asset, converted to the quote asset. -/
def quote (contracts : ValuerContracts) (valuer quoteAsset : Address) (valuation : Int) :
    Outcome Int :=
  if contracts.priceOracle.masterQuoteAsset ≠ quoteAsset then do
    let quoteToMaster ←
      contracts.getPrice valuer quoteAsset contracts.priceOracle.masterQuoteAsset
    let price ← SafeCast.toInt256 quoteToMaster
    preciseDivInt valuation price
  else pure valuation

/-- `valuer` is the valuer's own address. -/
def calculateSetTokenValuation (contracts : ValuerContracts) (valuer : Address)
    (setToken : SetToken) (quoteAsset : Address) : Outcome Nat := do
  let total ←
    setToken.components.foldlM (addComponentValue contracts valuer setToken) 0
  let valuation ← quote contracts valuer quoteAsset total
  SafeCast.toUint256 valuation

end SetValuer

end IndexProtocol

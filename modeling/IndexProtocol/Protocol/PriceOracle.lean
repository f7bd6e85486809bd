/-
This file models the price oracle of the protocol. A pair of assets is priced by
its own oracle, by the inverse of the oracle of the reversed pair, by the prices
of both assets in a common quote asset, or else by the first adapter that knows
the pair. The owner keeps the table of oracles and the list of adapters.
-/

import IndexProtocol.Lib.AddressArrayUtils
import IndexProtocol.Lib.Ownable
import IndexProtocol.Lib.PreciseUnitMath
import IndexProtocol.Protocol.ControllerRegistry

namespace IndexProtocol

open Revert PreciseUnitMath

namespace ControllerRegistry

/-- `self` is the controller's own address. -/
def isSystemContract (registry : ControllerRegistry) (self contractAddress : Address) : Bool :=
  registry.isSet contractAddress || registry.isModule contractAddress ||
    registry.isResource contractAddress || registry.isFactory contractAddress ||
    decide (contractAddress = self)

end ControllerRegistry

/-- The contracts that the price oracle asks, as one call finds them. -/
structure PriceFeeds where
  /-- The value an oracle reports, in precise units. -/
  read : Address → Outcome Nat
  /-- What an adapter knows of a pair of assets. -/
  adapterPrice : Address → Address → Address → Outcome (Bool × Nat)

/-- The zero address in the table stands for a missing oracle. -/
structure PriceOracle extends Ownable where
  oracles : Address → Address → Address
  masterQuoteAsset : Address
  adapters : List Address

namespace PriceOracle

/-- Later entries of the arrays overwrite earlier ones. -/
def construct (owner masterQuoteAsset : Address) (adapters assetOnes assetTwos : List Address)
    (oracles : List Address) : Outcome PriceOracle := do
  require (assetOnes.length = assetTwos.length ∧ assetTwos.length = oracles.length)
    "Array lengths do not match."
  pure {
    owner, masterQuoteAsset, adapters
    oracles := (assetOnes.zip (assetTwos.zip oracles)).foldl
      (fun table entry => Function.update table entry.1
        (Function.update (table entry.1) entry.2.1 entry.2.2))
      fun _ _ => 0 }

/-! ### Prices -/

def calculateInversePrice (feeds : PriceFeeds) (inverseOracle : Address) : Outcome Nat := do
  let inverseValue ← feeds.read inverseOracle
  preciseDiv preciseUnit inverseValue

/-- The price, if there is an oracle of the pair or of the reversed pair. -/
def getDirectOrInversePrice (oracle : PriceOracle) (feeds : PriceFeeds)
    (assetOne assetTwo : Address) : Outcome (Bool × Nat) :=
  let directOracle := oracle.oracles assetOne assetTwo
  if directOracle ≠ 0 then do
    let price ← feeds.read directOracle
    pure (true, price)
  else
    let inverseOracle := oracle.oracles assetTwo assetOne
    if inverseOracle ≠ 0 then do
      let price ← calculateInversePrice feeds inverseOracle
      pure (true, price)
    else pure (false, 0)

def getPriceFromMasterQuote (oracle : PriceOracle) (feeds : PriceFeeds)
    (assetOne assetTwo : Address) : Outcome (Bool × Nat) := do
  let (priceFoundOne, assetOnePrice) ←
    oracle.getDirectOrInversePrice feeds assetOne oracle.masterQuoteAsset
  let (priceFoundTwo, assetTwoPrice) ←
    oracle.getDirectOrInversePrice feeds assetTwo oracle.masterQuoteAsset
  if priceFoundOne = true ∧ priceFoundTwo = true then do
    let price ← preciseDiv assetOnePrice assetTwoPrice
    pure (true, price)
  else pure (false, 0)

/-- The first adapter that knows the pair. -/
def firstAdapterPrice (feeds : PriceFeeds) (assetOne assetTwo : Address) :
    List Address → Outcome (Bool × Nat)
  | [] => pure (false, 0)
  | adapter :: rest => do
    let (priceFound, price) ← feeds.adapterPrice adapter assetOne assetTwo
    if priceFound = true then pure (priceFound, price)
    else firstAdapterPrice feeds assetOne assetTwo rest

def getPriceFromAdapters (oracle : PriceOracle) (feeds : PriceFeeds)
    (assetOne assetTwo : Address) : Outcome (Bool × Nat) :=
  firstAdapterPrice feeds assetOne assetTwo oracle.adapters

/-- A price that was found is kept, and another source is asked otherwise. -/
def unlessFound (found : Bool × Nat) (other : Outcome (Bool × Nat)) : Outcome (Bool × Nat) :=
  if found.1 = false then other else pure found

/-- `controllerAddress` is the address of the controller that the oracle asks. -/
def getPrice (oracle : PriceOracle) (registry : ControllerRegistry)
    (controllerAddress : Address) (feeds : PriceFeeds)
    (msgSender assetOne assetTwo : Address) : Outcome Nat := do
  require (registry.isSystemContract controllerAddress msgSender = true)
    "PriceOracle.getPrice: Caller must be system contract."
  let direct ← oracle.getDirectOrInversePrice feeds assetOne assetTwo
  let linked ← unlessFound direct (oracle.getPriceFromMasterQuote feeds assetOne assetTwo)
  let found ← unlessFound linked (oracle.getPriceFromAdapters feeds assetOne assetTwo)
  require (found.1 = true) "PriceOracle.getPrice: Price not found."
  pure found.2

/-! ### Governance -/

def setPair (oracle : PriceOracle) (assetOne assetTwo newOracle : Address) : PriceOracle :=
  { oracle with
    oracles := Function.update oracle.oracles assetOne
      (Function.update (oracle.oracles assetOne) assetTwo newOracle) }

def addPair (oracle : PriceOracle) (msgSender assetOne assetTwo newOracle : Address) :
    Outcome PriceOracle := do
  oracle.onlyOwner msgSender
  require (oracle.oracles assetOne assetTwo = 0) "PriceOracle.addPair: Pair already exists."
  pure (oracle.setPair assetOne assetTwo newOracle)

def editPair (oracle : PriceOracle) (msgSender assetOne assetTwo newOracle : Address) :
    Outcome PriceOracle := do
  oracle.onlyOwner msgSender
  require (oracle.oracles assetOne assetTwo ≠ 0) "PriceOracle.editPair: Pair doesn't exist."
  pure (oracle.setPair assetOne assetTwo newOracle)

def removePair (oracle : PriceOracle) (msgSender assetOne assetTwo : Address) :
    Outcome PriceOracle := do
  oracle.onlyOwner msgSender
  require (oracle.oracles assetOne assetTwo ≠ 0) "PriceOracle.removePair: Pair doesn't exist."
  pure (oracle.setPair assetOne assetTwo 0)

def addAdapter (oracle : PriceOracle) (msgSender adapter : Address) : Outcome PriceOracle := do
  oracle.onlyOwner msgSender
  require (AddressArrayUtils.contains oracle.adapters adapter = false)
    "PriceOracle.addAdapter: Adapter already exists."
  pure { oracle with adapters := oracle.adapters ++ [adapter] }

def removeAdapter (oracle : PriceOracle) (msgSender adapter : Address) :
    Outcome PriceOracle := do
  oracle.onlyOwner msgSender
  require (AddressArrayUtils.contains oracle.adapters adapter = true)
    "PriceOracle.removeAdapter: Adapter does not exist."
  let adapters ← AddressArrayUtils.remove oracle.adapters adapter
  pure { oracle with adapters }

def editMasterQuoteAsset (oracle : PriceOracle) (msgSender newMasterQuoteAsset : Address) :
    Outcome PriceOracle := do
  oracle.onlyOwner msgSender
  pure { oracle with masterQuoteAsset := newMasterQuoteAsset }

end PriceOracle

end IndexProtocol

/-
This file models the part of the protocol's controller that the Set tokens and
their modules consult: which Sets, factories and modules are enabled, the module
fees and their recipient, and the registration of a new Set.
-/

import IndexProtocol.Lib.SafeMath
import Mathlib.Logic.Function.Basic

namespace IndexProtocol

open Revert

structure Controller where
  isInitialized : Bool
  sets : List Address
  isSet : Address → Bool
  isFactory : Address → Bool
  isModule : Address → Bool
  fees : Address → Nat → Nat
  feeRecipient : Address

namespace Controller

def addSet (msgSender setToken : Address) (controller : Controller) : Outcome Controller := do
  require (controller.isInitialized = true) "Contract must be initialized."
  require (controller.isFactory msgSender = true) "Only valid factories can call"
  require (controller.isSet setToken = false) "Set already exists"
  pure { controller with
    isSet := Function.update controller.isSet setToken true
    sets := controller.sets ++ [setToken] }

def getModuleFee (controller : Controller) (moduleAddress : Address) (feeType : Nat) : Nat :=
  controller.fees moduleAddress feeType

end Controller

end IndexProtocol

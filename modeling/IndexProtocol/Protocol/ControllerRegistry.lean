/-
This file models the registry of the protocol's controller: the lists of Sets,
factories, modules and resources, the flag of every listed address, and the id
under which each resource is found. The owner fills the lists once with
`initialize` and edits them one address at a time afterwards; factories add the
Sets they create.
-/

import IndexProtocol.Lib.AddressArrayUtils
import IndexProtocol.Lib.Ownable
import IndexProtocol.Protocol.Controller

namespace IndexProtocol

open Revert

/-- The controller with the lists it keeps beside the flags. -/
structure ControllerRegistry extends Controller, Ownable where
  factories : List Address
  modules : List Address
  resources : List Address
  isResource : Address → Bool
  resourceId : Nat → Address

namespace ControllerRegistry

/-- The constructor; the deployer owns the controller. -/
def construct (owner feeRecipient : Address) : ControllerRegistry where
  isInitialized := false
  sets := []
  isSet := fun _ => false
  isFactory := fun _ => false
  isModule := fun _ => false
  fees := fun _ _ => 0
  feeRecipient := feeRecipient
  owner := owner
  factories := []
  modules := []
  resources := []
  isResource := fun _ => false
  resourceId := fun _ => 0

def onlyInitialized (registry : ControllerRegistry) : Outcome Unit :=
  require (registry.isInitialized = true) "Contract must be initialized."

/-! ### Lists with flags -/

/-- Append an address to a list and set its flag. -/
def add (list : List Address) (flags : Address → Bool) (item : Address) (reason : String) :
    Outcome (List Address × (Address → Bool)) := do
  require (flags item = false) reason
  pure (list ++ [item], Function.update flags item true)

/-- Remove an address from a list and clear its flag. -/
def remove (list : List Address) (flags : Address → Bool) (item : Address) (reason : String) :
    Outcome (List Address × (Address → Bool)) := do
  require (flags item = true) reason
  let remaining ← AddressArrayUtils.remove list item
  pure (remaining, Function.update flags item false)

/-- The initializer's loop over one of its arrays. -/
def enable (flags : Address → Bool) (item : Address) : Outcome (Address → Bool) := do
  require (item ≠ 0) "Zero address submitted."
  pure (Function.update flags item true)

/-- The initializer's loop over the resources and their ids. -/
def enableResource (resourceInfo : (Address → Bool) × (Nat → Address))
    (entry : Address × Nat) : Outcome ((Address → Bool) × (Nat → Address)) := do
  require (entry.1 ≠ 0) "Zero address submitted."
  require (resourceInfo.2 entry.2 = 0) "Resource ID already exists"
  pure (Function.update resourceInfo.1 entry.1 true, Function.update resourceInfo.2 entry.2 entry.1)

/-! ### The external functions -/

/-- The controller's `initialize`. -/
def initializeRegistry (registry : ControllerRegistry) (msgSender : Address)
    (factories modules resources : List Address) (resourceIds : List Nat) :
    Outcome ControllerRegistry := do
  registry.onlyOwner msgSender
  require (registry.isInitialized = false) "Controller is already initialized"
  require (resources.length = resourceIds.length) "Array lengths do not match."
  let isFactory ← factories.foldlM enable registry.isFactory
  let isModule ← modules.foldlM enable registry.isModule
  let (isResource, resourceId) ← (resources.zip resourceIds).foldlM enableResource
    (registry.isResource, registry.resourceId)
  pure { registry with
    factories := factories
    modules := modules
    resources := resources
    isFactory := isFactory
    isModule := isModule
    isResource := isResource
    resourceId := resourceId
    isInitialized := true }

def addSet (registry : ControllerRegistry) (msgSender setToken : Address) :
    Outcome ControllerRegistry := do
  let controller ← registry.toController.addSet msgSender setToken
  pure { registry with toController := controller }

def removeSet (registry : ControllerRegistry) (msgSender setToken : Address) :
    Outcome ControllerRegistry := do
  registry.onlyInitialized
  registry.onlyOwner msgSender
  let (sets, isSet) ← remove registry.sets registry.isSet setToken "Set does not exist"
  pure { registry with sets := sets, isSet := isSet }

def addFactory (registry : ControllerRegistry) (msgSender factory : Address) :
    Outcome ControllerRegistry := do
  registry.onlyInitialized
  registry.onlyOwner msgSender
  let (factories, isFactory) ←
    add registry.factories registry.isFactory factory "Factory already exists"
  pure { registry with factories := factories, isFactory := isFactory }

def removeFactory (registry : ControllerRegistry) (msgSender factory : Address) :
    Outcome ControllerRegistry := do
  registry.onlyInitialized
  registry.onlyOwner msgSender
  let (factories, isFactory) ←
    remove registry.factories registry.isFactory factory "Factory does not exist"
  pure { registry with factories := factories, isFactory := isFactory }

def addModule (registry : ControllerRegistry) (msgSender module : Address) :
    Outcome ControllerRegistry := do
  registry.onlyInitialized
  registry.onlyOwner msgSender
  let (modules, isModule) ←
    add registry.modules registry.isModule module "Module already exists"
  pure { registry with modules := modules, isModule := isModule }

def removeModule (registry : ControllerRegistry) (msgSender module : Address) :
    Outcome ControllerRegistry := do
  registry.onlyInitialized
  registry.onlyOwner msgSender
  let (modules, isModule) ←
    remove registry.modules registry.isModule module "Module does not exist"
  pure { registry with modules := modules, isModule := isModule }

/-- The id is checked between the flag and the list. -/
def addResource (registry : ControllerRegistry) (msgSender resource : Address) (id : Nat) :
    Outcome ControllerRegistry := do
  registry.onlyInitialized
  registry.onlyOwner msgSender
  require (registry.isResource resource = false) "Resource already exists"
  require (registry.resourceId id = 0) "Resource ID already exists"
  pure { registry with
    isResource := Function.update registry.isResource resource true
    resourceId := Function.update registry.resourceId id resource
    resources := registry.resources ++ [resource] }

def removeResource (registry : ControllerRegistry) (msgSender : Address) (id : Nat) :
    Outcome ControllerRegistry := do
  registry.onlyInitialized
  registry.onlyOwner msgSender
  let resourceToRemove := registry.resourceId id
  require (resourceToRemove ≠ 0) "Resource does not exist"
  let resources ← AddressArrayUtils.remove registry.resources resourceToRemove
  pure { registry with
    resources := resources
    resourceId := Function.update registry.resourceId id 0
    isResource := Function.update registry.isResource resourceToRemove false }

end ControllerRegistry

end IndexProtocol

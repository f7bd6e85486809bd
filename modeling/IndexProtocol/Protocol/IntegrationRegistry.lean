/-
This file models the registry of integrations: the adapter contract that each
module uses under a name. Names are stored by their hash, and the zero address
stands for a missing adapter. The owner adds, edits and removes the entries, one
at a time or in batches that succeed or fail as a whole.
-/

import IndexProtocol.Lib.Ownable
import IndexProtocol.Protocol.ModuleBase

namespace IndexProtocol

open Revert

/-- The storage of the registry. -/
structure IntegrationRegistryStorage extends Ownable where
  /-- The module, then the hash of the name. -/
  integrations : Address → Nat → Address

namespace IntegrationRegistryStorage

/-- The constructor; the deployer owns the registry. -/
def construct (owner : Address) : IntegrationRegistryStorage where
  owner := owner
  integrations := fun _ _ => 0

variable (nameHash : String → Nat)

def setIntegration (registry : IntegrationRegistryStorage) (module : Address) (hashedName : Nat)
    (adapter : Address) : IntegrationRegistryStorage :=
  { registry with
    integrations := Function.update registry.integrations module
      (Function.update (registry.integrations module) hashedName adapter) }

def addIntegration (controller : Controller) (msgSender module : Address) (name : String)
    (adapter : Address) (registry : IntegrationRegistryStorage) :
    Outcome IntegrationRegistryStorage := do
  registry.onlyOwner msgSender
  require (controller.isModule module = true) "Must be valid module."
  require (registry.integrations module (nameHash name) = 0) "Integration exists already."
  require (adapter ≠ 0) "Adapter address must exist."
  pure (registry.setIntegration module (nameHash name) adapter)

def editIntegration (controller : Controller) (msgSender module : Address) (name : String)
    (adapter : Address) (registry : IntegrationRegistryStorage) :
    Outcome IntegrationRegistryStorage := do
  registry.onlyOwner msgSender
  require (controller.isModule module = true) "Must be valid module."
  require (registry.integrations module (nameHash name) ≠ 0) "Integration does not exist."
  require (adapter ≠ 0) "Adapter address must exist."
  pure (registry.setIntegration module (nameHash name) adapter)

/-- The checks of both batches. -/
def validateBatch (modules : List Address) (names : List String) (adapters : List Address) :
    Outcome Unit := do
  require (0 < modules.length) "Modules must not be empty"
  require (modules.length = names.length) "Module and name lengths mismatch"
  require (modules.length = adapters.length) "Module and adapter lengths mismatch"

def batchAddIntegration (controller : Controller) (msgSender : Address) (modules : List Address)
    (names : List String) (adapters : List Address) (registry : IntegrationRegistryStorage) :
    Outcome IntegrationRegistryStorage := do
  registry.onlyOwner msgSender
  validateBatch modules names adapters
  (modules.zip (names.zip adapters)).foldlM (fun registry entry =>
    registry.addIntegration nameHash controller msgSender entry.1 entry.2.1 entry.2.2) registry

def batchEditIntegration (controller : Controller) (msgSender : Address) (modules : List Address)
    (names : List String) (adapters : List Address) (registry : IntegrationRegistryStorage) :
    Outcome IntegrationRegistryStorage := do
  registry.onlyOwner msgSender
  validateBatch modules names adapters
  (modules.zip (names.zip adapters)).foldlM (fun registry entry =>
    registry.editIntegration nameHash controller msgSender entry.1 entry.2.1 entry.2.2) registry

def removeIntegration (msgSender module : Address) (name : String)
    (registry : IntegrationRegistryStorage) : Outcome IntegrationRegistryStorage := do
  registry.onlyOwner msgSender
  require (registry.integrations module (nameHash name) ≠ 0) "Integration does not exist."
  pure (registry.setIntegration module (nameHash name) 0)

/-! ### Getters -/

def getIntegrationAdapter (registry : IntegrationRegistryStorage) (module : Address)
    (name : String) : Address :=
  registry.integrations module (nameHash name)

def getIntegrationAdapterWithHash (registry : IntegrationRegistryStorage) (module : Address)
    (nameHash : Nat) : Address :=
  registry.integrations module nameHash

def isValidIntegration (registry : IntegrationRegistryStorage) (module : Address)
    (name : String) : Bool :=
  decide (registry.integrations module (nameHash name) ≠ 0)

/-- The registry as the modules ask it. -/
def view (registry : IntegrationRegistryStorage) : IntegrationRegistry where
  getIntegrationAdapter := registry.getIntegrationAdapter nameHash

end IntegrationRegistryStorage

end IndexProtocol

/-
This file proves what the governed tables of the protocol hold after any sequence
of calls: the adapters of the integration registry and the oracles of the price
oracle. Both are directories written by their owner, who can pass the ownership
on. Every call that succeeds writes entries whose guards its checks establish, a
batch one entry after the other, and a call of anybody else changes nothing; so a
lookup returns what the newest successful write of its key stored.
-/

import IndexProtocol.Library.Directory
import IndexProtocol.Protocol.IntegrationRegistry
import IndexProtocol.Protocol.PriceOracle
import Mathlib.Data.BitVec

namespace IndexProtocol

open Revert Directory

/-! ### The integration registry -/

namespace IntegrationRegistryStorage

/-- The external functions that change the registry. -/
inductive IntegrationCall
  | addIntegration (module : Address) (name : String) (adapter : Address)
  | batchAddIntegration (modules : List Address) (names : List String) (adapters : List Address)
  | editIntegration (module : Address) (name : String) (adapter : Address)
  | batchEditIntegration (modules : List Address) (names : List String) (adapters : List Address)
  | removeIntegration (module : Address) (name : String)
  | ownership (call : OwnershipCall)

variable (nameHash : String → Nat)

/-- A call, with the controller it finds and its sender. -/
def apply (registry : IntegrationRegistryStorage) :
    Controller × Address × IntegrationCall → Outcome IntegrationRegistryStorage
  | (controller, msgSender, .addIntegration module name adapter) =>
    registry.addIntegration nameHash controller msgSender module name adapter
  | (controller, msgSender, .batchAddIntegration modules names adapters) =>
    registry.batchAddIntegration nameHash controller msgSender modules names adapters
  | (controller, msgSender, .editIntegration module name adapter) =>
    registry.editIntegration nameHash controller msgSender module name adapter
  | (controller, msgSender, .batchEditIntegration modules names adapters) =>
    registry.batchEditIntegration nameHash controller msgSender modules names adapters
  | (_, msgSender, .removeIntegration module name) =>
    registry.removeIntegration nameHash msgSender module name
  | (_, msgSender, .ownership call) => do
    let owned ← call.apply registry.toOwnable msgSender
    pure { registry with toOwnable := owned }

/-- Who calls, and whom the call makes the owner. -/
def ownership : Ownership.Calls (Controller × Address × IntegrationCall) Address where
  sender := fun call => call.2.1
  successor
    | (_, _, .ownership call) => call.successor
    | _ => none

/-- An adapter under the hash of a name. -/
abbrev IntegrationWrite := Write (Address × Nat) Address

def addEntry (entry : Address × String × Address) : IntegrationWrite :=
  .add (entry.1, nameHash entry.2.1) entry.2.2

def editEntry (entry : Address × String × Address) : IntegrationWrite :=
  .edit (entry.1, nameHash entry.2.1) entry.2.2

/-- What a successful call writes, the newest first. -/
def writes (_ : IntegrationRegistryStorage) :
    Controller × Address × IntegrationCall → List IntegrationWrite
  | (_, _, .addIntegration module name adapter) => [addEntry nameHash (module, name, adapter)]
  | (_, _, .batchAddIntegration modules names adapters) =>
    ((modules.zip (names.zip adapters)).map (addEntry nameHash)).reverse
  | (_, _, .editIntegration module name adapter) => [editEntry nameHash (module, name, adapter)]
  | (_, _, .batchEditIntegration modules names adapters) =>
    ((modules.zip (names.zip adapters)).map (editEntry nameHash)).reverse
  | (_, _, .removeIntegration module name) => [.remove (module, nameHash name)]
  | (_, _, .ownership _) => []

/-- The registry holds what a log of guarded writes leaves, and only removals leave nothing. -/
structure Holds (registry : IntegrationRegistryStorage) (log : List IntegrationWrite) : Prop where
  records : Records (fun _ => 0) registry.integrations log
  stored : ∀ write ∈ log, write.stored = 0 → write = .remove write.key

variable {nameHash} {registry next : IntegrationRegistryStorage} {log : List IntegrationWrite}

theorem Holds.construct (owner : Address) : Holds (construct owner) [] :=
  ⟨Records.start fun _ _ => 0, fun _ member => absurd member List.not_mem_nil⟩

theorem Holds.write (holds : Holds registry log) (write : IntegrationWrite)
    (guarded : write.Guarded (registry.integrations write.key.1 write.key.2))
    (stored : write.stored = 0 → write = .remove write.key) :
    Holds (registry.setIntegration write.key.1 write.key.2 write.stored) (write :: log) :=
  ⟨holds.records.write write guarded, List.forall_mem_cons.mpr ⟨stored, holds.stored⟩⟩

/-- A batch writes its entries one after the other. -/
theorem Holds.batch {entries : List (Address × String × Address)}
    {step : IntegrationRegistryStorage → Address × String × Address →
      Outcome IntegrationRegistryStorage}
    {entryWrite : Address × String × Address → IntegrationWrite}
    (single : ∀ log registry next entry, Holds registry log →
      step registry entry = .ok next → Holds next (entryWrite entry :: log))
    (holds : Holds registry log) (returned : entries.foldlM step registry = .ok next) :
    Holds next ((entries.map entryWrite).reverse ++ log) := by
  refine foldlM_seen step (fun seen registry =>
    Holds registry ((seen.map entryWrite).reverse ++ log)) entries holds ?_ returned
  intro seen entry rest state after _ held stepped
  rw [List.map_append, List.reverse_append]
  exact single _ _ _ _ held stepped

theorem Holds.addIntegration {controller : Controller} {msgSender : Address}
    {entry : Address × String × Address} (holds : Holds registry log)
    (returned : registry.addIntegration nameHash controller msgSender entry.1 entry.2.1
      entry.2.2 = .ok next) : Holds next (addEntry nameHash entry :: log) := by
  simp only [IntegrationRegistryStorage.addIntegration, bind_eq_ok, require_eq_ok, exists_const,
    pure_eq_ok] at returned
  obtain ⟨_, _, _, free, present, rfl⟩ := returned
  exact holds.write (addEntry nameHash entry) free fun none => absurd none present

theorem Holds.editIntegration {controller : Controller} {msgSender : Address}
    {entry : Address × String × Address} (holds : Holds registry log)
    (returned : registry.editIntegration nameHash controller msgSender entry.1 entry.2.1
      entry.2.2 = .ok next) : Holds next (editEntry nameHash entry :: log) := by
  simp only [IntegrationRegistryStorage.editIntegration, bind_eq_ok, require_eq_ok, exists_const,
    pure_eq_ok] at returned
  obtain ⟨_, _, _, taken, present, rfl⟩ := returned
  exact holds.write (editEntry nameHash entry) taken fun none => absurd none present

theorem Holds.apply (holds : Holds registry log)
    (call : Controller × Address × IntegrationCall)
    (returned : registry.apply nameHash call = .ok next) :
    Holds next (registry.writes nameHash call ++ log) := by
  obtain ⟨controller, msgSender, function⟩ := call
  cases function with
  | addIntegration module name adapter => exact holds.addIntegration returned
  | batchAddIntegration modules names adapters =>
    simp only [IntegrationRegistryStorage.apply, batchAddIntegration, bind_eq_ok] at returned
    obtain ⟨_, _, _, _, adding⟩ := returned
    exact Holds.batch (fun _ _ _ _ held added => held.addIntegration added) holds adding
  | editIntegration module name adapter => exact holds.editIntegration returned
  | batchEditIntegration modules names adapters =>
    simp only [IntegrationRegistryStorage.apply, batchEditIntegration, bind_eq_ok] at returned
    obtain ⟨_, _, _, _, editing⟩ := returned
    exact Holds.batch (fun _ _ _ _ held edited => held.editIntegration edited) holds editing
  | removeIntegration module name =>
    simp only [IntegrationRegistryStorage.apply, removeIntegration, bind_eq_ok, require_eq_ok,
      exists_const, pure_eq_ok] at returned
    obtain ⟨_, _, taken, rfl⟩ := returned
    exact holds.write (.remove (module, nameHash name)) taken fun _ => rfl
  | ownership call =>
    simp only [IntegrationRegistryStorage.apply, bind_eq_ok, pure_eq_ok] at returned
    obtain ⟨_, _, rfl⟩ := returned
    exact ⟨holds.records, holds.stored⟩

theorem addIntegration_owner {controller : Controller} {msgSender module adapter : Address}
    {name : String}
    (returned : registry.addIntegration nameHash controller msgSender module name adapter =
      .ok next) : msgSender = registry.owner ∧ next.owner = registry.owner := by
  simp only [IntegrationRegistryStorage.addIntegration, Ownable.onlyOwner, bind_eq_ok,
    require_eq_ok, exists_const, pure_eq_ok] at returned
  obtain ⟨sender, _, _, _, rfl⟩ := returned
  exact ⟨sender, rfl⟩

theorem editIntegration_owner {controller : Controller} {msgSender module adapter : Address}
    {name : String}
    (returned : registry.editIntegration nameHash controller msgSender module name adapter =
      .ok next) : msgSender = registry.owner ∧ next.owner = registry.owner := by
  simp only [IntegrationRegistryStorage.editIntegration, Ownable.onlyOwner, bind_eq_ok,
    require_eq_ok, exists_const, pure_eq_ok] at returned
  obtain ⟨sender, _, _, _, rfl⟩ := returned
  exact ⟨sender, rfl⟩

/-- A batch leaves the owner. -/
theorem batch_owner {entries : List (Address × String × Address)}
    {step : IntegrationRegistryStorage → Address × String × Address →
      Outcome IntegrationRegistryStorage}
    (single : ∀ registry entry next, step registry entry = .ok next →
      next.owner = registry.owner)
    (returned : entries.foldlM step registry = .ok next) : next.owner = registry.owner :=
  foldlM_invariant step (fun reached => reached.owner = registry.owner) entries
    (fun before entry after _ kept stepped => (single before entry after stepped).trans kept)
    registry next rfl returned

/-- Only the owner's calls succeed, and only the calls of the ownership change the owner. -/
theorem ownership_governs : ownership.Govern (apply nameHash) fun registry => registry.owner where
  succeeds := by
    rintro registry ⟨controller, msgSender, function⟩ next returned
    cases function with
    | addIntegration module name adapter => exact addIntegration_owner returned
    | batchAddIntegration modules names adapters =>
      simp only [apply, batchAddIntegration, Ownable.onlyOwner, bind_eq_ok, require_eq_ok,
        exists_const] at returned
      obtain ⟨sender, _, _, adding⟩ := returned
      exact ⟨sender, batch_owner (fun _ _ _ added => (addIntegration_owner added).2) adding⟩
    | editIntegration module name adapter => exact editIntegration_owner returned
    | batchEditIntegration modules names adapters =>
      simp only [apply, batchEditIntegration, Ownable.onlyOwner, bind_eq_ok, require_eq_ok,
        exists_const] at returned
      obtain ⟨sender, _, _, editing⟩ := returned
      exact ⟨sender, batch_owner (fun _ _ _ edited => (editIntegration_owner edited).2) editing⟩
    | removeIntegration module name =>
      simp only [apply, removeIntegration, Ownable.onlyOwner, bind_eq_ok, require_eq_ok,
        exists_const, pure_eq_ok] at returned
      obtain ⟨sender, _, rfl⟩ := returned
      exact ⟨sender, rfl⟩
    | ownership call =>
      simp only [apply, bind_eq_ok, pure_eq_ok] at returned
      obtain ⟨_, owned, rfl⟩ := returned
      exact call.apply_eq_ok owned
  fails := by
    rintro registry ⟨controller, msgSender, function⟩ failure failed sender
    cases function with
    | ownership call =>
      cases applied : call.apply registry.toOwnable msgSender with
      | error reason => exact call.successor_of_error applied sender
      | ok owned => simp [apply, applied] at failed
    | _ => rfl

/-- After any sequence of calls of anybody, with any controllers, the adapter under a name is the
one that the newest successful write of that name stored, and none if it was removed or never
added; a module that trades through the registry is given that adapter. No addition replaced an
adapter, no edit and no removal found none. The calls say who owns the registry, and those of
others than the owner of the time made no difference. -/
theorem integrations_of_log (owner : Address)
    (calls : List (Controller × Address × IntegrationCall)) :
    let final := run (recorded (apply nameHash) (writes nameHash)) (construct owner, []) calls
    Coherent (fun _ => 0) final.2 ∧
      (∀ module name, final.1.getIntegrationAdapter nameHash module name =
        latest (fun _ => 0) final.2 (module, nameHash name)) ∧
      (∀ module name adapter,
        ModuleBase.getAndValidateAdapter module (final.1.view nameHash) name = .ok adapter ↔
          adapter ≠ 0 ∧ latest (fun _ => 0) final.2 (module, nameHash name) = adapter) ∧
      (∀ module name, final.1.isValidIntegration nameHash module name = false ↔
        (∃ later earlier, final.2 = later ++ .remove (module, nameHash name) :: earlier ∧
          ∀ write ∈ later, write.key ≠ (module, nameHash name)) ∨
        ∀ write ∈ final.2, write.key ≠ (module, nameHash name)) ∧
      final.1.owner = calls.foldl ownership.nextOwner owner ∧
      final.1 = run (apply nameHash) (construct owner) (ownership.ofOwner owner calls) := by
  intro final
  have holds : Holds final.1 final.2 := by
    refine run_recorded_invariant (apply nameHash) (writes nameHash)
      (fun recording => Holds recording.1 recording.2) ?_ calls (Holds.construct owner)
    intro registry log call next held returned
    exact held.apply call returned
  have same : final.1 = run (apply nameHash) (construct owner) calls :=
    run_recorded_fst (apply nameHash) (writes nameHash) calls (construct owner, [])
  refine ⟨holds.records.coherent, fun module name => holds.records.table (module, nameHash name),
    ?_, ?_, ?_, ?_⟩
  · intro module name adapter
    have entry : (final.1.view nameHash).getIntegrationAdapter module name =
        latest (fun _ => 0) final.2 (module, nameHash name) :=
      holds.records.table (module, nameHash name)
    simp only [ModuleBase.getAndValidateAdapter, bind_eq_ok, require_eq_ok, exists_const,
      pure_eq_ok, entry]
    constructor
    · rintro ⟨present, rfl⟩
      exact ⟨present, rfl⟩
    · rintro ⟨present, rfl⟩
      exact ⟨present, rfl⟩
  · intro module name
    have entry := holds.records.table (module, nameHash name)
    unfold isValidIntegration
    rw [decide_eq_false_iff_not, not_not, entry, latest_eq_zero_iff holds.stored]
    simp only [true_and]
  · rw [same]
    exact ownership_governs.owner_of_run calls (construct owner)
  · rw [same]
    exact (ownership_governs.run_ofOwner calls (construct owner)).symm

end IntegrationRegistryStorage

/-! ### The price oracle -/

namespace PriceOracle

/-- The external functions that change the oracle. -/
inductive OracleCall
  | addPair (assetOne assetTwo newOracle : Address)
  | editPair (assetOne assetTwo newOracle : Address)
  | removePair (assetOne assetTwo : Address)
  | addAdapter (adapter : Address)
  | removeAdapter (adapter : Address)
  | editMasterQuoteAsset (newMasterQuoteAsset : Address)
  | ownership (call : OwnershipCall)

/-- A call, with its sender. -/
def apply (oracle : PriceOracle) : Address × OracleCall → Outcome PriceOracle
  | (msgSender, .addPair assetOne assetTwo newOracle) =>
    oracle.addPair msgSender assetOne assetTwo newOracle
  | (msgSender, .editPair assetOne assetTwo newOracle) =>
    oracle.editPair msgSender assetOne assetTwo newOracle
  | (msgSender, .removePair assetOne assetTwo) => oracle.removePair msgSender assetOne assetTwo
  | (msgSender, .addAdapter adapter) => oracle.addAdapter msgSender adapter
  | (msgSender, .removeAdapter adapter) => oracle.removeAdapter msgSender adapter
  | (msgSender, .editMasterQuoteAsset newMasterQuoteAsset) =>
    oracle.editMasterQuoteAsset msgSender newMasterQuoteAsset
  | (msgSender, .ownership call) => do
    let owned ← call.apply oracle.toOwnable msgSender
    pure { oracle with toOwnable := owned }

/-- Who calls, and whom the call makes the owner. -/
def ownership : Ownership.Calls (Address × OracleCall) Address where
  sender := fun call => call.1
  successor
    | (_, .ownership call) => call.successor
    | _ => none

/-- What a successful call writes into the table of oracles. -/
def writes (_ : PriceOracle) : Address × OracleCall → List (Write (Address × Address) Address)
  | (_, .addPair assetOne assetTwo newOracle) => [.add (assetOne, assetTwo) newOracle]
  | (_, .editPair assetOne assetTwo newOracle) => [.edit (assetOne, assetTwo) newOracle]
  | (_, .removePair assetOne assetTwo) => [.remove (assetOne, assetTwo)]
  | (_, .addAdapter _) => []
  | (_, .removeAdapter _) => []
  | (_, .editMasterQuoteAsset _) => []
  | (_, .ownership _) => []

/-- The oracle holds what a log of guarded writes leaves of a table, and lists no adapter twice. -/
structure Holds (start oracle : PriceOracle) (log : List (Write (Address × Address) Address)) :
    Prop where
  records : Records (fun key => start.oracles key.1 key.2) oracle.oracles log
  adapters : start.adapters.Nodup → oracle.adapters.Nodup

variable {start oracle next : PriceOracle} {log : List (Write (Address × Address) Address)}

/-- A successful call is the owner's, keeps what the log leaves, and changes the owner only if it
passes the ownership. -/
theorem Holds.apply (holds : Holds start oracle log) (call : Address × OracleCall)
    (returned : oracle.apply call = .ok next) :
    Holds start next (oracle.writes call ++ log) ∧ call.1 = oracle.owner ∧
      next.owner = (ownership.successor call).getD oracle.owner := by
  obtain ⟨msgSender, function⟩ := call
  cases function with
  | addPair assetOne assetTwo newOracle =>
    simp only [PriceOracle.apply, addPair, Ownable.onlyOwner, bind_eq_ok, require_eq_ok,
      exists_const, pure_eq_ok] at returned
    obtain ⟨sender, free, rfl⟩ := returned
    exact ⟨⟨holds.records.write (.add (assetOne, assetTwo) newOracle) free, holds.adapters⟩,
      sender, rfl⟩
  | editPair assetOne assetTwo newOracle =>
    simp only [PriceOracle.apply, editPair, Ownable.onlyOwner, bind_eq_ok, require_eq_ok,
      exists_const, pure_eq_ok] at returned
    obtain ⟨sender, taken, rfl⟩ := returned
    exact ⟨⟨holds.records.write (.edit (assetOne, assetTwo) newOracle) taken, holds.adapters⟩,
      sender, rfl⟩
  | removePair assetOne assetTwo =>
    simp only [PriceOracle.apply, removePair, Ownable.onlyOwner, bind_eq_ok, require_eq_ok,
      exists_const, pure_eq_ok] at returned
    obtain ⟨sender, taken, rfl⟩ := returned
    exact ⟨⟨holds.records.write (.remove (assetOne, assetTwo)) taken, holds.adapters⟩, sender,
      rfl⟩
  | addAdapter adapter =>
    simp only [PriceOracle.apply, addAdapter, Ownable.onlyOwner, bind_eq_ok, require_eq_ok,
      exists_const, AddressArrayUtils.contains_eq_false, pure_eq_ok] at returned
    obtain ⟨sender, fresh, rfl⟩ := returned
    refine ⟨⟨holds.records, fun distinct => ?_⟩, sender, rfl⟩
    exact List.nodup_append.mpr ⟨holds.adapters distinct, List.nodup_singleton _,
      fun item member other single equal =>
        fresh (List.mem_singleton.mp single ▸ equal ▸ member)⟩
  | removeAdapter adapter =>
    simp only [PriceOracle.apply, removeAdapter, Ownable.onlyOwner, bind_eq_ok, require_eq_ok,
      exists_const, pure_eq_ok] at returned
    obtain ⟨sender, _, remaining, removed, rfl⟩ := returned
    obtain ⟨_, rfl⟩ := AddressArrayUtils.remove_eq_ok removed
    exact ⟨⟨holds.records, fun distinct => (holds.adapters distinct).erase _⟩, sender, rfl⟩
  | editMasterQuoteAsset newMasterQuoteAsset =>
    simp only [PriceOracle.apply, editMasterQuoteAsset, Ownable.onlyOwner, bind_eq_ok,
      require_eq_ok, exists_const, pure_eq_ok] at returned
    obtain ⟨sender, rfl⟩ := returned
    exact ⟨⟨holds.records, holds.adapters⟩, sender, rfl⟩
  | ownership call =>
    simp only [PriceOracle.apply, bind_eq_ok, pure_eq_ok] at returned
    obtain ⟨_, owned, rfl⟩ := returned
    exact ⟨⟨holds.records, holds.adapters⟩, call.apply_eq_ok owned⟩

theorem ownership_governs : ownership.Govern apply fun oracle => oracle.owner where
  succeeds := by
    intro oracle call next returned
    have kept : Holds oracle oracle [] := ⟨Records.start _, id⟩
    exact (kept.apply call returned).2
  fails := by
    rintro oracle ⟨msgSender, function⟩ failure failed sender
    cases function with
    | ownership call =>
      cases applied : call.apply oracle.toOwnable msgSender with
      | error reason => exact call.successor_of_error applied sender
      | ok owned => simp [apply, applied] at failed
    | _ => rfl

/-- After any sequence of calls of anybody, the oracle of a pair is the one that the newest
successful write of that pair stored, or the one at the start. No addition replaced an oracle, no
edit and no removal found none, and no adapter is listed twice unless it was at the start. The
calls say who owns the oracle, and those of others than the owner of the time made no
difference. -/
theorem oracles_of_log (start : PriceOracle) (calls : List (Address × OracleCall)) :
    let final := run (recorded apply writes) (start, []) calls
    Coherent (fun key => start.oracles key.1 key.2) final.2 ∧
      (∀ assetOne assetTwo, final.1.oracles assetOne assetTwo =
        latest (fun key => start.oracles key.1 key.2) final.2 (assetOne, assetTwo)) ∧
      (start.adapters.Nodup → final.1.adapters.Nodup) ∧
      final.1.owner = calls.foldl ownership.nextOwner start.owner ∧
      final.1 = run apply start (ownership.ofOwner start.owner calls) := by
  intro final
  have begun : Holds start start [] := ⟨Records.start _, id⟩
  have holds : Holds start final.1 final.2 := by
    refine run_recorded_invariant apply writes
      (fun recording => Holds start recording.1 recording.2) ?_ calls begun
    intro oracle log call next held returned
    exact (held.apply call returned).1
  have same : final.1 = run apply start calls :=
    run_recorded_fst apply writes calls (start, [])
  refine ⟨holds.records.coherent, fun assetOne assetTwo => holds.records.table (assetOne, assetTwo),
    holds.adapters, ?_, ?_⟩
  · rw [same]
    exact ownership_governs.owner_of_run calls start
  · rw [same]
    exact (ownership_governs.run_ofOwner calls start).symm

end PriceOracle

end IndexProtocol

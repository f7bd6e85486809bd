/-
This file runs the controller's registry as a state machine and follows the
agreement of its lists with its flags and ids. Every single-address operation
checks the flag before it touches the list and keeps the two in step. The
initializer copies its arrays without looking for repetitions, and `addResource`
alone accepts the zero address, under which a resource cannot be found again;
the agreement holds in every state of a run exactly when neither has happened.
-/

import IndexProtocol.Protocol.ControllerRegistry

namespace IndexProtocol

open Revert Registry

/-- A call of one of the registry's external functions. -/
inductive RegistryCall
  | initializeRegistry (factories modules resources : List Address) (resourceIds : List Nat)
  | addSet (setToken : Address)
  | removeSet (setToken : Address)
  | addFactory (factory : Address)
  | removeFactory (factory : Address)
  | addModule (module : Address)
  | removeModule (module : Address)
  | addResource (resource : Address) (id : Nat)
  | removeResource (id : Nat)

/-- The resources agree with their flags and with the ids they are found under. -/
structure RegisteredResources (resources : List Address) (isResource : Address → Bool)
    (resourceId : Nat → Address) : Prop where
  listed : Mirrors resources isResource
  resourceId_ne_zero_iff : ∀ id, resourceId id ≠ 0 ↔ resourceId id ∈ resources
  registered : ∀ resource ∈ resources, ∃! id, resourceId id = resource

namespace RegisteredResources

variable {resources remaining : List Address} {isResource : Address → Bool}
  {resourceId : Nat → Address}

theorem empty : RegisteredResources [] (fun _ => false) fun _ => 0 :=
  ⟨Mirrors.empty, fun _ => iff_of_false (fun different => different rfl) List.not_mem_nil,
    fun _ member => absurd member List.not_mem_nil⟩

/-- A new resource enters under a free id. -/
theorem push (registered : RegisteredResources resources isResource resourceId)
    {resource : Address} {id : Nat} (nonzero : resource ≠ 0) (fresh : resource ∉ resources)
    (free : resourceId id = 0) :
    RegisteredResources (resources ++ [resource]) (Function.update isResource resource true)
      (Function.update resourceId id resource) := by
  have zeroUnlisted : (0 : Address) ∉ resources := fun member =>
    (registered.resourceId_ne_zero_iff id).mpr (free ▸ member) free
  have unregistered : ∀ other, resourceId other ≠ resource := fun other found =>
    fresh (found ▸ (registered.resourceId_ne_zero_iff other).mp (found ▸ nonzero))
  refine ⟨registered.listed.push fresh, fun other => ?_, fun other member => ?_⟩
  · rw [List.mem_append, List.mem_singleton]
    rcases eq_or_ne other id with rfl | different
    · rw [Function.update_self]
      exact iff_of_true nonzero (Or.inr rfl)
    · rw [Function.update_of_ne different, registered.resourceId_ne_zero_iff]
      exact (or_iff_left (unregistered other)).symm
  · rcases List.mem_append.mp member with listed | added
    · obtain ⟨found, at_, unique⟩ := registered.registered other listed
      have otherId : found ≠ id := fun same => zeroUnlisted (free ▸ same ▸ at_ ▸ listed)
      refine ⟨found, ?_, fun candidate
        (located : Function.update resourceId id resource candidate = other) => ?_⟩
      · rw [← at_]
        exact Function.update_of_ne otherId _ _
      · rcases eq_or_ne candidate id with rfl | different
        · rw [Function.update_self] at located
          exact absurd (located ▸ listed) fresh
        · rw [Function.update_of_ne different] at located
          exact unique candidate located
    · obtain rfl := List.mem_singleton.mp added
      refine ⟨id, Function.update_self _ _ _, fun candidate
        (located : Function.update resourceId id other candidate = other) => ?_⟩
      by_contra different
      rw [Function.update_of_ne different] at located
      exact unregistered candidate located

/-- The resource found under an id leaves together with the id. -/
theorem remove (registered : RegisteredResources resources isResource resourceId) {id : Nat}
    (nonzero : resourceId id ≠ 0) (erased : remaining.Perm (resources.erase (resourceId id))) :
    RegisteredResources remaining (Function.update isResource (resourceId id) false)
      (Function.update resourceId id 0) := by
  have listed := (registered.resourceId_ne_zero_iff id).mp nonzero
  obtain ⟨found, _, unique⟩ := registered.registered _ listed
  have mem_iff : ∀ other, other ∈ remaining ↔ other ≠ resourceId id ∧ other ∈ resources :=
    fun other => erased.mem_iff.trans registered.listed.nodup.mem_erase_iff
  have elsewhere : ∀ other, other ≠ id → resourceId other ≠ resourceId id := fun other different
    same => different ((unique other same).trans (unique id rfl).symm)
  refine ⟨registered.listed.remove erased, fun other => ?_, fun other member => ?_⟩
  · rw [mem_iff]
    rcases eq_or_ne other id with rfl | different
    · rw [Function.update_self]
      refine iff_of_false (fun different => different rfl) fun both => ?_
      obtain ⟨_, at_, _⟩ := registered.registered 0 both.2
      exact (registered.resourceId_ne_zero_iff _).mpr (at_.symm ▸ both.2) at_
    · rw [Function.update_of_ne different, registered.resourceId_ne_zero_iff]
      exact (and_iff_right (elsewhere other different)).symm
  · obtain ⟨different, member⟩ := (mem_iff other).mp member
    obtain ⟨location, at_, only⟩ := registered.registered other member
    have otherId : location ≠ id := fun same => different (same ▸ at_.symm)
    refine ⟨location, ?_, fun candidate
      (located : Function.update resourceId id 0 candidate = other) => ?_⟩
    · rw [← at_]
      exact Function.update_of_ne otherId _ _
    · rcases eq_or_ne candidate id with rfl | apart
      · rw [Function.update_self] at located
        have zeroId : resourceId location = 0 := at_.trans located.symm
        exact absurd zeroId ((registered.resourceId_ne_zero_iff location).mpr (at_.symm ▸ member))
      · rw [Function.update_of_ne apart] at located
        exact only candidate located

end RegisteredResources

/-- Every list has each address at most once and agrees with its flags, and the resources
agree with their ids. -/
structure ConsistentRegistry (registry : ControllerRegistry) : Prop where
  sets : Mirrors registry.sets registry.isSet
  factories : Mirrors registry.factories registry.isFactory
  modules : Mirrors registry.modules registry.isModule
  resources : RegisteredResources registry.resources registry.isResource registry.resourceId

namespace ControllerRegistry

/-- One call, with its sender. -/
def apply (registry : ControllerRegistry) : Address × RegistryCall → Outcome ControllerRegistry
  | (msgSender, .initializeRegistry factories modules resources resourceIds) =>
    registry.initializeRegistry msgSender factories modules resources resourceIds
  | (msgSender, .addSet setToken) => registry.addSet msgSender setToken
  | (msgSender, .removeSet setToken) => registry.removeSet msgSender setToken
  | (msgSender, .addFactory factory) => registry.addFactory msgSender factory
  | (msgSender, .removeFactory factory) => registry.removeFactory msgSender factory
  | (msgSender, .addModule module) => registry.addModule msgSender module
  | (msgSender, .removeModule module) => registry.removeModule msgSender module
  | (msgSender, .addResource resource id) => registry.addResource msgSender resource id
  | (msgSender, .removeResource id) => registry.removeResource msgSender id

variable {list result : List Address} {flags after : Address → Bool} {item : Address}
  {reason : String} {registry next : ControllerRegistry} {msgSender : Address}

/-! ### The operations on one list -/

theorem add_mirrors (mirrors : Mirrors list flags)
    (added : add list flags item reason = .ok (result, after)) : Mirrors result after := by
  simp only [add, bind_eq_ok, require_eq_ok, exists_const, pure_eq_ok, Prod.mk.injEq] at added
  obtain ⟨unset, rfl, rfl⟩ := added
  exact mirrors.push ((mirrors.notMem_iff item).mpr unset)

theorem remove_mirrors (mirrors : Mirrors list flags)
    (removed : remove list flags item reason = .ok (result, after)) : Mirrors result after := by
  simp only [remove, bind_eq_ok, require_eq_ok, exists_const, pure_eq_ok, Prod.mk.injEq] at removed
  obtain ⟨_, remaining, removed, rfl, rfl⟩ := removed
  obtain ⟨_, rfl⟩ := AddressArrayUtils.remove_eq_ok removed
  exact mirrors.remove (List.Perm.refl _)

/-- The loop over an array without duplicates enables what the array lists. -/
theorem enable_mirrors (items : List Address) :
    ∀ enabled flags, Mirrors enabled flags → (enabled ++ items).Nodup →
      items.foldlM enable flags = .ok after → Mirrors (enabled ++ items) after := by
  induction items with
  | nil =>
    intro enabled flags mirrors _ returned
    rw [List.foldlM_nil, pure_eq_ok] at returned
    rw [List.append_nil]
    exact returned ▸ mirrors
  | cons item rest inductionHypothesis =>
    intro enabled flags mirrors nodup returned
    simp only [List.foldlM_cons, enable, bind_eq_ok, require_eq_ok, exists_const,
      pure_eq_ok] at returned
    obtain ⟨_, ⟨_, rfl⟩, remaining⟩ := returned
    have fresh : item ∉ enabled := fun member =>
      (List.nodup_append.mp nodup).2.2 item member item List.mem_cons_self rfl
    rw [List.append_cons] at nodup ⊢
    exact inductionHypothesis _ _ (mirrors.push fresh) nodup remaining

theorem enableResource_registered (entries : List (Address × Nat)) :
    ∀ enabled flags ids, RegisteredResources enabled flags ids →
      (enabled ++ entries.map Prod.fst).Nodup → ∀ final,
        entries.foldlM enableResource (flags, ids) = .ok final →
          RegisteredResources (enabled ++ entries.map Prod.fst) final.1 final.2 := by
  induction entries with
  | nil =>
    intro enabled flags ids registered _ final returned
    obtain rfl := (pure_eq_ok _ _).mp returned
    rw [List.map_nil, List.append_nil]
    exact registered
  | cons entry rest inductionHypothesis =>
    intro enabled flags ids registered nodup final returned
    simp only [List.foldlM_cons, enableResource, bind_eq_ok, require_eq_ok, exists_const,
      pure_eq_ok] at returned
    obtain ⟨_, ⟨nonzero, free, rfl⟩, remaining⟩ := returned
    rw [List.map_cons] at nodup ⊢
    have fresh : entry.1 ∉ enabled := fun member =>
      (List.nodup_append.mp nodup).2.2 entry.1 member entry.1 List.mem_cons_self rfl
    rw [List.append_cons] at nodup ⊢
    exact inductionHypothesis _ _ _ (registered.push nonzero fresh free) nodup final remaining

/-! ### What a call can do -/

/-- Until it is initialized the registry is as constructed. -/
def Untouched (registry : ControllerRegistry) : Prop :=
  registry.isInitialized = false → registry = construct registry.owner registry.feeRecipient

theorem onlyInitialized_eq_ok {done : Unit} :
    registry.onlyInitialized = .ok done ↔ registry.isInitialized = true := by
  unfold onlyInitialized
  exact require_eq_ok _ _ _

theorem addSet_eq_ok {setToken : Address}
    (returned : registry.addSet msgSender setToken = .ok next) :
    registry.isInitialized = true ∧ registry.isSet setToken = false ∧
      next = { registry with
        isSet := Function.update registry.isSet setToken true
        sets := registry.sets ++ [setToken] } := by
  simp only [addSet, Controller.addSet, bind_eq_ok, require_eq_ok, exists_const, pure_eq_ok]
    at returned
  obtain ⟨_, ⟨initialized, _, unset, rfl⟩, rfl⟩ := returned
  exact ⟨initialized, unset, rfl⟩

/-- A call that returns leaves the registry initialized. -/
theorem apply_initialized (call : Address × RegistryCall)
    (returned : registry.apply call = .ok next) : next.isInitialized = true := by
  obtain ⟨msgSender, call⟩ := call
  cases call with
  | initializeRegistry factories modules resources resourceIds =>
    simp only [apply, initializeRegistry, bind_eq_ok, pure_eq_ok] at returned
    obtain ⟨_, _, _, _, _, _, _, _, _, _, _, _, rfl⟩ := returned
    rfl
  | addSet setToken =>
    obtain ⟨initialized, _, rfl⟩ := addSet_eq_ok returned
    exact initialized
  | removeSet setToken | addFactory setToken | removeFactory setToken | addModule setToken
  | removeModule setToken =>
    simp only [apply, removeSet, addFactory, removeFactory, addModule, removeModule, bind_eq_ok,
      pure_eq_ok, onlyInitialized_eq_ok, exists_const] at returned
    obtain ⟨initialized, _, _, _, _, rfl⟩ := returned
    exact initialized
  | addResource resource id =>
    simp only [apply, addResource, bind_eq_ok, pure_eq_ok, onlyInitialized_eq_ok,
      exists_const] at returned
    obtain ⟨initialized, _, _, _, _, _, _, rfl⟩ := returned
    exact initialized
  | removeResource id =>
    simp only [apply, removeResource, bind_eq_ok, pure_eq_ok, onlyInitialized_eq_ok,
      exists_const] at returned
    obtain ⟨initialized, _, _, _, _, _, _, rfl⟩ := returned
    exact initialized

/-- The initializer leaves consistent lists exactly when its arrays have no duplicates. -/
theorem initializeRegistry_consistent {factories modules resources : List Address}
    {resourceIds : List Nat} (untouched : registry.Untouched)
    (returned : registry.initializeRegistry msgSender factories modules resources resourceIds =
      .ok next) :
    ConsistentRegistry next ↔ factories.Nodup ∧ modules.Nodup ∧ resources.Nodup := by
  simp only [initializeRegistry, bind_eq_ok, require_eq_ok, exists_const, pure_eq_ok] at returned
  obtain ⟨_, _, uninitialized, lengths, isFactory, factoryLoop, isModule, moduleLoop,
    resourceInfo, resourceLoop, rfl⟩ := returned
  rw [untouched uninitialized] at factoryLoop moduleLoop resourceLoop
  have firsts : (resources.zip resourceIds).map Prod.fst = resources :=
    List.map_fst_zip lengths.le
  constructor
  · intro consistent
    exact ⟨consistent.factories.nodup, consistent.modules.nodup,
      consistent.resources.listed.nodup⟩
  · rintro ⟨factoriesNodup, modulesNodup, resourcesNodup⟩
    have registered := enableResource_registered _ [] _ _ .empty
      (by rw [firsts]; exact resourcesNodup) _ resourceLoop
    rw [firsts] at registered
    refine ⟨?_, enable_mirrors _ [] _ .empty factoriesNodup factoryLoop,
      enable_mirrors _ [] _ .empty modulesNodup moduleLoop, registered⟩
    rw [untouched uninitialized]
    exact .empty

/-- A new resource leaves consistent lists exactly when it is not the zero address. -/
theorem addResource_consistent {resource : Address} {id : Nat}
    (consistent : ConsistentRegistry registry)
    (returned : registry.addResource msgSender resource id = .ok next) :
    ConsistentRegistry next ↔ resource ≠ 0 := by
  simp only [addResource, bind_eq_ok, require_eq_ok, exists_const, pure_eq_ok] at returned
  obtain ⟨_, _, _, _, unset, free, rfl⟩ := returned
  constructor
  · rintro ⟨_, _, _, registered⟩ rfl
    have found : Function.update registry.resourceId id 0 id = 0 := Function.update_self _ _ _
    have listed : (0 : Address) ∈ registry.resources ++ [0] :=
      List.mem_append_right _ (List.mem_singleton.mpr rfl)
    exact (registered.resourceId_ne_zero_iff id).mpr (by simpa only [found] using listed) found
  · intro nonzero
    exact ⟨consistent.sets, consistent.factories, consistent.modules,
      consistent.resources.push nonzero
        ((consistent.resources.listed.notMem_iff resource).mpr unset) free⟩

end ControllerRegistry

/-- The arrays of the initializer have no duplicates, and no resource is the zero address. -/
def RegistryCall.Distinct : RegistryCall → Prop
  | .initializeRegistry factories modules resources _ =>
    factories.Nodup ∧ modules.Nodup ∧ resources.Nodup
  | .addResource resource _ => resource ≠ 0
  | _ => True

namespace ConsistentRegistry

open ControllerRegistry

variable {registry next : ControllerRegistry} {msgSender : Address}

theorem construct (owner feeRecipient : Address) :
    ConsistentRegistry (ControllerRegistry.construct owner feeRecipient) :=
  ⟨.empty, .empty, .empty, .empty⟩

/-- A call that returns keeps the lists consistent exactly when its arguments are distinct. -/
theorem apply_iff (untouched : registry.Untouched) (consistent : ConsistentRegistry registry)
    (call : Address × RegistryCall) (returned : registry.apply call = .ok next) :
    ConsistentRegistry next ↔ call.2.Distinct := by
  obtain ⟨msgSender, call⟩ := call
  cases call with
  | initializeRegistry factories modules resources resourceIds =>
    exact initializeRegistry_consistent untouched returned
  | addResource resource id => exact addResource_consistent consistent returned
  | addSet setToken =>
    obtain ⟨_, unset, rfl⟩ := addSet_eq_ok returned
    exact iff_of_true { consistent with
      sets := consistent.sets.push ((consistent.sets.notMem_iff setToken).mpr unset) } trivial
  | removeSet setToken =>
    simp only [apply, removeSet, bind_eq_ok, pure_eq_ok] at returned
    obtain ⟨_, _, _, _, edited, removed, rfl⟩ := returned
    exact iff_of_true { consistent with sets := remove_mirrors consistent.sets removed } trivial
  | addFactory factory =>
    simp only [apply, addFactory, bind_eq_ok, pure_eq_ok] at returned
    obtain ⟨_, _, _, _, edited, added, rfl⟩ := returned
    exact iff_of_true { consistent with
      factories := add_mirrors consistent.factories added } trivial
  | removeFactory factory =>
    simp only [apply, removeFactory, bind_eq_ok, pure_eq_ok] at returned
    obtain ⟨_, _, _, _, edited, removed, rfl⟩ := returned
    exact iff_of_true { consistent with
      factories := remove_mirrors consistent.factories removed } trivial
  | addModule module =>
    simp only [apply, addModule, bind_eq_ok, pure_eq_ok] at returned
    obtain ⟨_, _, _, _, edited, added, rfl⟩ := returned
    exact iff_of_true { consistent with modules := add_mirrors consistent.modules added } trivial
  | removeModule module =>
    simp only [apply, ControllerRegistry.removeModule, bind_eq_ok, pure_eq_ok] at returned
    obtain ⟨_, _, _, _, edited, removed, rfl⟩ := returned
    exact iff_of_true { consistent with
      modules := remove_mirrors consistent.modules removed } trivial
  | removeResource id =>
    simp only [apply, removeResource, bind_eq_ok, require_eq_ok, exists_const, pure_eq_ok]
      at returned
    obtain ⟨_, _, _, _, nonzero, resources, removed, rfl⟩ := returned
    obtain ⟨_, rfl⟩ := AddressArrayUtils.remove_eq_ok removed
    exact iff_of_true { consistent with
      resources := consistent.resources.remove nonzero (List.Perm.refl _) } trivial

end ConsistentRegistry

/-! ### Runs of the registry -/

/-- Over any sequence of calls to a new controller, its lists, flags and ids agree in every
state reached exactly when no initialization that returned was given an array with duplicates
and no zero address was added as a resource. -/
theorem registry_consistent_iff (owner feeRecipient : Address)
    (calls : List (Address × RegistryCall)) :
    let start := ControllerRegistry.construct owner feeRecipient
    (∀ front, front <+: calls → ConsistentRegistry (run ControllerRegistry.apply start front)) ↔
      ∀ front call next, front ++ [call] <+: calls →
        (run ControllerRegistry.apply start front).apply call = .ok next → call.2.Distinct :=
  run_keeps_iff ControllerRegistry.apply ControllerRegistry.Untouched ConsistentRegistry
    (fun _ call => call.2.Distinct)
    (fun _ call _ _ returned uninitialized =>
      have initialized := ControllerRegistry.apply_initialized call returned
      absurd (initialized.symm.trans uninitialized) Bool.noConfusion)
    (fun _ call _ untouched consistent returned =>
      ConsistentRegistry.apply_iff untouched consistent call returned)
    (fun _ => rfl) (ConsistentRegistry.construct owner feeRecipient) calls

/-- A factory that is listed twice by the initializer stays listed after its removal. -/
theorem registry_inconsistent :
    ¬∀ (owner feeRecipient : Address) (calls : List (Address × RegistryCall)),
      ConsistentRegistry (run ControllerRegistry.apply
        (ControllerRegistry.construct owner feeRecipient) calls) := by
  intro claim
  have consistent := claim 1 2
    [(1, .initializeRegistry [3, 3] [] [] []), (1, .removeFactory 3)]
  have listed : (3 : Address) ∈ (run ControllerRegistry.apply
      (ControllerRegistry.construct 1 2)
      [(1, .initializeRegistry [3, 3] [] [] []), (1, .removeFactory 3)]).factories := by
    decide
  exact absurd ((consistent.factories.mem_iff 3).mp listed) (by decide)

end IndexProtocol

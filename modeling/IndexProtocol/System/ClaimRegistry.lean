/-
This file proves that the claim module's registry is consistent in every state:
the pools mirror their flags, the adapters of every pool mirror theirs, and a
pool is listed exactly while it has an adapter. The Set, its manager and the
integration registry may be anything at each call. Removing the module clears
both levels, because the lists it walks reach every flag that is set.
-/

import IndexProtocol.Modules.ClaimModule

namespace IndexProtocol

open Revert Registry

/-- A call of one of the module's external functions. -/
inductive ClaimCall
  | initializeSet (anyoneClaim : Bool) (rewardPools : List Address)
      (integrationNames : List String)
  | addClaim (rewardPool : Address) (integrationName : String)
  | batchAddClaim (rewardPools : List Address) (integrationNames : List String)
  | removeClaim (rewardPool : Address) (integrationName : String)
  | batchRemoveClaim (rewardPools : List Address) (integrationNames : List String)
  | updateAnyoneClaim (anyoneClaim : Bool)
  | removeModule

/-- A call with its sender, and the registry and the Set as it finds them. -/
structure ClaimTransaction where
  msgSender : Address
  registry : IntegrationRegistry
  world : World
  call : ClaimCall

namespace ClaimModule

def apply (module : ClaimModule) (transaction : ClaimTransaction) : Outcome ClaimModule :=
  let ⟨msgSender, registry, world, call⟩ := transaction
  match call with
  | .initializeSet anyoneClaim rewardPools integrationNames => do
    let (initialized, _) ← module.initializeSet msgSender registry anyoneClaim rewardPools
      integrationNames world
    pure initialized
  | .addClaim rewardPool integrationName =>
    module.addClaim msgSender registry rewardPool integrationName world
  | .batchAddClaim rewardPools integrationNames =>
    module.batchAddClaim msgSender registry rewardPools integrationNames world
  | .removeClaim rewardPool integrationName =>
    module.removeClaim msgSender registry rewardPool integrationName world
  | .batchRemoveClaim rewardPools integrationNames =>
    module.batchRemoveClaim msgSender registry rewardPools integrationNames world
  | .updateAnyoneClaim anyoneClaim => module.updateAnyoneClaim msgSender anyoneClaim world
  | .removeModule => pure module.removeModule

/-- The adapters of every pool mirror their flags. -/
def SettingsListed (module : ClaimModule) : Prop :=
  ∀ rewardPool, Mirrors (module.claimSettings rewardPool) (module.claimSettingsStatus rewardPool)

/-- Both levels mirror their flags, and the pools are those with an adapter. -/
structure Consistent (module : ClaimModule) : Prop where
  pools : Mirrors module.rewardPoolList module.rewardPoolStatus
  settings : module.SettingsListed
  nonempty_iff : ∀ rewardPool, module.rewardPoolStatus rewardPool = true ↔
    module.claimSettings rewardPool ≠ []

variable {module next : ClaimModule} {registry : IntegrationRegistry}

/-- Writing the list and the flags of one pool. -/
theorem SettingsListed.update (listed : module.SettingsListed) (rewardPool : Address)
    {adapters : List Address} {flags : Address → Bool} (mirrors : Mirrors adapters flags) :
    SettingsListed { module with
      claimSettings := Function.update module.claimSettings rewardPool adapters
      claimSettingsStatus := Function.update module.claimSettingsStatus rewardPool flags } := by
  intro other
  show Mirrors (Function.update module.claimSettings rewardPool adapters other)
    (Function.update module.claimSettingsStatus rewardPool flags other)
  rcases eq_or_ne other rewardPool with rfl | different
  · rw [Function.update_self, Function.update_self]
    exact mirrors
  · rw [Function.update_of_ne different, Function.update_of_ne different]
    exact listed other

/-- Writing the adapters of one pool and the flag that says whether there are any. -/
theorem nonempty_iff_update {status : Address → Bool} {settings : Address → List Address}
    (nonempty : ∀ rewardPool, status rewardPool = true ↔ settings rewardPool ≠ [])
    (rewardPool : Address) {flag : Bool} {adapters : List Address}
    (written : flag = true ↔ adapters ≠ []) (other : Address) :
    Function.update status rewardPool flag other = true ↔
      Function.update settings rewardPool adapters other ≠ [] := by
  rcases eq_or_ne other rewardPool with rfl | different
  · rw [Function.update_self, Function.update_self]
    exact written
  · rw [Function.update_of_ne different, Function.update_of_ne different]
    exact nonempty other

theorem Consistent.addClaimInternal (consistent : module.Consistent)
    {entry : Address × String} (returned : addClaimInternal registry module entry = .ok next) :
    next.Consistent := by
  obtain ⟨rewardPool, integrationName⟩ := entry
  simp only [ClaimModule.addClaimInternal, bind_eq_ok, require_eq_ok, exists_const] at returned
  obtain ⟨adapter, _, unset, returned⟩ := returned
  have settings := consistent.settings.update rewardPool
    ((consistent.settings rewardPool).push
      (((consistent.settings rewardPool).notMem_iff adapter).mpr unset))
  split at returned
  · rename_i fresh
    obtain rfl := (pure_eq_ok _ _).mp returned
    exact ⟨consistent.pools.push ((consistent.pools.notMem_iff rewardPool).mpr fresh), settings,
      nonempty_iff_update consistent.nonempty_iff rewardPool (iff_of_true rfl (by simp))⟩
  · rename_i listed
    obtain rfl := (pure_eq_ok _ _).mp returned
    have nonempty := nonempty_iff_update consistent.nonempty_iff rewardPool
      (iff_of_true (Bool.of_not_eq_false listed) (List.append_ne_nil_of_right_ne_nil
        (module.claimSettings rewardPool) (List.cons_ne_nil adapter [])))
    rw [Function.update_eq_self] at nonempty
    exact ⟨consistent.pools, settings, nonempty⟩

theorem Consistent.removeClaimInternal (consistent : module.Consistent)
    {entry : Address × String}
    (returned : removeClaimInternal registry module entry = .ok next) : next.Consistent := by
  obtain ⟨rewardPool, integrationName⟩ := entry
  simp only [ClaimModule.removeClaimInternal, bind_eq_ok, require_eq_ok, exists_const] at returned
  obtain ⟨adapter, _, set, adapters, erased, returned⟩ := returned
  obtain ⟨member, erased⟩ := AddressArrayUtils.removeStorage_eq_ok erased
  have settings := consistent.settings.update rewardPool
    ((consistent.settings rewardPool).remove erased)
  split at returned
  · rename_i last
    simp only [bind_eq_ok, pure_eq_ok] at returned
    obtain ⟨rewardPoolList, removed, rfl⟩ := returned
    obtain ⟨_, removed⟩ := AddressArrayUtils.removeStorage_eq_ok removed
    exact ⟨consistent.pools.remove removed, settings,
      nonempty_iff_update consistent.nonempty_iff rewardPool
        (iff_of_false Bool.false_ne_true (not_not.mpr (List.length_eq_zero_iff.mp last)))⟩
  · rename_i more
    obtain rfl := (pure_eq_ok _ _).mp returned
    have listed := (consistent.nonempty_iff rewardPool).mpr (List.ne_nil_of_mem member)
    have nonempty := nonempty_iff_update consistent.nonempty_iff rewardPool
      (iff_of_true listed fun empty => more (List.length_eq_zero_iff.mpr empty))
    rw [Function.update_eq_self] at nonempty
    exact ⟨consistent.pools, settings, nonempty⟩

theorem Consistent.batchAddClaimInternal (consistent : module.Consistent)
    {rewardPools : List Address} {integrationNames : List String}
    (returned : batchAddClaimInternal registry rewardPools integrationNames module = .ok next) :
    next.Consistent := by
  simp only [ClaimModule.batchAddClaimInternal, bind_eq_ok] at returned
  obtain ⟨_, _, returned⟩ := returned
  exact foldlM_invariant _ Consistent _
    (fun _ _ _ _ before added => before.addClaimInternal added) _ _ consistent returned

/-! ### Removing the module -/

/-- Clearing pools keeps what is clear and clears every one of them. -/
theorem foldl_clearPool (pools : List Address) :
    ∀ module : ClaimModule, module.SettingsListed →
      (pools.foldl clearPool module).SettingsListed ∧
        ∀ rewardPool, rewardPool ∈ pools ∨ module.claimSettings rewardPool = [] →
          (pools.foldl clearPool module).claimSettings rewardPool = [] := by
  induction pools with
  | nil =>
    intro module listed
    exact ⟨listed, fun _ clear => clear.resolve_left List.not_mem_nil⟩
  | cons first rest inductionHypothesis =>
    intro module listed
    have cleared : (module.clearPool first).SettingsListed := by
      refine listed.update first ?_
      rw [Mirrors.clear (listed first)]
      exact Mirrors.empty
    obtain ⟨restListed, restClear⟩ := inductionHypothesis _ cleared
    refine ⟨restListed, fun rewardPool clear => restClear rewardPool ?_⟩
    rcases eq_or_ne rewardPool first with rfl | different
    · exact Or.inr (Function.update_self _ _ _)
    · refine clear.imp (fun member => (List.mem_cons.mp member).resolve_left different) ?_
      intro empty
      exact (Function.update_of_ne different _ _).trans empty

/-- The registry of a removed module is empty, in its lists and in its flags. -/
structure Cleared (module : ClaimModule) : Prop where
  rewardPoolList : module.rewardPoolList = []
  rewardPoolStatus : ∀ rewardPool, module.rewardPoolStatus rewardPool = false
  claimSettings : ∀ rewardPool, module.claimSettings rewardPool = []
  claimSettingsStatus : ∀ rewardPool adapter,
    module.claimSettingsStatus rewardPool adapter = false

theorem Consistent.removeModule (consistent : module.Consistent) : module.removeModule.Cleared := by
  obtain ⟨listed, clear⟩ := foldl_clearPool module.rewardPoolList module consistent.settings
  have settings : ∀ rewardPool, module.removeModule.claimSettings rewardPool = [] := by
    refine fun rewardPool => clear rewardPool ?_
    rw [consistent.pools.mem_iff, consistent.nonempty_iff]
    exact (em _).symm
  refine ⟨rfl, fun rewardPool => ?_, settings, fun rewardPool adapter => ?_⟩
  · exact congrFun (Mirrors.clear consistent.pools) rewardPool
  · have absent : adapter ∉ module.removeModule.claimSettings rewardPool := by
      rw [settings]
      exact List.not_mem_nil
    exact ((listed rewardPool).notMem_iff adapter).mp absent

theorem Cleared.consistent (cleared : module.Cleared) : module.Consistent := by
  refine ⟨?_, fun rewardPool => ?_, fun rewardPool => ?_⟩
  · rw [cleared.rewardPoolList, funext cleared.rewardPoolStatus]
    exact Mirrors.empty
  · rw [cleared.claimSettings, funext (cleared.claimSettingsStatus rewardPool)]
    exact Mirrors.empty
  · rw [cleared.rewardPoolStatus, cleared.claimSettings]
    exact iff_of_false Bool.false_ne_true (not_not.mpr rfl)

/-! ### Runs of the module -/

theorem Consistent.apply (consistent : module.Consistent) (transaction : ClaimTransaction)
    (returned : module.apply transaction = .ok next) : next.Consistent := by
  obtain ⟨msgSender, registry, world, call⟩ := transaction
  cases call with
  | initializeSet anyoneClaim rewardPools integrationNames =>
    simp only [ClaimModule.apply, ClaimModule.initializeSet, bind_eq_ok, pure_eq_ok,
      Prod.exists, Prod.mk.injEq] at returned
    obtain ⟨_, _, ⟨_, _, _, _, added, adding, _, _, rfl, _⟩, rfl⟩ := returned
    obtain ⟨pools, settings, nonempty⟩ := consistent.batchAddClaimInternal adding
    exact ⟨pools, settings, nonempty⟩
  | addClaim rewardPool integrationName =>
    simp only [ClaimModule.apply, ClaimModule.addClaim, bind_eq_ok] at returned
    obtain ⟨_, _, added⟩ := returned
    exact consistent.addClaimInternal added
  | batchAddClaim rewardPools integrationNames =>
    simp only [ClaimModule.apply, ClaimModule.batchAddClaim, bind_eq_ok] at returned
    obtain ⟨_, _, added⟩ := returned
    exact consistent.batchAddClaimInternal added
  | removeClaim rewardPool integrationName =>
    simp only [ClaimModule.apply, ClaimModule.removeClaim, bind_eq_ok] at returned
    obtain ⟨_, _, removed⟩ := returned
    exact consistent.removeClaimInternal removed
  | batchRemoveClaim rewardPools integrationNames =>
    simp only [ClaimModule.apply, ClaimModule.batchRemoveClaim, bind_eq_ok] at returned
    obtain ⟨_, _, _, _, removed⟩ := returned
    exact foldlM_invariant _ Consistent _
      (fun _ _ _ _ before removed => before.removeClaimInternal removed) _ _ consistent removed
  | updateAnyoneClaim anyoneClaim =>
    simp only [ClaimModule.apply, ClaimModule.updateAnyoneClaim, bind_eq_ok, pure_eq_ok] at returned
    obtain ⟨_, _, rfl⟩ := returned
    exact ⟨consistent.pools, consistent.settings, consistent.nonempty_iff⟩
  | removeModule =>
    obtain rfl := (pure_eq_ok _ _).mp returned
    exact consistent.removeModule.consistent

/-- In every state that a run of calls reaches, whatever the Set and the integration registry
are at each call: a pool is listed exactly while its flag is set and exactly while it has
adapters, an adapter is listed under a pool exactly while its flag is set, no list has
duplicates, and removing the module empties every list and clears every flag. -/
theorem claim_registry_consistent (address : Address) (transactions : List ClaimTransaction) :
    let reached := run ClaimModule.apply (deployed address) transactions
    (∀ rewardPool, (rewardPool ∈ reached.rewardPoolList ↔
        reached.rewardPoolStatus rewardPool = true) ∧
      (reached.rewardPoolStatus rewardPool = true ↔ reached.claimSettings rewardPool ≠ [])) ∧
    (∀ rewardPool adapter, adapter ∈ reached.claimSettings rewardPool ↔
      reached.claimSettingsStatus rewardPool adapter = true) ∧
    reached.rewardPoolList.Nodup ∧ (∀ rewardPool, (reached.claimSettings rewardPool).Nodup) ∧
    reached.removeModule.Cleared := by
  intro reached
  have empty : (deployed address).Cleared := ⟨rfl, fun _ => rfl, fun _ => rfl, fun _ _ => rfl⟩
  have consistent : reached.Consistent :=
    run_invariant ClaimModule.apply Consistent (fun _ => True)
      (fun _ transaction _ _ before returned => before.apply transaction returned) transactions
      (fun _ _ => trivial) _ empty.consistent
  exact ⟨fun rewardPool =>
      ⟨consistent.pools.mem_iff rewardPool, consistent.nonempty_iff rewardPool⟩,
    fun rewardPool => (consistent.settings rewardPool).mem_iff, consistent.pools.nodup,
    fun rewardPool => (consistent.settings rewardPool).nodup, consistent.removeModule⟩

end ClaimModule

end IndexProtocol

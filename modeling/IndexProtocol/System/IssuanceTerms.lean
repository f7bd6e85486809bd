/-
This file proves what the terms of the debt issuance module promise its users.
Its initialization fixes the hook of the manager and the ceiling of the fees;
until the module is removed no call of anybody changes these, the fees stay
below the ceiling, and the modules that asked to be called before an order are
listed once each. So whatever the manager does, the fee of an order is at most
the ceiling's share of it. A module that is still registered keeps the issuance
module from being removed.
-/

import IndexProtocol.Modules.DebtIssuanceCalls
import IndexProtocol.Protocol.ModuleLifecycle

namespace IndexProtocol

open Revert PreciseUnitMath Registry

namespace DebtIssuanceModule

/-- The functions that write the module's storage. The orders leave it as it is: for it they are
changes elsewhere. -/
inductive SettingsCall
  | initializeSet (maxManagerFee managerIssueFee managerRedeemFee : Nat)
      (feeRecipient managerIssuanceHook : Address)
  | updateIssueFee (newIssueFee : Nat)
  | updateRedeemFee (newRedeemFee : Nat)
  | updateFeeRecipient (newFeeRecipient : Address)
  | registerToIssuanceModule
  | unregisterFromIssuanceModule

def settingsCode (address : Address) : ModuleCode DebtIssuanceModule SettingsCall where
  address := address
  call := fun msgSender call module world =>
    match call with
    | .initializeSet maxManagerFee managerIssueFee managerRedeemFee feeRecipient hook =>
      initializeSet module.address msgSender maxManagerFee managerIssueFee managerRedeemFee
        feeRecipient hook module.isModuleHook world
    | .updateIssueFee newIssueFee => do
      let updated ← module.updateIssueFee msgSender newIssueFee world
      pure (updated, world)
    | .updateRedeemFee newRedeemFee => do
      let updated ← module.updateRedeemFee msgSender newRedeemFee world
      pure (updated, world)
    | .updateFeeRecipient newFeeRecipient => do
      let updated ← module.updateFeeRecipient msgSender newFeeRecipient world
      pure (updated, world)
    | .registerToIssuanceModule => do
      let registered ← module.registerToIssuanceModule msgSender world
      pure (registered, world)
    | .unregisterFromIssuanceModule => do
      let unregistered ← module.unregisterFromIssuanceModule msgSender world
      pure (unregistered, world)
  removeModule := removeModule

/-- The storage of a module that is part of the Set. -/
structure Settled (address : Address) (module : DebtIssuanceModule) : Prop where
  address : module.address = address
  issueFee : module.managerIssueFee ≤ module.maxManagerFee
  redeemFee : module.managerRedeemFee ≤ module.maxManagerFee
  hooks : Mirrors module.moduleIssuanceHooks module.isModuleHook

/-- What only a removal of the module changes. -/
structure SameTerms (module next : DebtIssuanceModule) : Prop where
  maxManagerFee : next.maxManagerFee = module.maxManagerFee
  managerIssuanceHook : next.managerIssuanceHook = module.managerIssuanceHook

theorem SameTerms.refl (module : DebtIssuanceModule) : SameTerms module module := ⟨rfl, rfl⟩

theorem SameTerms.trans {first second third : DebtIssuanceModule}
    (before : SameTerms first second) (after : SameTerms second third) : SameTerms first third where
  maxManagerFee := after.maxManagerFee.trans before.maxManagerFee
  managerIssuanceHook := after.managerIssuanceHook.trans before.managerIssuanceHook

variable {address msgSender : Address} {module next : DebtIssuanceModule} {world after : World}

/-- From blank storage, the initialization settles the terms and makes the pending module part of
the Set. -/
theorem initializeSet_settled {maxManagerFee managerIssueFee managerRedeemFee : Nat}
    {feeRecipient hook : Address} {isModuleHook : Address → Bool}
    (returned : initializeSet address msgSender maxManagerFee managerIssueFee managerRedeemFee
      feeRecipient hook isModuleHook world = .ok (next, after)) :
    world.setToken.moduleStates address = .pending ∧
      after.setToken.moduleStates address = .initialized ∧
      (isModuleHook = (fun _ => false) → Settled address next) := by
  simp only [initializeSet, bind_eq_ok, require_eq_ok, exists_const, pure_eq_ok,
    Prod.mk.injEq] at returned
  obtain ⟨_, _, _, _, issueFee, redeemFee, _, initializing, rfl, rfl⟩ := returned
  obtain ⟨_, pending, written⟩ := World.callSetToken_initializeModule_eq_ok initializing
  refine ⟨pending, ?_, ?_⟩
  · rw [written]
    exact Function.update_self _ _ _
  · rintro rfl
    exact ⟨rfl, issueFee, redeemFee, .empty⟩

/-- What a later call does: it finds the module as part of the Set, keeps its storage settled and
leaves the terms. -/
structure Updated (module next : DebtIssuanceModule) (world : World) : Prop where
  active : world.setToken.moduleStates module.address = .initialized
  settled : ∀ {address}, Settled address module → Settled address next
  terms : SameTerms module next

theorem updateIssueFee_updated {newIssueFee : Nat}
    (returned : module.updateIssueFee msgSender newIssueFee world = .ok next) :
    Updated module next world := by
  simp only [updateIssueFee, bind_eq_ok, require_eq_ok, exists_const, pure_eq_ok] at returned
  obtain ⟨_, valid, below, _, rfl⟩ := returned
  exact ⟨ModuleBase.active_of_valid valid,
    fun settled => ⟨settled.address, below, settled.redeemFee, settled.hooks⟩, ⟨rfl, rfl⟩⟩

theorem updateRedeemFee_updated {newRedeemFee : Nat}
    (returned : module.updateRedeemFee msgSender newRedeemFee world = .ok next) :
    Updated module next world := by
  simp only [updateRedeemFee, bind_eq_ok, require_eq_ok, exists_const, pure_eq_ok] at returned
  obtain ⟨_, valid, below, _, rfl⟩ := returned
  exact ⟨ModuleBase.active_of_valid valid,
    fun settled => ⟨settled.address, settled.issueFee, below, settled.hooks⟩, ⟨rfl, rfl⟩⟩

theorem updateFeeRecipient_updated {newFeeRecipient : Address}
    (returned : module.updateFeeRecipient msgSender newFeeRecipient world = .ok next) :
    Updated module next world := by
  simp only [updateFeeRecipient, bind_eq_ok, require_eq_ok, exists_const, pure_eq_ok] at returned
  obtain ⟨_, valid, _, _, rfl⟩ := returned
  exact ⟨ModuleBase.active_of_valid valid, fun settled => ⟨settled.address, settled.issueFee,
    settled.redeemFee, settled.hooks⟩, ⟨rfl, rfl⟩⟩

theorem registerToIssuanceModule_updated
    (returned : module.registerToIssuanceModule msgSender world = .ok next) :
    Updated module next world := by
  simp only [registerToIssuanceModule, bind_eq_ok, require_eq_ok, exists_const, pure_eq_ok,
    ModuleBase.validateOnlyValidAndInitializedSet_eq_ok] at returned
  obtain ⟨_, _, ⟨_, active⟩, fresh, rfl⟩ := returned
  refine ⟨active, fun settled => ⟨settled.address, settled.issueFee, settled.redeemFee, ?_⟩,
    ⟨rfl, rfl⟩⟩
  exact settled.hooks.push ((settled.hooks.notMem_iff msgSender).mpr fresh)

theorem unregisterFromIssuanceModule_updated
    (returned : module.unregisterFromIssuanceModule msgSender world = .ok next) :
    Updated module next world := by
  simp only [unregisterFromIssuanceModule, bind_eq_ok, require_eq_ok, exists_const, pure_eq_ok,
    ModuleBase.validateOnlyValidAndInitializedSet_eq_ok] at returned
  obtain ⟨_, _, ⟨_, active⟩, _, hooks, removed, rfl⟩ := returned
  refine ⟨active, fun settled => ⟨settled.address, settled.issueFee, settled.redeemFee, ?_⟩,
    ⟨rfl, rfl⟩⟩
  exact settled.hooks.remove (AddressArrayUtils.removeStorage_eq_ok removed).2

/-- A call of the module initializes it, or updates its storage and leaves the world. -/
theorem settingsCode_call {call : SettingsCall}
    (returned : (settingsCode address).call msgSender call module world = .ok (next, after)) :
    (∃ maxManagerFee issueFee redeemFee feeRecipient hook,
      initializeSet module.address msgSender maxManagerFee issueFee redeemFee feeRecipient hook
        module.isModuleHook world = .ok (next, after)) ∨
      Updated module next world ∧ after = world := by
  cases call with
  | initializeSet maxManagerFee issueFee redeemFee feeRecipient hook =>
    exact .inl ⟨maxManagerFee, issueFee, redeemFee, feeRecipient, hook, returned⟩
  | updateIssueFee newIssueFee =>
    simp only [settingsCode, bind_eq_ok, pure_eq_ok, Prod.mk.injEq] at returned
    obtain ⟨_, updated, rfl, rfl⟩ := returned
    exact .inr ⟨updateIssueFee_updated updated, rfl⟩
  | updateRedeemFee newRedeemFee =>
    simp only [settingsCode, bind_eq_ok, pure_eq_ok, Prod.mk.injEq] at returned
    obtain ⟨_, updated, rfl, rfl⟩ := returned
    exact .inr ⟨updateRedeemFee_updated updated, rfl⟩
  | updateFeeRecipient newFeeRecipient =>
    simp only [settingsCode, bind_eq_ok, pure_eq_ok, Prod.mk.injEq] at returned
    obtain ⟨_, updated, rfl, rfl⟩ := returned
    exact .inr ⟨updateFeeRecipient_updated updated, rfl⟩
  | registerToIssuanceModule =>
    simp only [settingsCode, bind_eq_ok, pure_eq_ok, Prod.mk.injEq] at returned
    obtain ⟨_, registered, rfl, rfl⟩ := returned
    exact .inr ⟨registerToIssuanceModule_updated registered, rfl⟩
  | unregisterFromIssuanceModule =>
    simp only [settingsCode, bind_eq_ok, pure_eq_ok, Prod.mk.injEq] at returned
    obtain ⟨_, unregistered, rfl, rfl⟩ := returned
    exact .inr ⟨unregisterFromIssuanceModule_updated unregistered, rfl⟩

/-- A removal finds no hooks, so their flags are clear and the storage is blank. -/
theorem Settled.removeModule (settled : Settled address module)
    (returned : module.removeModule = .ok next) :
    module.moduleIssuanceHooks = [] ∧ next = deployed address := by
  simp only [DebtIssuanceModule.removeModule, bind_eq_ok, require_eq_ok, exists_const,
    pure_eq_ok] at returned
  obtain ⟨empty, rfl⟩ := returned
  have none := List.length_eq_zero_iff.mp empty
  have flags : module.isModuleHook = fun _ => false := by
    funext hook
    rw [← settled.hooks.notMem_iff, none]
    exact List.not_mem_nil
  refine ⟨none, ?_⟩
  rw [flags, settled.address]
  rfl

/-- The module keeps its storage settled, and its terms until it is removed. -/
theorem settingsCode_orderly (address : Address) :
    (settingsCode address).Orderly (Settled address) (fun module => module = deployed address)
      SameTerms where
  edits := by
    intro msgSender call module world next after active settled returned
    rcases settingsCode_call returned with ⟨_, _, _, _, _, initializing⟩ | ⟨updated, rfl⟩
    · obtain ⟨pending, _⟩ := initializeSet_settled initializing
      rw [settled.address] at pending
      exact absurd (active.symm.trans pending) (by decide)
    · exact ⟨active, updated.settled settled, updated.terms⟩
  initializes := by
    intro msgSender call module world next after inactive blank returned
    subst blank
    rcases settingsCode_call returned with ⟨_, _, _, _, _, initializing⟩ | ⟨updated, rfl⟩
    · obtain ⟨_, active, settles⟩ := initializeSet_settled initializing
      exact ⟨active, settles rfl⟩
    · exact absurd updated.active inactive
  removes := fun _ _ settled returned => (settled.removeModule returned).2

/-- A fee rate below a ceiling takes at most the ceiling's share. -/
theorem Settled.totalFee_le (settled : Settled address module) (isIssue : Bool) (quantity : Nat) :
    module.totalFee isIssue quantity ≤
      Rounding.mulFloor preciseUnit module.maxManagerFee quantity := by
  unfold totalFee
  refine Rounding.mulFloor_mono ?_ le_rfl
  cases isIssue with
  | true => exact settled.issueFee
  | false => exact settled.redeemFee

/-- From the deployment of the module on, whatever the manager, the modules and everybody else
do, its storage is blank while it is not part of the Set. While it is, and until it is removed,
the hook of the manager and the ceiling stay as they are, the fees keep below the ceiling, the
registered modules are listed once each, the fees of every order come to at most the ceiling's
share of it, on top of what is issued or out of what is redeemed, and no removal succeeds while a
module is registered. -/
theorem orders_keep_terms (address : Address) (world : World)
    (absent : ¬(settingsCode address).Active world)
    (earlier later : List (Address × LifecycleStep SettingsCall))
    (stays : ∀ step ∈ later, step.2 ≠ .removeModule) :
    let code := settingsCode address
    let reached := run code.operate ⟨world, deployed address⟩ earlier
    let final := run code.operate reached later
    let module := final.storage
    (¬code.Active reached.world → reached.storage = deployed address) ∧
    (code.Active reached.world →
      SameTerms reached.storage module ∧
      module.managerIssueFee ≤ reached.storage.maxManagerFee ∧
      module.managerRedeemFee ≤ reached.storage.maxManagerFee ∧
      Mirrors module.moduleIssuanceHooks module.isModuleHook ∧
      (∀ isIssue quantity ordering fees,
        module.calculateTotalFees quantity isIssue ordering = .ok fees →
          fees.managerFee + fees.protocolFee ≤
            Rounding.mulFloor preciseUnit reached.storage.maxManagerFee quantity ∧
          (isIssue = true → fees.totalQuantity = quantity + (fees.managerFee + fees.protocolFee)) ∧
          (isIssue = false →
            fees.totalQuantity + (fees.managerFee + fees.protocolFee) = quantity)) ∧
      ∀ msgSender next, code.operate final (msgSender, .removeModule) = .ok next →
        ∀ hook, module.isModuleHook hook = false) := by
  intro code reached final module
  have orderly := settingsCode_orderly address
  have started : code.InOrder (Settled address) (fun module => module = deployed address)
      ⟨world, deployed address⟩ :=
    .absent absent rfl
  have reachedOrder := ModuleCode.run_inOrder orderly started earlier
  refine ⟨reachedOrder.inactive, fun active => ?_⟩
  obtain ⟨stillActive, sameTerms⟩ := ModuleCode.run_frame orderly .refl (fun _ _ _ => .trans)
    reachedOrder active later stays
  have settled : Settled address module :=
    (ModuleCode.run_inOrder orderly reachedOrder later).active stillActive
  refine ⟨sameTerms, ?_, ?_, settled.hooks, ?_, ?_⟩
  · exact settled.issueFee.trans_eq sameTerms.maxManagerFee
  · exact settled.redeemFee.trans_eq sameTerms.maxManagerFee
  · intro isIssue quantity ordering fees returned
    obtain ⟨_, sum, issued, redeemed⟩ := calculateTotalFees_eq_ok returned
    rw [sum]
    refine ⟨?_, ?_, ?_⟩
    · exact sameTerms.maxManagerFee ▸ settled.totalFee_le isIssue quantity
    · rintro rfl
      exact issued rfl
    · rintro rfl
      exact redeemed rfl
  · intro msgSender next returned hook
    cases ModuleCode.operate_effect returned with
    | removeModule _ removed =>
      rw [← settled.hooks.notMem_iff, (settled.removeModule removed).1]
      exact List.not_mem_nil

/-- A Set that the module at account 4 is not part of yet. -/
def sampleUnissued : World where
  timestamp := 0
  controller := { sampleController with isSet := fun account => account = 2 }
  setToken :=
    { SetToken.construct 2 [3] [10 ^ 18] [4] 5 with moduleStates := fun _ => .none }
  tokens := fun _ => { totalSupply := 0, balanceOf := fun _ => 0, allowance := fun _ _ => 0 }

/-- The manager agrees to at most two percent, and charges one. -/
def sampleFeeAgreement : List (Address × LifecycleStep SettingsCall) :=
  [(5, .addModule), (5, .call (.initializeSet (2 * 10 ^ 16) (10 ^ 16) (10 ^ 16) 5 0))]

/-- The manager fails to charge three percent and charges two. -/
def sampleFeeRaises : List (Address × LifecycleStep SettingsCall) :=
  [(5, .call (.updateIssueFee (3 * 10 ^ 16))), (5, .call (.updateIssueFee (2 * 10 ^ 16)))]

def sampleFeesRaised : Installation DebtIssuanceModule :=
  run (settingsCode 4).operate
    (run (settingsCode 4).operate ⟨sampleUnissued, deployed 4⟩ sampleFeeAgreement) sampleFeeRaises

/-- Issuing one Set token after the raise. -/
theorem orders_keep_terms_sample :
    ∃ fees, sampleFeesRaised.storage.calculateTotalFees (10 ^ 18) true sampleFeesRaised.world =
        .ok fees ∧
      fees.managerFee + fees.protocolFee ≤
        Rounding.mulFloor preciseUnit (2 * 10 ^ 16) (10 ^ 18) := by
  have succeeds : returns (sampleFeesRaised.storage.calculateTotalFees (10 ^ 18) true
      sampleFeesRaised.world) (fun _ => true) = true := by
    decide +kernel
  obtain ⟨fees, returned, _⟩ := exists_of_returns succeeds
  have agreed : (settingsCode 4).Active (run (settingsCode 4).operate
      ⟨sampleUnissued, deployed 4⟩ sampleFeeAgreement).world := by
    unfold ModuleCode.Active
    decide +kernel
  have stays : ∀ step ∈ sampleFeeRaises, step.2 ≠ .removeModule := by
    unfold sampleFeeRaises
    simp
  have kept := (orders_keep_terms 4 sampleUnissued (by unfold ModuleCode.Active; decide)
    sampleFeeAgreement sampleFeeRaises stays).2 agreed
  exact ⟨fees, returned,
    (kept.2.2.2.2.1 true (10 ^ 18) sampleFeesRaised.world fees returned).1⟩

end DebtIssuanceModule

end IndexProtocol

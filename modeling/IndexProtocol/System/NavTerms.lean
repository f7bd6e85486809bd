/-
This file proves what the terms of net asset value issuance promise the holders
of a Set. The initialization fixes the hooks, the valuer, the minimum supply and
the ceilings of fees and premium; until the module is removed no call of anybody
changes these, the fees and the premium stay below the ceilings, and the list of
reserve assets and their flags mirror each other. So whatever the manager does,
a redeemer is paid the worth of the redeemed tokens less at most the ceilings
and the direct fee of the protocol.
-/

import IndexProtocol.Modules.CustomOracleNAVSettings
import IndexProtocol.Protocol.ModuleLifecycle
import IndexProtocol.System.NavBacking

namespace IndexProtocol

open Revert PreciseUnitMath Registry

namespace CustomOracleNAVIssuanceModule

/-- The functions that write the module's storage. The calls that trade leave it as it is: for it
they are changes elsewhere. -/
inductive SettingsCall
  | initializeSet (settings : NAVIssuanceSettings)
  | addReserveAsset (reserveAsset : Address)
  | removeReserveAsset (reserveAsset : Address)
  | editPremium (premiumPercentage : Nat)
  | editManagerFee (managerFeePercentage managerFeeIndex : Nat)
  | editFeeRecipient (managerFeeRecipient : Address)

def settingsCode (address : Address) : ModuleCode CustomOracleNAVIssuanceModule SettingsCall where
  address := address
  call := fun msgSender call module world =>
    match call with
    | .initializeSet settings => module.initializeSet msgSender settings world
    | .addReserveAsset reserveAsset => do
      let edited ← module.addReserveAsset msgSender reserveAsset world
      pure (edited, world)
    | .removeReserveAsset reserveAsset => do
      let edited ← module.removeReserveAsset msgSender reserveAsset world
      pure (edited, world)
    | .editPremium premiumPercentage => do
      let edited ← module.editPremium msgSender premiumPercentage world
      pure (edited, world)
    | .editManagerFee managerFeePercentage managerFeeIndex => do
      let edited ← module.editManagerFee msgSender managerFeePercentage managerFeeIndex world
      pure (edited, world)
    | .editFeeRecipient managerFeeRecipient => do
      let edited ← module.editFeeRecipient msgSender managerFeeRecipient world
      pure (edited, world)
  removeModule := fun module => pure module.removeModule

/-- Settings that honour the ceilings. -/
structure WithinCeilings (settings : NAVIssuanceSettings) : Prop where
  managerFees : ∀ index, settings.managerFees index ≤ settings.maxManagerFee
  premium : settings.premiumPercentage ≤ settings.maxPremiumPercentage
  maxManagerFee : settings.maxManagerFee < preciseUnit
  maxPremium : settings.maxPremiumPercentage < preciseUnit
  feeRecipient : settings.feeRecipient ≠ 0
  minSetTokenSupply : 0 < settings.minSetTokenSupply

/-- The storage of a module that is part of the Set. -/
structure Settled (address weth : Address) (module : CustomOracleNAVIssuanceModule) : Prop where
  address : module.address = address
  weth : module.weth = weth
  settings : WithinCeilings module.navIssuanceSettings
  reserveAssets : Mirrors module.navIssuanceSettings.reserveAssets module.isReserveAsset

/-- What only a removal of the module changes. -/
structure SameTerms (settings next : NAVIssuanceSettings) : Prop where
  managerIssuanceHook : next.managerIssuanceHook = settings.managerIssuanceHook
  managerRedemptionHook : next.managerRedemptionHook = settings.managerRedemptionHook
  setValuer : next.setValuer = settings.setValuer
  maxManagerFee : next.maxManagerFee = settings.maxManagerFee
  maxPremium : next.maxPremiumPercentage = settings.maxPremiumPercentage
  minSetTokenSupply : next.minSetTokenSupply = settings.minSetTokenSupply

theorem SameTerms.refl (settings : NAVIssuanceSettings) : SameTerms settings settings :=
  ⟨rfl, rfl, rfl, rfl, rfl, rfl⟩

theorem SameTerms.trans {first second third : NAVIssuanceSettings}
    (before : SameTerms first second) (after : SameTerms second third) : SameTerms first third where
  managerIssuanceHook := after.managerIssuanceHook.trans before.managerIssuanceHook
  managerRedemptionHook := after.managerRedemptionHook.trans before.managerRedemptionHook
  setValuer := after.setValuer.trans before.setValuer
  maxManagerFee := after.maxManagerFee.trans before.maxManagerFee
  maxPremium := after.maxPremium.trans before.maxPremium
  minSetTokenSupply := after.minSetTokenSupply.trans before.minSetTokenSupply

variable {address weth msgSender : Address} {module next : CustomOracleNAVIssuanceModule}
  {world after : World}

theorem validateSettings_eq_ok {settings : NAVIssuanceSettings}
    (valid : validateSettings settings = .ok ()) : WithinCeilings settings := by
  simp only [validateSettings, bind_eq_ok, require_eq_ok, exists_const] at valid
  obtain ⟨_, maxManagerFee, maxPremium, issueFee, redeemFee, premium, feeRecipient, supply⟩ :=
    valid
  exact ⟨Fin.forall_fin_two.mpr ⟨issueFee, redeemFee⟩, premium, maxManagerFee, maxPremium,
    feeRecipient, supply⟩

/-- From blank storage, the initialization settles the terms. -/
theorem initializeSet_settled {settings : NAVIssuanceSettings}
    (returned : (deployed address weth).initializeSet msgSender settings world =
      .ok (next, after)) : Settled address weth next := by
  simp only [initializeSet, bind_eq_ok, pure_eq_ok, Prod.mk.injEq] at returned
  obtain ⟨_, _, _, _, _, valid, flags, flagging, _, _, rfl, _⟩ := returned
  refine ⟨rfl, rfl, validateSettings_eq_ok valid, Mirrors.foldlM_push _ ?_ flagging⟩
  intro before reserveAsset flagged stepped
  simp only [flagReserveAsset, bind_eq_ok, require_eq_ok, exists_const, pure_eq_ok] at stepped
  exact ⟨stepped.1, stepped.2.symm⟩

/-- The initialization makes a pending module part of the Set. -/
theorem initializeSet_activates {settings : NAVIssuanceSettings}
    (returned : module.initializeSet msgSender settings world = .ok (next, after)) :
    world.setToken.moduleStates module.address = .pending ∧
      after.setToken.moduleStates module.address = .initialized := by
  simp only [initializeSet, bind_eq_ok, pure_eq_ok, Prod.mk.injEq] at returned
  obtain ⟨_, _, _, _, _, _, _, _, _, initializing, _, rfl⟩ := returned
  obtain ⟨_, pending, written⟩ := World.callSetToken_initializeModule_eq_ok initializing
  refine ⟨pending, ?_⟩
  rw [written]
  exact Function.update_self _ _ _

/-- What an edit of the manager does: it finds the module as part of the Set, keeps its storage
settled and leaves the terms. -/
structure Edited (module next : CustomOracleNAVIssuanceModule) (world : World) : Prop where
  active : world.setToken.moduleStates module.address = .initialized
  settled : ∀ {address weth}, Settled address weth module → Settled address weth next
  terms : SameTerms module.navIssuanceSettings next.navIssuanceSettings

theorem addReserveAsset_edited {reserveAsset : Address}
    (returned : module.addReserveAsset msgSender reserveAsset world = .ok next) :
    Edited module next world := by
  simp only [addReserveAsset, bind_eq_ok, require_eq_ok, exists_const, pure_eq_ok] at returned
  obtain ⟨_, valid, fresh, rfl⟩ := returned
  refine ⟨ModuleBase.active_of_valid valid, fun settled => ?_,
    ⟨rfl, rfl, rfl, rfl, rfl, rfl⟩⟩
  have within := settled.settings
  refine ⟨settled.address, settled.weth, ⟨within.managerFees, within.premium,
    within.maxManagerFee, within.maxPremium, within.feeRecipient, within.minSetTokenSupply⟩, ?_⟩
  exact settled.reserveAssets.push ((settled.reserveAssets.notMem_iff reserveAsset).mpr fresh)

theorem removeReserveAsset_edited {reserveAsset : Address}
    (returned : module.removeReserveAsset msgSender reserveAsset world = .ok next) :
    Edited module next world := by
  simp only [removeReserveAsset, bind_eq_ok, require_eq_ok, exists_const, pure_eq_ok] at returned
  obtain ⟨_, valid, _, reserveAssets, removed, rfl⟩ := returned
  refine ⟨ModuleBase.active_of_valid valid, fun settled => ?_,
    ⟨rfl, rfl, rfl, rfl, rfl, rfl⟩⟩
  have within := settled.settings
  refine ⟨settled.address, settled.weth, ⟨within.managerFees, within.premium,
    within.maxManagerFee, within.maxPremium, within.feeRecipient, within.minSetTokenSupply⟩, ?_⟩
  obtain ⟨_, erased⟩ := AddressArrayUtils.remove_eq_ok removed
  exact settled.reserveAssets.remove (.of_eq erased)

theorem editPremium_edited {premiumPercentage : Nat}
    (returned : module.editPremium msgSender premiumPercentage world = .ok next) :
    Edited module next world := by
  simp only [editPremium, bind_eq_ok, require_eq_ok, exists_const, pure_eq_ok] at returned
  obtain ⟨_, valid, below, rfl⟩ := returned
  refine ⟨ModuleBase.active_of_valid valid, fun settled => ?_,
    ⟨rfl, rfl, rfl, rfl, rfl, rfl⟩⟩
  have within := settled.settings
  exact ⟨settled.address, settled.weth, ⟨within.managerFees, below, within.maxManagerFee,
    within.maxPremium, within.feeRecipient, within.minSetTokenSupply⟩, settled.reserveAssets⟩

theorem editManagerFee_edited {managerFeePercentage managerFeeIndex : Nat}
    (returned : module.editManagerFee msgSender managerFeePercentage managerFeeIndex world =
      .ok next) : Edited module next world := by
  simp only [editManagerFee, bind_eq_ok, require_eq_ok, exists_const] at returned
  obtain ⟨_, valid, below, written⟩ := returned
  split at written
  · rename_i bound
    obtain rfl := (pure_eq_ok _ _).mp written
    refine ⟨ModuleBase.active_of_valid valid, fun settled => ?_,
      ⟨rfl, rfl, rfl, rfl, rfl, rfl⟩⟩
    have within := settled.settings
    refine ⟨settled.address, settled.weth, ⟨fun index => ?_, within.premium,
      within.maxManagerFee, within.maxPremium, within.feeRecipient, within.minSetTokenSupply⟩,
      settled.reserveAssets⟩
    show Function.update module.navIssuanceSettings.managerFees ⟨managerFeeIndex, bound⟩
      managerFeePercentage index ≤ module.navIssuanceSettings.maxManagerFee
    rcases eq_or_ne index ⟨managerFeeIndex, bound⟩ with rfl | different
    · rw [Function.update_self]
      exact below
    · rw [Function.update_of_ne different]
      exact within.managerFees index
  · cases written

theorem editFeeRecipient_edited {managerFeeRecipient : Address}
    (returned : module.editFeeRecipient msgSender managerFeeRecipient world = .ok next) :
    Edited module next world := by
  simp only [editFeeRecipient, bind_eq_ok, require_eq_ok, exists_const, pure_eq_ok] at returned
  obtain ⟨_, valid, some, rfl⟩ := returned
  refine ⟨ModuleBase.active_of_valid valid, fun settled => ?_,
    ⟨rfl, rfl, rfl, rfl, rfl, rfl⟩⟩
  have within := settled.settings
  exact ⟨settled.address, settled.weth, ⟨within.managerFees, within.premium,
    within.maxManagerFee, within.maxPremium, some, within.minSetTokenSupply⟩,
    settled.reserveAssets⟩

/-- A call of the module initializes it, or edits its settings and leaves the world. -/
theorem settingsCode_call {call : SettingsCall}
    (returned : (settingsCode address).call msgSender call module world = .ok (next, after)) :
    (∃ settings, module.initializeSet msgSender settings world = .ok (next, after)) ∨
      Edited module next world ∧ after = world := by
  cases call with
  | initializeSet settings => exact .inl ⟨settings, returned⟩
  | addReserveAsset reserveAsset =>
    simp only [settingsCode, bind_eq_ok, pure_eq_ok, Prod.mk.injEq] at returned
    obtain ⟨_, edited, rfl, rfl⟩ := returned
    exact .inr ⟨addReserveAsset_edited edited, rfl⟩
  | removeReserveAsset reserveAsset =>
    simp only [settingsCode, bind_eq_ok, pure_eq_ok, Prod.mk.injEq] at returned
    obtain ⟨_, edited, rfl, rfl⟩ := returned
    exact .inr ⟨removeReserveAsset_edited edited, rfl⟩
  | editPremium premiumPercentage =>
    simp only [settingsCode, bind_eq_ok, pure_eq_ok, Prod.mk.injEq] at returned
    obtain ⟨_, edited, rfl, rfl⟩ := returned
    exact .inr ⟨editPremium_edited edited, rfl⟩
  | editManagerFee managerFeePercentage managerFeeIndex =>
    simp only [settingsCode, bind_eq_ok, pure_eq_ok, Prod.mk.injEq] at returned
    obtain ⟨_, edited, rfl, rfl⟩ := returned
    exact .inr ⟨editManagerFee_edited edited, rfl⟩
  | editFeeRecipient managerFeeRecipient =>
    simp only [settingsCode, bind_eq_ok, pure_eq_ok, Prod.mk.injEq] at returned
    obtain ⟨_, edited, rfl, rfl⟩ := returned
    exact .inr ⟨editFeeRecipient_edited edited, rfl⟩

/-- The removal blanks what the settings and their flags say. -/
theorem Settled.removeModule (settled : Settled address weth module) :
    module.removeModule = deployed address weth := by
  unfold CustomOracleNAVIssuanceModule.removeModule
  rw [settled.reserveAssets.clear, settled.address, settled.weth]
  rfl

/-- The module keeps its settings settled, and its terms until it is removed. -/
theorem settingsCode_orderly (address weth : Address) :
    (settingsCode address).Orderly (Settled address weth)
      (fun module => module = deployed address weth)
      (fun module next => SameTerms module.navIssuanceSettings next.navIssuanceSettings) where
  edits := by
    intro msgSender call module world next after active settled returned
    rcases settingsCode_call returned with ⟨settings, initializing⟩ | ⟨edited, rfl⟩
    · obtain ⟨pending, _⟩ := initializeSet_activates initializing
      rw [settled.address] at pending
      exact absurd (active.symm.trans pending) (by decide)
    · exact ⟨active, edited.settled settled, edited.terms⟩
  initializes := by
    intro msgSender call module world next after inactive blank returned
    subst blank
    rcases settingsCode_call returned with ⟨settings, initializing⟩ | ⟨edited, rfl⟩
    · exact ⟨(initializeSet_activates initializing).2, initializeSet_settled initializing⟩
    · exact absurd edited.active inactive
  removes := by
    intro module next settled returned
    obtain rfl := (pure_eq_ok _ _).mp returned
    exact settled.removeModule

/-! ### What a redeemer is paid -/

/-- What is left of an amount after a share, rounded down. -/
def lessShare (amount rate : Nat) : Nat :=
  Rounding.mulFloor preciseUnit amount (preciseUnit - rate)

/-- The worth of Set tokens in the reserve asset at a valuation. -/
def worthInReserve (contracts : NAVContracts) (reserveAsset : Address)
    (setTokenQuantity valuation : Nat) : Nat :=
  Rounding.mulFloor preciseUnit (Rounding.mulFloor preciseUnit setTokenQuantity valuation)
    (decimalScale contracts reserveAsset)

theorem lessShare_mono {amount less rate higher : Nat} (amounts : less ≤ amount)
    (rates : rate ≤ higher) : lessShare less higher ≤ lessShare amount rate :=
  Rounding.mulFloor_mono amounts (Nat.sub_le_sub_left rates _)

/-- The fees leave what the manager's fee and the direct fee of the protocol leave. -/
theorem getFees_le {quantity protocolIndex directIndex protocolFees managerFee netFlow : Nat}
    {index : Fin 2} (returned : module.getFees quantity protocolIndex directIndex index world =
      .ok (protocolFees, managerFee, netFlow)) :
    lessShare quantity (module.navIssuanceSettings.managerFees index +
      world.controller.getModuleFee module.address directIndex) ≤ netFlow := by
  simp only [getFees, getProtocolAndManagerFeePercentages, bind_eq_ok, preciseMul_eq_ok,
    SafeMath.sub_eq_ok, SafeMath.add_eq_ok, pure_eq_ok, Prod.exists, Prod.mk.injEq] at returned
  obtain ⟨_, _, ⟨share, _, _, ⟨part, rfl⟩, _, ⟨_, rfl⟩, rfl, rfl⟩, _, ⟨_, rfl⟩, _, ⟨_, rfl⟩, _,
    ⟨_, rfl⟩, _, ⟨_, rfl⟩, _, _, rfl⟩ := returned
  -- What the protocol takes of the manager's fee is part of it.
  have total : share + world.controller.getModuleFee module.address directIndex +
      (module.navIssuanceSettings.managerFees index - share) =
        module.navIssuanceSettings.managerFees index +
          world.controller.getModuleFee module.address directIndex := by
    omega
  have taken := Rounding.mulFloor_add_le preciseUnit
    (share + world.controller.getModuleFee module.address directIndex)
    (module.navIssuanceSettings.managerFees index - share) quantity
  rw [total, Rounding.mulFloor_comm preciseUnit
    (module.navIssuanceSettings.managerFees index +
      world.controller.getModuleFee module.address directIndex) quantity] at taken
  refine (Rounding.mulFloor_complement_le preciseUnit_pos).trans ?_
  rw [Nat.sub_sub]
  exact Nat.sub_le_sub_left (taken.trans (Rounding.mulFloor_le_mulCeil preciseUnit_pos le_rfl)) _

/-- A redemption pays the worth of the redeemed tokens less at most the premium, the manager's fee
and the direct fee of the protocol. -/
theorem createRedemptionInfo_le {contracts : NAVContracts} {reserveAsset : Address}
    {setTokenQuantity : Nat} {info : ActionInfo}
    (returned : module.createRedemptionInfo contracts reserveAsset setTokenQuantity world =
      .ok info) :
    ∃ valuation, contracts.calculateSetTokenValuation (module.setValuer contracts) reserveAsset
        world = .ok valuation ∧
      lessShare (lessShare (worthInReserve contracts reserveAsset setTokenQuantity valuation)
          module.navIssuanceSettings.premiumPercentage)
        (module.navIssuanceSettings.managerFees managerRedeemFeeIndex +
          world.controller.getModuleFee module.address protocolRedeemDirectFeeIndex) ≤
        info.netFlowQuantity := by
  simp only [createRedemptionInfo, getRedeemReserveQuantity, getRedeemPremium, bind_eq_ok,
    preciseMul_eq_ok, preciseMulCeil_eq_ok, SafeMath.sub_eq_ok, pure_eq_ok, Prod.exists]
    at returned
  obtain ⟨_, ⟨valuation, valued, _, ⟨_, rfl⟩, _, ⟨_, rfl⟩, _, ⟨_, rfl⟩, _, rfl⟩, _, _, netFlow,
    fees, _, _, _, _, _, rfl⟩ := returned
  refine ⟨valuation, valued, le_trans ?_ (getFees_le fees)⟩
  exact Rounding.mulFloor_mono (Rounding.mulFloor_complement_le preciseUnit_pos) le_rfl

/-! ### What a redeemer receives -/

/-- The Set alone spends: no other account loses a token, and no supply changes. -/
structure Spends (world next : World) : Prop where
  address : next.setToken.address = world.setToken.address
  others : ∀ token account, account ≠ world.setToken.address →
    world.balanceOf token account ≤ next.balanceOf token account
  supply : ∀ token, (next.token token).totalSupply = (world.token token).totalSupply

theorem Spends.refl (world : World) : Spends world world :=
  ⟨rfl, fun _ _ _ => le_rfl, fun _ => rfl⟩

theorem Spends.trans {middle : World} (first : Spends world middle)
    (second : Spends middle after) : Spends world after where
  address := second.address.trans first.address
  others token account outside := (first.others token account outside).trans
    (second.others token account (first.address ▸ outside))
  supply token := (second.supply token).trans (first.supply token)

/-- The recipient of a payment is credited all of it. -/
theorem strictInvokeTransfer_spends {caller token recipient : Address} {quantity : Nat}
    (returned : world.strictInvokeTransfer caller token recipient quantity = .ok after) :
    Spends world after ∧ (recipient ≠ world.setToken.address →
      after.balanceOf token recipient = world.balanceOf token recipient + quantity) := by
  unfold World.strictInvokeTransfer World.invokeTransfer at returned
  split at returned
  · simp only [bind_eq_ok, require_eq_ok, exists_const, pure_eq_ok] at returned
    obtain ⟨_, ⟨_, _, calling⟩, _, _, _, rfl⟩ := returned
    obtain ⟨_, moving, rfl⟩ := World.callToken_eq_ok calling
    obtain ⟨_, rfl⟩ := ERC20.move_eq_ok moving
    refine ⟨⟨World.address_storeToken _ _, fun other account outside => ?_, fun other => ?_⟩,
      fun outside => ?_⟩
    · by_cases same : other = token
      · subst same
        rw [World.balanceOf_storeToken_self]
        exact ERC20.le_movedBalance _ _ _ _ outside
      · rw [World.balanceOf_storeToken_other _ _ same]
    · by_cases same : other = token
      · subst same
        rw [World.token_storeToken_self]
      · rw [World.token_storeToken_other _ same]
    · rw [World.balanceOf_storeToken_self]
      exact ERC20.movedBalance_recipient _ _ _ outside
  · rename_i zero
    obtain rfl := (pure_eq_ok _ _).mp returned
    obtain rfl := Nat.eq_zero_of_not_pos zero
    exact ⟨.refl _, fun _ => rfl⟩

theorem handleRedemptionFees_spends {reserveAsset : Address} {info : ActionInfo}
    (returned : module.handleRedemptionFees reserveAsset info world = .ok after) :
    Spends world after := by
  simp only [handleRedemptionFees, bind_eq_ok] at returned
  obtain ⟨paid, protocolPaying, managerPaying⟩ := returned
  have protocol : Spends world paid := by
    unfold ModuleBase.payProtocolFeeFromSetToken at protocolPaying
    split at protocolPaying
    · exact (strictInvokeTransfer_spends protocolPaying).1
    · obtain rfl := (pure_eq_ok _ _).mp protocolPaying
      exact .refl _
  rcases payFee_cases managerPaying with paying | ⟨_, rfl⟩
  · exact protocol.trans (strictInvokeTransfer_spends paying).1
  · exact protocol

/-- The Set token keeps its address, and another token its balances and supply, whatever the Set
token is called for. -/
theorem token_of_address {token : Address} {setToken : SetToken}
    (address : setToken.address = world.setToken.address)
    (different : token ≠ world.setToken.address) :
    ({ world with setToken := setToken } : World).token token = world.token token := by
  unfold World.token
  rw [if_neg different, if_neg (address ▸ different)]

theorem writeReservePosition_spends {reserveAsset : Address} {info : ActionInfo}
    (returned : module.writeReservePosition reserveAsset info world = .ok after) :
    Spends world after := by
  simp only [writeReservePosition, bind_eq_ok] at returned
  obtain ⟨rescaled, rescaling, rewriting⟩ := returned
  obtain ⟨edited, stored⟩ := World.callSetToken_eq_ok rescaling
  obtain ⟨_, _, written⟩ := SetToken.editPositionMultiplier_eq_ok edited
  obtain ⟨opened, rewritten⟩ := World.callSetToken_eq_ok rewriting
  obtain ⟨_, _, _, _, _, _, _, replaced⟩ := Position.editDefaultPosition_eq_ok opened
  have tokens : ∀ token, after.token token = world.token token := by
    intro token
    rw [rewritten, replaced, stored, written]
    rfl
  refine ⟨by rw [replaced, written]; rfl, fun token account _ => ?_, fun token => ?_⟩
  · unfold World.balanceOf
    rw [tokens]
  · rw [tokens]

/-- The least that a redemption pays under the ceilings: the worth of the redeemed tokens, less
the premium, the manager's fee and the direct fee of the protocol. -/
def leastPayment (contracts : NAVContracts) (terms : NAVIssuanceSettings)
    (address reserveAsset : Address) (setTokenQuantity valuation : Nat) (hooked : World) : Nat :=
  lessShare (lessShare (worthInReserve contracts reserveAsset setTokenQuantity valuation)
      terms.maxPremiumPercentage)
    (terms.maxManagerFee +
      hooked.controller.getModuleFee address protocolRedeemDirectFeeIndex)

/-- What a redemption computes under settings within the ceilings. -/
theorem prepareRedeem_pays {weth : Address} {terms : NAVIssuanceSettings}
    {contracts : NAVContracts} {reserveAsset recipient : Address} {setTokenQuantity least : Nat}
    {info : ActionInfo} {burned : World} (settled : Settled address weth module)
    (same : SameTerms terms module.navIssuanceSettings)
    (returned : module.prepareRedeem contracts msgSender reserveAsset setTokenQuantity least
      recipient world = .ok (info, burned)) :
    ∃ hooked valuation,
      module.callPreRedeemHooks contracts setTokenQuantity msgSender recipient world =
        .ok hooked ∧
      contracts.calculateSetTokenValuation (module.setValuer contracts) reserveAsset hooked =
        .ok valuation ∧
      leastPayment contracts terms address reserveAsset setTokenQuantity valuation hooked ≤
        info.netFlowQuantity ∧
      burned.setToken.address = hooked.setToken.address ∧
      ∀ token, token ≠ hooked.setToken.address → burned.token token = hooked.token token := by
  obtain ⟨hooked, hooks, computed, burning⟩ := prepareRedeem_eq_ok returned
  obtain ⟨valuation, valued, paid⟩ := createRedemptionInfo_le computed
  obtain ⟨burn, stored⟩ := World.callSetToken_eq_ok burning
  obtain ⟨_, _, debited⟩ := SetToken.burn_eq_ok burn
  have kept : burned.setToken.address = hooked.setToken.address := by rw [debited]
  refine ⟨hooked, valuation, hooks, valued, le_trans ?_ paid, kept, fun token different => ?_⟩
  · have premium := settled.settings.premium
    have fee := settled.settings.managerFees managerRedeemFeeIndex
    rw [same.maxPremium] at premium
    rw [same.maxManagerFee] at fee
    rw [settled.address]
    exact lessShare_mono (lessShare_mono le_rfl premium) (Nat.add_le_add_right fee _)
  · rw [stored]
    exact token_of_address kept different

/-- Every redemption of the module, as it stands, pays at least what the terms promise. -/
structure HonoursTerms (address weth : Address) (terms : NAVIssuanceSettings)
    (module : CustomOracleNAVIssuanceModule) (world : World) : Prop where
  prepared : ∀ contracts msgSender reserveAsset setTokenQuantity least recipient info burned,
    module.prepareRedeem contracts msgSender reserveAsset setTokenQuantity least recipient world =
        .ok (info, burned) →
      ∃ hooked valuation,
        module.callPreRedeemHooks contracts setTokenQuantity msgSender recipient world =
          .ok hooked ∧
        contracts.calculateSetTokenValuation (module.setValuer contracts) reserveAsset hooked =
          .ok valuation ∧
        leastPayment contracts terms address reserveAsset setTokenQuantity valuation hooked ≤
          info.netFlowQuantity
  redeemed : ∀ contracts msgSender reserveAsset setTokenQuantity least recipient after,
    module.redeem contracts msgSender reserveAsset setTokenQuantity least recipient world =
        .ok after →
      ∃ hooked valuation,
        module.callPreRedeemHooks contracts setTokenQuantity msgSender recipient world =
          .ok hooked ∧
        contracts.calculateSetTokenValuation (module.setValuer contracts) reserveAsset hooked =
          .ok valuation ∧
        (recipient ≠ hooked.setToken.address → reserveAsset ≠ hooked.setToken.address →
          hooked.balanceOf reserveAsset recipient +
              leastPayment contracts terms address reserveAsset setTokenQuantity valuation
                hooked ≤
            after.balanceOf reserveAsset recipient)
  redeemedIntoEther : ∀ contracts msgSender setTokenQuantity least recipient after,
    module.redeemIntoEther contracts msgSender setTokenQuantity least recipient world =
        .ok after →
      ∃ hooked valuation,
        module.callPreRedeemHooks contracts setTokenQuantity msgSender recipient world =
          .ok hooked ∧
        contracts.calculateSetTokenValuation (module.setValuer contracts) weth hooked =
          .ok valuation ∧
        (weth ≠ hooked.setToken.address →
          (after.token weth).totalSupply +
              leastPayment contracts terms address weth setTokenQuantity valuation hooked ≤
            (hooked.token weth).totalSupply)

theorem Settled.honoursTerms {weth : Address} {terms : NAVIssuanceSettings}
    (settled : Settled address weth module)
    (same : SameTerms terms module.navIssuanceSettings) :
    HonoursTerms address weth terms module world where
  prepared := by
    intro contracts msgSender reserveAsset setTokenQuantity least recipient info burned preparing
    obtain ⟨hooked, valuation, hooks, valued, paid, _⟩ :=
      prepareRedeem_pays settled same preparing
    exact ⟨hooked, valuation, hooks, valued, paid⟩
  redeemed := by
    intro contracts msgSender reserveAsset setTokenQuantity least recipient after returned
    simp only [redeem, bind_eq_ok, Prod.exists] at returned
    obtain ⟨info, burned, preparing, sent, sending, paid, paying, updating⟩ := returned
    obtain ⟨hooked, valuation, hooks, valued, enough, kept, tokens⟩ :=
      prepareRedeem_pays settled same preparing
    refine ⟨hooked, valuation, hooks, valued, fun outside different => ?_⟩
    rw [← kept] at outside
    obtain ⟨sends, received⟩ := strictInvokeTransfer_spends sending
    have later : Spends sent after :=
      (handleRedemptionFees_spends paying).trans (writeReservePosition_spends updating)
    calc hooked.balanceOf reserveAsset recipient +
          leastPayment contracts terms address reserveAsset setTokenQuantity valuation hooked
        ≤ hooked.balanceOf reserveAsset recipient + info.netFlowQuantity :=
          Nat.add_le_add_left enough _
      _ = burned.balanceOf reserveAsset recipient + info.netFlowQuantity := by
          unfold World.balanceOf
          rw [tokens reserveAsset different]
      _ = sent.balanceOf reserveAsset recipient := (received outside).symm
      _ ≤ after.balanceOf reserveAsset recipient :=
          later.others reserveAsset recipient (sends.address ▸ outside)
  redeemedIntoEther := by
    intro contracts msgSender setTokenQuantity least recipient after returned
    simp only [redeemIntoEther, bind_eq_ok, Prod.exists, settled.weth] at returned
    obtain ⟨info, burned, preparing, sent, sending, unwrapped, unwrapping, paid, paying,
      updating⟩ := returned
    obtain ⟨hooked, valuation, hooks, valued, enough, kept, tokens⟩ :=
      prepareRedeem_pays settled same preparing
    refine ⟨hooked, valuation, hooks, valued, fun different => ?_⟩
    obtain ⟨sends, _⟩ := strictInvokeTransfer_spends sending
    obtain ⟨withdrawn, withdrawing, rfl⟩ := World.callToken_eq_ok unwrapping
    have freed := WETH9.withdraw_totalSupply withdrawing
    have later : Spends (sent.storeToken weth withdrawn) after :=
      (handleRedemptionFees_spends paying).trans (writeReservePosition_spends updating)
    calc (after.token weth).totalSupply +
          leastPayment contracts terms address weth setTokenQuantity valuation hooked
        ≤ (after.token weth).totalSupply + info.netFlowQuantity := Nat.add_le_add_left enough _
      _ = (sent.token weth).totalSupply := by
          rw [later.supply, World.token_storeToken_self, freed]
      _ = (hooked.token weth).totalSupply := by rw [sends.supply, tokens weth different]

/-- From the deployment of the module on, whatever the manager and everybody else do, its storage
is blank while it is not part of the Set. While it is, and until it is removed, its hooks, its
valuer, its minimum supply and its ceilings stay as they are, the fees and the premium keep below
the ceilings, the reserve assets are listed once each, and every redemption pays the worth of the
redeemed tokens less at most the ceilings and the direct fee of the protocol: the recipient is
credited at least as much of the reserve asset, or that much ether is unwrapped. -/
theorem redeemers_keep_terms (address weth : Address) (world : World)
    (absent : ¬(settingsCode address).Active world)
    (earlier later : List (Address × LifecycleStep SettingsCall))
    (stays : ∀ step ∈ later, step.2 ≠ .removeModule) :
    let code := settingsCode address
    let reached := run code.operate ⟨world, deployed address weth⟩ earlier
    let final := run code.operate reached later
    let terms := reached.storage.navIssuanceSettings
    let settings := final.storage.navIssuanceSettings
    (¬code.Active reached.world → reached.storage = deployed address weth) ∧
    (code.Active reached.world →
      SameTerms terms settings ∧ WithinCeilings settings ∧
      Mirrors settings.reserveAssets final.storage.isReserveAsset ∧
      HonoursTerms address weth terms final.storage final.world) := by
  intro code reached final terms settings
  have orderly := settingsCode_orderly address weth
  have started : code.InOrder (Settled address weth)
      (fun module => module = deployed address weth) ⟨world, deployed address weth⟩ :=
    .absent absent rfl
  have reachedOrder := ModuleCode.run_inOrder orderly started earlier
  refine ⟨reachedOrder.inactive, fun active => ?_⟩
  obtain ⟨stillActive, sameTerms⟩ := ModuleCode.run_frame orderly (fun _ => .refl _)
    (fun _ _ _ => .trans) reachedOrder active later stays
  have settled : Settled address weth final.storage :=
    (ModuleCode.run_inOrder orderly reachedOrder later).active stillActive
  exact ⟨sameTerms, settled.settings, settled.reserveAssets, settled.honoursTerms sameTerms⟩

/-- A Set that the module is not part of yet. -/
def sampleAbsentWorld : World :=
  { sampleReserveWorld with
    setToken := { sampleReserveWorld.setToken with moduleStates := fun _ => .none } }

/-- The manager adds the module and initializes it. -/
def sampleAgreement : List (Address × LifecycleStep SettingsCall) :=
  [(5, .addModule), (5, .call (.initializeSet sampleNAVModule.navIssuanceSettings))]

/-- The manager raises the premium and the fee on redemption as far as the ceilings allow. -/
def sampleRaises : List (Address × LifecycleStep SettingsCall) :=
  [(5, .call (.editPremium (10 ^ 17 + 1))), (5, .call (.editPremium (10 ^ 17))),
    (5, .call (.editManagerFee (10 ^ 17) 1))]

def sampleRaised : Installation CustomOracleNAVIssuanceModule :=
  run (settingsCode 4).operate
    (run (settingsCode 4).operate ⟨sampleAbsentWorld, deployed 4 3⟩ sampleAgreement) sampleRaises

/-- What one redeemed Set token pays at the ceilings: the premium leaves `1.35`, and the fees of the
manager and the protocol leave `0.899` of it. -/
def sampleLeastPayment : Nat := 1213650000000000000

/-- One account redeems a Set token after the raises, and the recipient is credited what the ceilings
leave. It redeems one into ether instead, and as much is unwrapped. -/
theorem redeemers_keep_terms_sample :
    (∃ after, sampleRaised.storage.redeem sampleContracts 7 3 (10 ^ 18) 0 8 sampleRaised.world =
        .ok after ∧
      sampleRaised.world.balanceOf 3 8 + sampleLeastPayment ≤ after.balanceOf 3 8) ∧
    ∃ after, sampleRaised.storage.redeemIntoEther sampleContracts 7 (10 ^ 18) 0 8
        sampleRaised.world = .ok after ∧
      (after.token 3).totalSupply + sampleLeastPayment ≤
        (sampleRaised.world.token 3).totalSupply := by
  have redeems : returns (sampleRaised.storage.redeem sampleContracts 7 3 (10 ^ 18) 0 8
      sampleRaised.world) (fun _ => true) = true := by
    decide +kernel
  have unwraps : returns (sampleRaised.storage.redeemIntoEther sampleContracts 7 (10 ^ 18) 0 8
      sampleRaised.world) (fun _ => true) = true := by
    decide +kernel
  have agreed : (settingsCode 4).Active (run (settingsCode 4).operate
      ⟨sampleAbsentWorld, deployed 4 3⟩ sampleAgreement).world := by
    unfold ModuleCode.Active
    decide +kernel
  have stays : ∀ step ∈ sampleRaises, step.2 ≠ .removeModule := by
    unfold sampleRaises
    simp
  have kept := (redeemers_keep_terms 4 3 sampleAbsentWorld (by unfold ModuleCode.Active; decide)
    sampleAgreement sampleRaises stays).2 agreed
  have honoured := kept.2.2.2
  have other : sampleRaised.world.setToken.address = 2 := by decide +kernel
  constructor
  · obtain ⟨after, returned, _⟩ := exists_of_returns redeems
    obtain ⟨hooked, valuation, hooks, valued, paid⟩ :=
      honoured.redeemed sampleContracts 7 3 (10 ^ 18) 0 8 after returned
    obtain rfl := Except.ok.inj valued
    obtain rfl : sampleRaised.world = hooked := Except.ok.inj hooks
    exact ⟨after, returned, paid (by rw [other]; decide) (by rw [other]; decide)⟩
  · obtain ⟨after, returned, _⟩ := exists_of_returns unwraps
    obtain ⟨hooked, valuation, hooks, valued, freed⟩ :=
      honoured.redeemedIntoEther sampleContracts 7 (10 ^ 18) 0 8 after returned
    obtain rfl := Except.ok.inj valued
    obtain rfl : sampleRaised.world = hooked := Except.ok.inj hooks
    exact ⟨after, returned, freed (by rw [other]; decide)⟩

end CustomOracleNAVIssuanceModule

end IndexProtocol

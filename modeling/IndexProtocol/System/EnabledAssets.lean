/-
This file proves how far the lists of enabled assets of the Compound leverage
module stay aligned. Each list mirrors its flags and the two borrow arrays have
one length in every state. The borrow arrays pair each cToken with the asset it
was enabled for as long as every removal takes one pair out: the two arrays are
searched separately, with the cToken that the asset is mapped to at that time,
so an asset that was mapped to another cToken meanwhile, and enabled again, is
found in the place of its first entry.
-/

import IndexProtocol.Modules.CompoundLeverageCalls
import IndexProtocol.System.LeverageSync

namespace IndexProtocol

open Revert Registry

/-- A call of one of the functions that edit the enabled assets or the markets. -/
inductive EnabledAssetsCall
  | initializeSet (collateralAssets borrowAssets : List Address)
  | addCollateralAssets (newCollateralAssets : List Address)
  | removeCollateralAssets (collateralAssets : List Address)
  | addBorrowAssets (newBorrowAssets : List Address)
  | removeBorrowAssets (borrowAssets : List Address)
  | removeModule
  | updateAllowedSetToken (status : Bool)
  | updateAnySetAllowed (anySetAllowed : Bool)
  | addCompoundMarket (cToken underlying : Address)
  | removeCompoundMarket (underlying : Address)

/-- A call with its sender, and the Set and the outside contracts as it finds them. -/
structure EnabledAssetsTransaction (Ledger : Type) where
  msgSender : Address
  system : CompoundLeverageSystem Ledger
  execution : Execution Ledger
  call : EnabledAssetsCall

namespace CompoundLeverageStorage

variable {Ledger : Type}

def apply (storage : CompoundLeverageStorage) (transaction : EnabledAssetsTransaction Ledger) :
    Outcome CompoundLeverageStorage :=
  let ⟨msgSender, system, execution, call⟩ := transaction
  match call with
  | .initializeSet collateralAssets borrowAssets => do
    let (next, _) ←
      storage.initializeSet msgSender system collateralAssets borrowAssets execution
    pure next
  | .addCollateralAssets newCollateralAssets => do
    let (next, _) ← storage.addCollateralAssets msgSender system newCollateralAssets execution
    pure next
  | .removeCollateralAssets collateralAssets => do
    let (next, _) ← storage.removeCollateralAssets msgSender system collateralAssets execution
    pure next
  | .addBorrowAssets newBorrowAssets => do
    let (next, _) ← storage.addBorrowAssets msgSender system newBorrowAssets execution
    pure next
  | .removeBorrowAssets borrowAssets => do
    let (next, _) ← storage.removeBorrowAssets msgSender system borrowAssets execution
    pure next
  | .removeModule => do
    let (next, _) ← storage.removeModule system execution
    pure next
  | .updateAllowedSetToken status => storage.updateAllowedSetToken msgSender status
  | .updateAnySetAllowed anySetAllowed => storage.updateAnySetAllowed msgSender anySetAllowed
  | .addCompoundMarket cToken underlying => storage.addCompoundMarket msgSender cToken underlying
  | .removeCompoundMarket underlying => storage.removeCompoundMarket msgSender underlying

/-- Each list mirrors its flags, and the two borrow arrays have one length. -/
structure Listed (storage : CompoundLeverageStorage) : Prop where
  borrow : Mirrors storage.borrowCTokens storage.borrowCTokenEnabled
  collateral : Mirrors storage.collateralCTokens storage.collateralCTokenEnabled
  length : storage.borrowCTokens.length = storage.borrowAssets.length

/-- At every index of the borrow arrays, the asset is the one its cToken was enabled for. -/
def Aligned (enabledFor : Address → Address) (storage : CompoundLeverageStorage) : Prop :=
  storage.borrowAssets = storage.borrowCTokens.map enabledFor

/-- What enabling assets to borrow notes down for their cTokens. -/
def enable (underlyingToCToken : Address → Address) (enabledFor : Address → Address)
    (newBorrowAssets : List Address) : Address → Address :=
  newBorrowAssets.foldl (fun enabledFor newBorrowAsset =>
    Function.update enabledFor (underlyingToCToken newBorrowAsset) newBorrowAsset) enabledFor

/-- The two storages agree on what is enabled to borrow and on the markets. -/
structure SameBorrows (before after : CompoundLeverageStorage) : Prop where
  borrowCTokenEnabled : after.borrowCTokenEnabled = before.borrowCTokenEnabled
  borrowCTokens : after.borrowCTokens = before.borrowCTokens
  borrowAssets : after.borrowAssets = before.borrowAssets
  underlyingToCToken : after.underlyingToCToken = before.underlyingToCToken

variable {storage next : CompoundLeverageStorage} {system : CompoundLeverageSystem Ledger}
  {before after : Execution Ledger} {asset : Address}

/-! ### One asset -/

theorem addCollateralAsset_listed (listed : storage.Listed)
    (returned : addCollateralAsset system (storage, before) asset = .ok (next, after)) :
    next.Listed ∧ SameBorrows storage next := by
  simp only [addCollateralAsset, bind_eq_ok, require_eq_ok, exists_const, pure_eq_ok,
    Prod.mk.injEq] at returned
  obtain ⟨_, unset, _, _, rfl, _⟩ := returned
  exact ⟨{ listed with
    collateral := listed.collateral.push ((listed.collateral.notMem_iff _).mpr unset) },
    ⟨rfl, rfl, rfl, rfl⟩⟩

theorem removeCollateralAsset_listed (listed : storage.Listed)
    (returned : removeCollateralAsset system (storage, before) asset = .ok (next, after)) :
    next.Listed ∧ SameBorrows storage next := by
  simp only [removeCollateralAsset, bind_eq_ok, require_eq_ok, exists_const, pure_eq_ok,
    Prod.mk.injEq] at returned
  obtain ⟨_, _, _, collateralCTokens, removed, rfl, _⟩ := returned
  obtain ⟨_, erased⟩ := AddressArrayUtils.removeStorage_eq_ok removed
  exact ⟨{ listed with collateral := listed.collateral.remove erased }, ⟨rfl, rfl, rfl, rfl⟩⟩

theorem addBorrowAsset_listed (listed : storage.Listed)
    (returned : addBorrowAsset system (storage, before) asset = .ok (next, after)) :
    next.Listed ∧ next.underlyingToCToken = storage.underlyingToCToken ∧
      ∀ enabledFor, storage.Aligned enabledFor →
        next.Aligned (Function.update enabledFor (storage.underlyingToCToken asset) asset) := by
  simp only [addBorrowAsset, bind_eq_ok, require_eq_ok, exists_const, pure_eq_ok,
    Prod.mk.injEq] at returned
  obtain ⟨_, unset, _, _, rfl, _⟩ := returned
  have fresh := (listed.borrow.notMem_iff _).mpr unset
  refine ⟨⟨listed.borrow.push fresh, listed.collateral, ?_⟩, rfl, fun enabledFor aligned => ?_⟩
  · rw [List.length_append, List.length_append, listed.length]
    rfl
  · unfold Aligned at aligned ⊢
    rw [map_update_push enabledFor fresh, ← aligned]

/-- A removal takes the cToken and the asset out, each from where it first stands. -/
theorem removeBorrowAsset_eq_ok
    (returned : removeBorrowAsset system (storage, before) asset = .ok (next, after)) :
    ∃ keyIndex valueIndex,
      storage.borrowCTokens.idxOf? (storage.underlyingToCToken asset) = some keyIndex ∧
      storage.borrowAssets.idxOf? asset = some valueIndex ∧
      next = { storage with
        borrowCTokenEnabled := Function.update storage.borrowCTokenEnabled
          (storage.underlyingToCToken asset) false
        borrowCTokens := swapPop storage.borrowCTokens keyIndex
        borrowAssets := swapPop storage.borrowAssets valueIndex } := by
  simp only [removeBorrowAsset, bind_eq_ok, pure_eq_ok, Prod.mk.injEq,
    AddressArrayUtils.removeStorage_eq_ok_iff] at returned
  obtain ⟨_, _, _, _, _, ⟨keyIndex, keyFound, rfl⟩, _, ⟨valueIndex, valueFound, rfl⟩, rfl, _⟩ :=
    returned
  exact ⟨keyIndex, valueIndex, keyFound, valueFound, rfl⟩

theorem removeBorrowAsset_listed (listed : storage.Listed)
    (returned : removeBorrowAsset system (storage, before) asset = .ok (next, after)) :
    next.Listed := by
  obtain ⟨keyIndex, valueIndex, keyFound, _, rfl⟩ := removeBorrowAsset_eq_ok returned
  refine ⟨listed.borrow.remove (swapPop_perm_erase _ _ _ keyFound), listed.collateral, ?_⟩
  rw [length_swapPop, length_swapPop, listed.length]

/-- A removal keeps the arrays aligned exactly when it takes one pair out. -/
theorem removeBorrowAsset_aligned_iff {enabledFor : Address → Address}
    (aligned : storage.Aligned enabledFor)
    (returned : removeBorrowAsset system (storage, before) asset = .ok (next, after)) :
    next.Aligned enabledFor ↔ RemovesPair storage.borrowCTokens storage.borrowAssets
      (storage.underlyingToCToken asset) asset := by
  obtain ⟨keyIndex, valueIndex, keyFound, valueFound, rfl⟩ := removeBorrowAsset_eq_ok returned
  unfold Aligned at aligned ⊢
  rw [aligned] at valueFound ⊢
  exact map_swapPop_iff enabledFor keyFound valueFound

/-! ### The loops over assets -/

section Loops

variable {assets : List Address} {enabledFor : Address → Address}

/-- A loop over collateral assets, enabling or disabling them. -/
theorem collateral_loop
    {body : CompoundLeverageStorage × Execution Ledger → Address →
      Outcome (CompoundLeverageStorage × Execution Ledger)}
    (each : ∀ {storage next : CompoundLeverageStorage} {before after : Execution Ledger}
      {asset : Address}, storage.Listed → body (storage, before) asset = .ok (next, after) →
        next.Listed ∧ SameBorrows storage next)
    (listed : storage.Listed)
    (returned : assets.foldlM body (storage, before) = .ok (next, after)) :
    next.Listed ∧ SameBorrows storage next := by
  refine foldlM_invariant body (fun state => state.1.Listed ∧ SameBorrows storage state.1) assets
    ?_ (storage, before) (next, after) ⟨listed, rfl, rfl, rfl, rfl⟩ returned
  rintro ⟨state, execution⟩ asset ⟨stepped, called⟩ _ ⟨kept, same⟩ edited
  obtain ⟨still, equal⟩ := each kept edited
  exact ⟨still, equal.borrowCTokenEnabled.trans same.borrowCTokenEnabled,
    equal.borrowCTokens.trans same.borrowCTokens, equal.borrowAssets.trans same.borrowAssets,
    equal.underlyingToCToken.trans same.underlyingToCToken⟩

theorem SameBorrows.aligned (same : SameBorrows storage next)
    (aligned : storage.Aligned enabledFor) : next.Aligned enabledFor := by
  unfold Aligned at aligned ⊢
  rw [same.borrowAssets, same.borrowCTokens, aligned]

theorem addBorrow_loop (newBorrowAssets : List Address) :
    ∀ {storage next : CompoundLeverageStorage} {before after : Execution Ledger}, storage.Listed →
      newBorrowAssets.foldlM (addBorrowAsset system) (storage, before) = .ok (next, after) →
        next.Listed ∧ ∀ enabledFor, storage.Aligned enabledFor →
          next.Aligned (enable storage.underlyingToCToken enabledFor newBorrowAssets) := by
  induction newBorrowAssets with
  | nil =>
    intro storage next before after listed returned
    rw [List.foldlM_nil, pure_eq_ok, Prod.mk.injEq] at returned
    obtain ⟨rfl, _⟩ := returned
    exact ⟨listed, fun _ aligned => aligned⟩
  | cons newBorrowAsset rest inductionHypothesis =>
    intro storage next before after listed returned
    rw [List.foldlM_cons, bind_eq_ok] at returned
    obtain ⟨⟨enabled, entered⟩, first, remaining⟩ := returned
    obtain ⟨kept, markets, pushed⟩ := addBorrowAsset_listed listed first
    obtain ⟨atEnd, others⟩ := inductionHypothesis kept remaining
    rw [markets] at others
    exact ⟨atEnd, fun enabledFor aligned => others _ (pushed enabledFor aligned)⟩

theorem removeBorrow_loop (borrowAssets : List Address) :
    ∀ {storage next : CompoundLeverageStorage} {before after : Execution Ledger}, storage.Listed →
      borrowAssets.foldlM (removeBorrowAsset system) (storage, before) = .ok (next, after) →
        next.Listed ∧ (RemovesPairs storage.underlyingToCToken borrowAssets storage.borrowCTokens
          storage.borrowAssets → ∀ enabledFor, storage.Aligned enabledFor →
            next.Aligned enabledFor) := by
  induction borrowAssets with
  | nil =>
    intro storage next before after listed returned
    rw [List.foldlM_nil, pure_eq_ok, Prod.mk.injEq] at returned
    obtain ⟨rfl, _⟩ := returned
    exact ⟨listed, fun _ _ aligned => aligned⟩
  | cons borrowAsset rest inductionHypothesis =>
    intro storage next before after listed returned
    rw [List.foldlM_cons, bind_eq_ok] at returned
    obtain ⟨⟨disabled, exited⟩, first, remaining⟩ := returned
    obtain ⟨atEnd, others⟩ := inductionHypothesis (removeBorrowAsset_listed listed first) remaining
    refine ⟨atEnd, fun ⟨pair, pairs⟩ enabledFor aligned => others ?_ enabledFor
      ((removeBorrowAsset_aligned_iff aligned first).mpr pair)⟩
    obtain ⟨keyIndex, valueIndex, keyFound, valueFound, rfl⟩ := removeBorrowAsset_eq_ok first
    exact pairs keyIndex valueIndex keyFound valueFound

end Loops

/-! ### The calls -/

section Calls

variable {msgSender : Address} {assets collateralAssets borrowAssets : List Address}

theorem addCollateralAssets_listed (listed : storage.Listed)
    (returned : storage.addCollateralAssets msgSender system assets before = .ok (next, after)) :
    next.Listed ∧ SameBorrows storage next := by
  rw [addCollateralAssets, bind_eq_ok] at returned
  obtain ⟨_, _, looped⟩ := returned
  exact collateral_loop (fun kept => addCollateralAsset_listed kept) listed looped

theorem removeCollateralAssets_listed (listed : storage.Listed)
    (returned : storage.removeCollateralAssets msgSender system assets before =
      .ok (next, after)) : next.Listed ∧ SameBorrows storage next := by
  simp only [removeCollateralAssets, bind_eq_ok] at returned
  obtain ⟨_, _, _, _, looped⟩ := returned
  exact collateral_loop (fun kept => removeCollateralAsset_listed kept) listed looped

theorem addBorrowAssets_listed (listed : storage.Listed)
    (returned : storage.addBorrowAssets msgSender system assets before = .ok (next, after)) :
    next.Listed ∧ ∀ enabledFor, storage.Aligned enabledFor →
      next.Aligned (enable storage.underlyingToCToken enabledFor assets) := by
  rw [addBorrowAssets, bind_eq_ok] at returned
  obtain ⟨_, _, looped⟩ := returned
  exact addBorrow_loop assets listed looped

theorem removeBorrowAssets_listed (listed : storage.Listed)
    (returned : storage.removeBorrowAssets msgSender system assets before = .ok (next, after)) :
    next.Listed ∧ (RemovesPairs storage.underlyingToCToken assets storage.borrowCTokens
      storage.borrowAssets → ∀ enabledFor, storage.Aligned enabledFor →
        next.Aligned enabledFor) := by
  simp only [removeBorrowAssets, bind_eq_ok] at returned
  obtain ⟨_, _, _, _, looped⟩ := returned
  exact removeBorrow_loop assets listed looped

theorem initializeSet_listed (listed : storage.Listed)
    (returned : storage.initializeSet msgSender system collateralAssets borrowAssets before =
      .ok (next, after)) :
    next.Listed ∧ ∀ enabledFor, storage.Aligned enabledFor →
      next.Aligned (enable storage.underlyingToCToken enabledFor borrowAssets) := by
  simp only [initializeSet, bind_eq_ok, Prod.exists] at returned
  obtain ⟨_, _, _, _, _, _, _, _, _, _, _, _, enabled, _, collateral, borrow⟩ := returned
  obtain ⟨kept, same⟩ := addCollateralAssets_listed listed collateral
  obtain ⟨atEnd, pushed⟩ := addBorrowAssets_listed kept borrow
  rw [same.underlyingToCToken] at pushed
  exact ⟨atEnd, fun enabledFor aligned => pushed enabledFor (same.aligned aligned)⟩

/-- The loop over a list clears every flag that the list mirrors, and keeps the others. -/
theorem disable_loop (cleared kept : CompoundLeverageStorage → Address → Bool)
    {body : CompoundLeverageStorage × Execution Ledger → Address →
      Outcome (CompoundLeverageStorage × Execution Ledger)}
    (each : ∀ state cToken stepped, body state cToken = .ok stepped →
      cleared stepped.1 = Function.update (cleared state.1) cToken false ∧
        kept stepped.1 = kept state.1)
    {state final : CompoundLeverageStorage × Execution Ledger} {cTokens : List Address}
    (mirrors : Mirrors cTokens (cleared state.1))
    (returned : cTokens.foldlM body state = .ok final) :
    cleared final.1 = (fun _ => false) ∧ kept final.1 = kept state.1 := by
  constructor
  · have swept := foldlM_view body (fun state => cleared state.1)
      (fun flags cToken => Function.update flags cToken false)
      (fun state cToken stepped called => (each state cToken stepped called).1) cTokens _ _ returned
    exact swept.trans mirrors.clear
  · exact foldlM_invariant body (fun current => kept current.1 = kept state.1) cTokens
      (fun current cToken stepped _ same called =>
        (each current cToken stepped called).2.trans same) _ _ rfl returned

/-- Both loops clear every flag, as the lists mirror them. -/
theorem removeModule_cleared (listed : storage.Listed)
    (returned : storage.removeModule system before = .ok (next, after)) :
    next.borrowCTokens = [] ∧ next.borrowAssets = [] ∧ next.collateralCTokens = [] ∧
      next.borrowCTokenEnabled = (fun _ => false) ∧
        next.collateralCTokenEnabled = fun _ => false := by
  simp only [removeModule, bind_eq_ok, pure_eq_ok, Prod.exists, Prod.mk.injEq] at returned
  obtain ⟨_, _, synced, _, first, entered, borrows, second, exited, collateral, rfl, _⟩ := returned
  obtain ⟨borrowCleared, collateralKept⟩ := disable_loop
    CompoundLeverageStorage.borrowCTokenEnabled CompoundLeverageStorage.collateralCTokenEnabled
    (fun state cToken stepped called => by
      simp only [disableBorrow, bind_eq_ok, pure_eq_ok] at called
      obtain ⟨_, _, rfl⟩ := called
      exact ⟨rfl, rfl⟩) listed.borrow borrows
  have mirrors : Mirrors storage.collateralCTokens first.collateralCTokenEnabled := by
    rw [show first.collateralCTokenEnabled = storage.collateralCTokenEnabled from collateralKept]
    exact listed.collateral
  obtain ⟨collateralCleared, borrowKept⟩ := disable_loop
    CompoundLeverageStorage.collateralCTokenEnabled CompoundLeverageStorage.borrowCTokenEnabled
    (fun state cToken stepped called => by
      simp only [disableCollateral, bind_eq_ok, pure_eq_ok] at called
      obtain ⟨_, _, rfl⟩ := called
      exact ⟨rfl, rfl⟩) mirrors collateral
  exact ⟨rfl, rfl, rfl, borrowKept.trans borrowCleared, collateralCleared⟩

theorem removeModule_listed (listed : storage.Listed)
    (returned : storage.removeModule system before = .ok (next, after)) :
    next.Listed ∧ ∀ enabledFor, next.Aligned enabledFor := by
  obtain ⟨noCTokens, noAssets, noCollateral, noBorrowFlags, noCollateralFlags⟩ :=
    removeModule_cleared listed returned
  refine ⟨⟨?_, ?_, ?_⟩, fun enabledFor => ?_⟩
  · rw [noCTokens, noBorrowFlags]
    exact Mirrors.empty
  · rw [noCollateral, noCollateralFlags]
    exact Mirrors.empty
  · rw [noCTokens, noAssets]
  · unfold Aligned
    rw [noCTokens, noAssets, List.map_nil]

end Calls

/-! ### Runs of the module -/

end CompoundLeverageStorage

/-- What a call notes down about the cTokens that it enables to borrow. -/
def EnabledAssetsCall.enable (underlyingToCToken enabledFor : Address → Address) :
    EnabledAssetsCall → Address → Address
  | .initializeSet _ borrowAssets =>
    CompoundLeverageStorage.enable underlyingToCToken enabledFor borrowAssets
  | .addBorrowAssets newBorrowAssets =>
    CompoundLeverageStorage.enable underlyingToCToken enabledFor newBorrowAssets
  | _ => enabledFor

/-- The module, with the asset that each cToken was last enabled for. -/
structure EnabledAssets where
  storage : CompoundLeverageStorage
  enabledFor : Address → Address

namespace EnabledAssets

variable {Ledger : Type}

def apply (state : EnabledAssets) (transaction : EnabledAssetsTransaction Ledger) :
    Outcome EnabledAssets := do
  let storage ← state.storage.apply transaction
  pure ⟨storage, transaction.call.enable state.storage.underlyingToCToken state.enabledFor⟩

/-- The module as it is deployed, with nothing enabled. -/
def deployed (address owner comptroller cEther weth : Address)
    (markets : List (Address × Address)) : EnabledAssets :=
  ⟨.construct address owner comptroller cEther weth markets, fun _ => 0⟩

/-- A call that disables assets to borrow takes one pair out for each. -/
def RemovesTogether (state : EnabledAssets) (transaction : EnabledAssetsTransaction Ledger) :
    Prop :=
  match transaction.call with
  | .removeBorrowAssets borrowAssets =>
    RemovesPairs state.storage.underlyingToCToken borrowAssets state.storage.borrowCTokens
      state.storage.borrowAssets
  | _ => True

variable {state next : EnabledAssets} {transaction : EnabledAssetsTransaction Ledger}

/-- Every call keeps the lists and the flags, and the pairs if it removes them together. -/
theorem apply_listed (listed : state.storage.Listed)
    (returned : state.apply transaction = .ok next) :
    next.storage.Listed ∧ (state.RemovesTogether transaction →
      state.storage.Aligned state.enabledFor → next.storage.Aligned next.enabledFor) := by
  obtain ⟨msgSender, system, execution, call⟩ := transaction
  simp only [apply, bind_eq_ok, pure_eq_ok] at returned
  obtain ⟨storage, called, rfl⟩ := returned
  cases call with
  | initializeSet collateralAssets borrowAssets =>
    simp only [CompoundLeverageStorage.apply, bind_eq_ok, pure_eq_ok, Prod.exists] at called
    obtain ⟨_, _, initialized, rfl⟩ := called
    obtain ⟨kept, aligned⟩ := CompoundLeverageStorage.initializeSet_listed listed initialized
    exact ⟨kept, fun _ => aligned state.enabledFor⟩
  | addCollateralAssets newCollateralAssets =>
    simp only [CompoundLeverageStorage.apply, bind_eq_ok, pure_eq_ok, Prod.exists] at called
    obtain ⟨_, _, added, rfl⟩ := called
    obtain ⟨kept, same⟩ := CompoundLeverageStorage.addCollateralAssets_listed listed added
    exact ⟨kept, fun _ => same.aligned⟩
  | removeCollateralAssets collateralAssets =>
    simp only [CompoundLeverageStorage.apply, bind_eq_ok, pure_eq_ok, Prod.exists] at called
    obtain ⟨_, _, removed, rfl⟩ := called
    obtain ⟨kept, same⟩ := CompoundLeverageStorage.removeCollateralAssets_listed listed removed
    exact ⟨kept, fun _ => same.aligned⟩
  | addBorrowAssets newBorrowAssets =>
    simp only [CompoundLeverageStorage.apply, bind_eq_ok, pure_eq_ok, Prod.exists] at called
    obtain ⟨_, _, added, rfl⟩ := called
    obtain ⟨kept, aligned⟩ := CompoundLeverageStorage.addBorrowAssets_listed listed added
    exact ⟨kept, fun _ => aligned state.enabledFor⟩
  | removeBorrowAssets borrowAssets =>
    simp only [CompoundLeverageStorage.apply, bind_eq_ok, pure_eq_ok, Prod.exists] at called
    obtain ⟨_, _, removed, rfl⟩ := called
    obtain ⟨kept, aligned⟩ := CompoundLeverageStorage.removeBorrowAssets_listed listed removed
    exact ⟨kept, fun together => aligned together state.enabledFor⟩
  | removeModule =>
    simp only [CompoundLeverageStorage.apply, bind_eq_ok, pure_eq_ok, Prod.exists] at called
    obtain ⟨_, _, removed, rfl⟩ := called
    obtain ⟨kept, aligned⟩ := CompoundLeverageStorage.removeModule_listed listed removed
    exact ⟨kept, fun _ _ => aligned state.enabledFor⟩
  | updateAllowedSetToken status =>
    simp only [CompoundLeverageStorage.apply, CompoundLeverageStorage.updateAllowedSetToken,
      bind_eq_ok, pure_eq_ok] at called
    obtain ⟨_, _, rfl⟩ := called
    exact ⟨⟨listed.borrow, listed.collateral, listed.length⟩, fun _ => id⟩
  | updateAnySetAllowed anySetAllowed =>
    simp only [CompoundLeverageStorage.apply, CompoundLeverageStorage.updateAnySetAllowed,
      bind_eq_ok, pure_eq_ok] at called
    obtain ⟨_, _, rfl⟩ := called
    exact ⟨⟨listed.borrow, listed.collateral, listed.length⟩, fun _ => id⟩
  | addCompoundMarket cToken underlying =>
    simp only [CompoundLeverageStorage.apply, CompoundLeverageStorage.addCompoundMarket,
      bind_eq_ok, pure_eq_ok] at called
    obtain ⟨_, _, _, _, rfl⟩ := called
    exact ⟨⟨listed.borrow, listed.collateral, listed.length⟩, fun _ => id⟩
  | removeCompoundMarket underlying =>
    simp only [CompoundLeverageStorage.apply, CompoundLeverageStorage.removeCompoundMarket,
      bind_eq_ok, pure_eq_ok] at called
    obtain ⟨_, _, _, _, rfl⟩ := called
    exact ⟨⟨listed.borrow, listed.collateral, listed.length⟩, fun _ => id⟩

/-- In every state that a run of calls reaches, whatever the Set, the protocols and the sender
are at each call: the borrow arrays have one length, no cToken is listed twice, and a cToken is
listed exactly while its flag is set. If every call that disables borrow assets takes one pair
out for each, every cToken also stands beside the asset it was enabled for. -/
theorem enabled_assets_aligned (address owner comptroller cEther weth : Address)
    (markets : List (Address × Address))
    (transactions : List (EnabledAssetsTransaction Ledger)) :
    let start := deployed address owner comptroller cEther weth markets
    (∀ front, front <+: transactions → (run apply start front).storage.Listed) ∧
      ((∀ front transaction next, front ++ [transaction] <+: transactions →
          apply (run apply start front) transaction = .ok next →
            (run apply start front).RemovesTogether transaction) →
        ∀ front, front <+: transactions →
          (run apply start front).storage.Aligned (run apply start front).enabledFor) := by
  intro start
  have listed : start.storage.Listed := ⟨Mirrors.empty, Mirrors.empty, rfl⟩
  refine ⟨fun front _ => ?_, fun met front within => ?_⟩
  · exact run_invariant apply (fun state => state.storage.Listed) (fun _ => True)
      (fun _ _ _ _ kept returned => (apply_listed kept returned).1) front (fun _ _ => trivial) _
      listed
  · refine (run_invariant_of_met apply
      (fun state => state.storage.Listed ∧ state.storage.Aligned state.enabledFor)
      RemovesTogether (fun state transaction next kept together returned => ?_)
      ⟨listed, rfl⟩ met front within).2
    obtain ⟨keptListed, keptAligned⟩ := apply_listed kept.1 returned
    exact ⟨keptListed, keptAligned together kept.2⟩

/-! ### A sample Set without debts -/

/-- A Set at address 2 of manager 5, with an issuance module at address 7 that cannot register
the module at address 4. -/
def sampleTransaction (msgSender : Address) (call : EnabledAssetsCall) :
    EnabledAssetsTransaction Unit where
  msgSender := msgSender
  system :=
    { protocols :=
        { sampleLending with
          borrowBalanceStored := fun _ _ _ => 0
          borrowBalanceCurrent := fun _ _ ledger => .ok (0, ledger) }
      registry := ⟨fun _ _ => 7⟩
      registerToIssuanceModule := fun _ _ => .error "Not supported"
      unregisterFromIssuanceModule := fun _ _ => .error "Not supported" }
  execution :=
    { world :=
        { sampleSyncWorld with
          setToken :=
            { sampleSyncWorld.setToken with
              modules := [7]
              moduleStates := fun module =>
                if module = 4 then
                  match call with
                  | .initializeSet _ _ => .pending
                  | _ => .initialized
                else .initialized } }
      ledger := ()
      events := [] }
  call := call

/-- The owner lets any Set in and the manager enables asset 20, under cToken 30. -/
def sampleEnabling : List (EnabledAssetsTransaction Unit) :=
  [sampleTransaction 10 (.updateAnySetAllowed true), sampleTransaction 5 (.initializeSet [] [20])]

/-- Asset 20 is mapped to cToken 33 and enabled again. -/
def sampleRemapping : List (EnabledAssetsTransaction Unit) :=
  [sampleTransaction 10 (.removeCompoundMarket 20),
    sampleTransaction 10 (.addCompoundMarket 33 20),
    sampleTransaction 5 (.addBorrowAssets [21, 20, 22])]

def sampleDeployed : EnabledAssets :=
  deployed 4 10 50 60 61 [(30, 20), (31, 21), (32, 22)]

def sampleDisabling : List (EnabledAssetsTransaction Unit) :=
  [sampleTransaction 5 (.addBorrowAssets [21, 22]), sampleTransaction 5 (.removeBorrowAssets [20])]

/-- Of three assets the first is disabled, and the last pair takes its place. -/
theorem enabled_assets_aligned_sample :
    let reached := run apply sampleDeployed (sampleEnabling ++ sampleDisabling)
    reached.storage.borrowAssets = [22, 21] ∧ reached.storage.Aligned reached.enabledFor := by
  refine ⟨by decide +kernel, (enabled_assets_aligned 4 10 50 60 61 [(30, 20), (31, 21), (32, 22)]
    (sampleEnabling ++ sampleDisabling)).2 ?_ _ (List.prefix_refl _)⟩
  intro front transaction next within _
  rcases front with _ | ⟨first, _ | ⟨second, _ | ⟨third, _ | ⟨fourth, rest⟩⟩⟩⟩
  · obtain ⟨rfl, _⟩ := List.cons_prefix_cons.mp within
    trivial
  · obtain ⟨_, within⟩ := List.cons_prefix_cons.mp within
    obtain ⟨rfl, _⟩ := List.cons_prefix_cons.mp within
    trivial
  · obtain ⟨_, within⟩ := List.cons_prefix_cons.mp within
    obtain ⟨_, within⟩ := List.cons_prefix_cons.mp within
    obtain ⟨rfl, _⟩ := List.cons_prefix_cons.mp within
    trivial
  · obtain ⟨rfl, rfl, rfl, rfl⟩ : first = sampleTransaction 10 (.updateAnySetAllowed true) ∧
        second = sampleTransaction 5 (.initializeSet [] [20]) ∧
          third = sampleTransaction 5 (.addBorrowAssets [21, 22]) ∧
            transaction = sampleTransaction 5 (.removeBorrowAssets [20]) := by
      simpa [sampleEnabling, sampleDisabling] using within
    exact ⟨Or.inl (by decide +kernel), fun _ _ _ _ => trivial⟩
  · have length := within.length_le
    simp only [sampleEnabling, sampleDisabling, List.length_append, List.length_cons,
      List.length_nil] at length
    omega

/-- After asset 20 was enabled under two cTokens in turn, disabling it removes its first entry
from one array and its second cToken from the other. -/
theorem enabled_assets_misaligned :
    ¬∀ (address owner comptroller cEther weth : Address) (markets : List (Address × Address))
      (transactions : List (EnabledAssetsTransaction Unit)),
      let start := deployed address owner comptroller cEther weth markets
      (run apply start transactions).storage.Aligned (run apply start transactions).enabledFor := by
  intro always
  have aligned := always 4 10 50 60 61 [(30, 20), (31, 21), (32, 22)]
    (sampleEnabling ++ sampleRemapping ++ [sampleTransaction 5 (.removeBorrowAssets [20])])
  revert aligned
  unfold CompoundLeverageStorage.Aligned
  decide +kernel

end EnabledAssets

end IndexProtocol

/-
This file follows the permissions of the auction module and of the general index
module along runs. The flags of a mapping cannot be enumerated, so each module
lists the accounts it has permitted and clears the flags through that list when
it is removed. The list mirrors the flags in every state, hence nobody is
permitted while the module is not part of the Set, and a module that is added
again permits nobody.
-/

import IndexProtocol.Modules.GeneralIndexModule
import IndexProtocol.System.AuctionUnlock

namespace IndexProtocol

open Revert Registry

/-! ### The history of an auction's bidders -/

namespace AuctionRebalanceModuleV1

variable {module next : AuctionRebalanceModuleV1} {msgSender : Address} {world : World}

/-- The history follows the flag that is written after it. -/
theorem updateBiddersHistory_mirrors {history after : List Address} {flags : Address → Bool}
    {bidder : Address} {status : Bool} (mirrors : Mirrors history flags)
    (returned : updateBiddersHistory history bidder status = .ok after) :
    Mirrors after (Function.update flags bidder status) := by
  unfold updateBiddersHistory at returned
  split at returned
  · rename_i added
    obtain ⟨rfl, absent⟩ := added
    obtain rfl := (pure_eq_ok _ _).mp returned
    exact mirrors.push ((AddressArrayUtils.contains_eq_false _ _).mp absent)
  · rename_i notAdded
    split at returned
    · rename_i removed
      obtain ⟨rfl, _⟩ := removed
      exact mirrors.remove (AddressArrayUtils.removeStorage_eq_ok returned).2
    · rename_i notRemoved
      obtain rfl := (pure_eq_ok _ _).mp returned
      rw [AddressArrayUtils.contains_eq_false] at notAdded
      rw [AddressArrayUtils.contains_eq_true] at notRemoved
      refine mirrors.update_same ⟨fun member => ?_, fun granted => ?_⟩
      · exact Bool.of_not_eq_false fun revoked => notRemoved ⟨revoked, member⟩
      · exact not_not.mp fun absent => notAdded ⟨granted, absent⟩

/-- The history lists the permitted bidders, each once. -/
def BiddersListed (module : AuctionRebalanceModuleV1) : Prop :=
  Mirrors module.permissionInfo.biddersHistory module.permissionInfo.bidAllowList

theorem setBidderStatus_biddersListed {bidders : List Address} {statuses : List Bool}
    (listed : module.BiddersListed)
    (returned : module.setBidderStatus msgSender bidders statuses world = .ok next) :
    next.BiddersListed := by
  simp only [setBidderStatus, bind_eq_ok, pure_eq_ok] at returned
  obtain ⟨_, _, _, _, permissionInfo, updated, rfl⟩ := returned
  refine foldlM_invariant updateBidder
    (fun info => Mirrors info.biddersHistory info.bidAllowList) _ ?_ _ _ listed updated
  intro info entry after _ mirrors recorded
  simp only [updateBidder, bind_eq_ok, pure_eq_ok] at recorded
  obtain ⟨history, written, rfl⟩ := recorded
  exact updateBiddersHistory_mirrors mirrors written

/-- Removing the module leaves nobody permitted. -/
theorem removeModule_cleared (listed : module.BiddersListed) :
    module.removeModule.permissionInfo =
      { isAnyoneAllowedToBid := false, biddersHistory := [], bidAllowList := fun _ => false } := by
  unfold removeModule
  rw [Mirrors.clear listed]

end AuctionRebalanceModuleV1

namespace System

variable {system next : System} {events : List AuctionEvent} {transaction : Transaction}

/-- A removed module has its storage cleared by its callback, or is another module. -/
theorem removeModule_auction {msgSender module : Address} {otherCallback : Outcome Unit}
    (returned : system.removeModule msgSender module otherCallback = .ok next) :
    next.auction = system.auction ∨ next.auction = system.auction.removeModule := by
  simp only [removeModule, bind_eq_ok, pure_eq_ok] at returned
  obtain ⟨_, _, notified, called, rfl⟩ := returned
  rcases removeModuleCallback_eq_ok called with ⟨_, rfl⟩ | ⟨_, rfl | rfl⟩
  · exact Or.inr rfl
  · exact Or.inl rfl
  · exact Or.inl rfl

/-- What a transaction does to the permissions: nothing, or the manager edits those of a module
that is part of the Set, or the module is removed. -/
theorem operate_permissionInfo (listed : system.auction.BiddersListed)
    (returned : system.operate transaction = .ok next) :
    next.auction.permissionInfo = system.auction.permissionInfo ∨
      (system.AuctionActive ∧ next.world = system.world ∧ next.auction.BiddersListed) ∨
      next.auction = system.auction.removeModule := by
  obtain ⟨msgSender, operation⟩ := transaction
  cases operation with
  | setBidderStatus bidders statuses =>
    simp only [operate] at returned
    obtain ⟨auction, called, rfl⟩ := onAuction_eq_ok returned
    refine Or.inr (Or.inl ⟨?_, rfl, ?_⟩)
    · simp only [AuctionRebalanceModuleV1.setBidderStatus, bind_eq_ok,
        ModuleBase.validateOnlyManagerAndValidSet_eq_ok, exists_const] at called
      exact called.1.2.2
    · exact AuctionRebalanceModuleV1.setBidderStatus_biddersListed listed called
  | setAnyoneBid status =>
    simp only [operate] at returned
    obtain ⟨auction, called, rfl⟩ := onAuction_eq_ok returned
    simp only [AuctionRebalanceModuleV1.setAnyoneBid, bind_eq_ok, pure_eq_ok,
      ModuleBase.validateOnlyManagerAndValidSet_eq_ok, exists_const] at called
    obtain ⟨⟨_, _, active⟩, rfl⟩ := called
    exact Or.inr (Or.inl ⟨active, rfl, listed⟩)
  | removeModule module otherCallback =>
    rcases removeModule_auction returned with same | removed
    · exact Or.inl (by rw [same])
    · exact Or.inr (Or.inr removed)
  | wait | addModule | removePendingModule | setManager | transfer | transferFrom | approve
  | bid =>
    obtain ⟨_, _, rfl⟩ := onWorld_eq_ok returned
    exact Or.inl rfl
  | govern controller =>
    obtain rfl := (pure_eq_ok _ _).mp returned
    exact Or.inl rfl
  | initializeAuction =>
    simp only [operate] at returned
    obtain ⟨_, _, called, rfl⟩ := onAuctionAndWorld_eq_ok returned
    obtain ⟨_, _, _, _, rfl, rfl⟩ := AuctionRebalanceModuleV1.initializeSet_eq_ok called
    exact Or.inl rfl
  | startRebalance adapters params =>
    simp only [operate] at returned
    obtain ⟨_, _, called, rfl⟩ := onAuctionAndWorld_eq_ok returned
    obtain ⟨_, _, _, _, rfl⟩ := AuctionRebalanceModuleV1.startRebalance_eq_ok called
    exact Or.inl rfl
  | raiseAssetTargets =>
    simp only [operate] at returned
    obtain ⟨_, called, rfl⟩ := onAuction_eq_ok returned
    obtain ⟨_, rfl⟩ := AuctionRebalanceModuleV1.raiseAssetTargets_eq_ok called
    exact Or.inl rfl
  | unlock =>
    simp only [operate] at returned
    obtain ⟨_, _, called, rfl⟩ := onAuctionAndWorld_eq_ok returned
    obtain ⟨early, _, rfl, _⟩ := AuctionRebalanceModuleV1.unlock_eq_ok called
    cases early <;> exact Or.inl rfl
  | setRaiseTargetPercentage raiseTargetPercentage =>
    simp only [operate] at returned
    obtain ⟨_, called, rfl⟩ := onAuction_eq_ok returned
    obtain rfl := AuctionRebalanceModuleV1.setRaiseTargetPercentage_eq_ok called
    exact Or.inl rfl
  | initializeBasicIssuance preIssueHook =>
    simp only [operate, bind_eq_ok, pure_eq_ok, Prod.exists] at returned
    obtain ⟨_, _, _, rfl⟩ := returned
    exact Or.inl rfl
  | initializeStreamingFee | accrueFee | updateStreamingFee =>
    simp only [operate] at returned
    obtain ⟨_, _, _, rfl⟩ := onStreamingFeeAndWorld_eq_ok returned
    exact Or.inl rfl
  | updateFeeRecipient newFeeRecipient =>
    simp only [operate, bind_eq_ok, pure_eq_ok] at returned
    obtain ⟨_, _, rfl⟩ := returned
    exact Or.inl rfl

/-- A module leaves the Set only with its storage cleared. -/
theorem Effect.active_or_cleared (effect : Effect system events next)
    (active : system.AuctionActive) :
    next.world.setToken.moduleStates system.auction.address = .initialized ∨
      next.auction = system.auction.removeModule := by
  unfold AuctionActive at active
  cases effect with
  | quiet control auction =>
    rw [control.moduleStates]
    exact Or.inl active
  | waited seconds fits advanced =>
    rw [advanced]
    exact Or.inl active
  | governed controller replaced =>
    rw [replaced]
    exact Or.inl active
  | managed manager replaced =>
    rw [replaced]
    exact Or.inl active
  | lifecycle module state control auction other foreign =>
    have different : system.auction.address ≠ module := fun same =>
      other same.symm (same ▸ active)
    rw [control.moduleStates]
    exact Or.inl ((Function.update_of_ne different _ _).trans active)
  | removed unlocked control auction => exact Or.inr auction
  | initialized positions read unlocked pending control auction =>
    exact absurd (active.symm.trans pending) (by decide)
  | started params before locking nodup lengths auction =>
    rcases AuctionRebalanceModuleV1.lockSetToken_eq_ok locking with stored | ⟨_, _, _, stored⟩ <;>
      rw [stored] <;> exact Or.inl active
  | tuned permissionInfo positionMultiplier raiseTargetPercentage changed =>
    rw [changed]
    exact Or.inl active
  | unlocked world auction | unlockedEarly world auction =>
    rw [world]
    exact Or.inl active

/-- The history mirrors the allow list, and nobody is permitted while the module is not part
of the Set. -/
structure BiddersKept (system : System) : Prop where
  listed : system.auction.BiddersListed
  inactive : ¬system.AuctionActive → system.auction.permissionInfo =
    { isAnyoneAllowedToBid := false, biddersHistory := [], bidAllowList := fun _ => false }

theorem BiddersKept.cleared (listed : system.auction.BiddersListed)
    (removed : next.auction = system.auction.removeModule) : BiddersKept next := by
  have permissions := AuctionRebalanceModuleV1.removeModule_cleared listed
  rw [← removed] at permissions
  refine ⟨?_, fun _ => permissions⟩
  unfold AuctionRebalanceModuleV1.BiddersListed
  rw [permissions]
  exact Mirrors.empty

theorem BiddersKept.operate (kept : BiddersKept system)
    (returned : system.operate transaction = .ok next) : BiddersKept next := by
  have address := (operate_impact returned).addresses.auction
  rcases operate_permissionInfo kept.listed returned with same | ⟨active, world, listed⟩ | removed
  · by_cases active : system.AuctionActive
    · rcases (operate_effect returned).active_or_cleared active with still | removed
      · refine ⟨?_, fun inactive => absurd ?_ inactive⟩
        · unfold AuctionRebalanceModuleV1.BiddersListed
          rw [same]
          exact kept.listed
        · unfold AuctionActive
          rw [address]
          exact still
      · exact BiddersKept.cleared kept.listed removed
    · refine ⟨?_, fun _ => same.trans (kept.inactive active)⟩
      unfold AuctionRebalanceModuleV1.BiddersListed
      rw [same]
      exact kept.listed
  · refine ⟨listed, fun inactive => absurd ?_ inactive⟩
    unfold AuctionActive
    rw [address, world]
    exact active
  · exact BiddersKept.cleared kept.listed removed

theorem run_biddersKept (deployed : system.auction = .deployed system.auction.address)
    (transactions : List Transaction) : BiddersKept (run System.operate system transactions) := by
  refine run_invariant System.operate BiddersKept (fun _ => True)
    (fun _ _ _ _ kept returned => kept.operate returned) transactions (fun _ _ => trivial) system ?_
  have permissions : system.auction.permissionInfo =
      { isAnyoneAllowedToBid := false, biddersHistory := [], bidAllowList := fun _ => false } := by
    rw [deployed]
    rfl
  refine ⟨?_, fun _ => permissions⟩
  unfold AuctionRebalanceModuleV1.BiddersListed
  rw [permissions]
  exact Mirrors.empty

theorem BiddersKept.nobody (kept : BiddersKept system) (inactive : ¬system.AuctionActive)
    (bidder : Address) : system.auction.isAllowedBidder bidder = false := by
  unfold AuctionRebalanceModuleV1.isAllowedBidder
  rw [kept.inactive inactive]
  rfl

/-- The module is not part of the Set after its removal. -/
theorem inactive_of_removeModule {msgSender : Address} {otherCallback : Outcome Unit}
    (returned : system.operate ⟨msgSender, .removeModule system.auction.address otherCallback⟩ =
      .ok next) : ¬next.AuctionActive := by
  have address := (operate_impact returned).addresses.auction
  simp only [operate, removeModule, bind_eq_ok, pure_eq_ok] at returned
  obtain ⟨world, removing, notified, _, rfl⟩ := returned
  obtain ⟨removed, _⟩ := World.callSetToken_eq_ok removing
  obtain ⟨_, _, modules, _, written⟩ := SetToken.removeModule_eq_ok removed
  unfold AuctionActive
  rw [address]
  show world.setToken.moduleStates system.auction.address ≠ .initialized
  rw [written]
  exact (Function.update_self _ _ _).trans_ne (by decide)

/-- Adding the module permits nobody. -/
theorem BiddersKept.initializeAuction (kept : BiddersKept system) {msgSender : Address}
    (returned : system.operate ⟨msgSender, .initializeAuction⟩ = .ok next) (bidder : Address) :
    next.auction.isAllowedBidder bidder = false := by
  simp only [System.operate] at returned
  obtain ⟨_, _, called, rfl⟩ := onAuctionAndWorld_eq_ok returned
  obtain ⟨_, _, _, pending, rfl, rfl⟩ := AuctionRebalanceModuleV1.initializeSet_eq_ok called
  exact kept.nobody (fun active => absurd (active.symm.trans pending) (by decide)) bidder

end System

/-! ### The history of an index's traders -/

namespace GeneralIndexModule

variable {module next : GeneralIndexModule} {msgSender : Address} {world after : World}

/-- The two modules keep their histories by the same code. -/
theorem updateTradersHistory_eq :
    updateTradersHistory = AuctionRebalanceModuleV1.updateBiddersHistory := rfl

/-- The history lists the permitted traders, each once. -/
def TradersListed (module : GeneralIndexModule) : Prop :=
  Mirrors module.permissionInfo.tradersHistory module.permissionInfo.tradeAllowList

theorem setTraderStatus_eq_ok {traders : List Address} {statuses : List Bool}
    (listed : module.TradersListed)
    (returned : module.setTraderStatus msgSender traders statuses world = .ok next) :
    world.setToken.moduleStates module.address = .initialized ∧ next.TradersListed ∧
      next.address = module.address := by
  simp only [setTraderStatus, bind_eq_ok, pure_eq_ok,
    ModuleBase.validateOnlyManagerAndValidSet_eq_ok, exists_const] at returned
  obtain ⟨⟨_, _, active⟩, _, _, permissionInfo, updated, rfl⟩ := returned
  refine ⟨active, ?_, rfl⟩
  refine foldlM_invariant updateTrader
    (fun info => Mirrors info.tradersHistory info.tradeAllowList) _ ?_ _ _ listed updated
  intro info entry after _ mirrors recorded
  simp only [updateTrader, bind_eq_ok, pure_eq_ok] at recorded
  obtain ⟨history, written, rfl⟩ := recorded
  rw [updateTradersHistory_eq] at written
  exact AuctionRebalanceModuleV1.updateBiddersHistory_mirrors mirrors written

theorem setAnyoneTrade_eq_ok {status : Bool}
    (returned : module.setAnyoneTrade msgSender status world = .ok next) :
    world.setToken.moduleStates module.address = .initialized ∧
      next = { module with
        permissionInfo := { module.permissionInfo with anyoneTrade := status } } := by
  simp only [setAnyoneTrade, bind_eq_ok, pure_eq_ok,
    ModuleBase.validateOnlyManagerAndValidSet_eq_ok, exists_const] at returned
  obtain ⟨⟨_, _, active⟩, rfl⟩ := returned
  exact ⟨active, rfl⟩

theorem initializeSet_eq_ok
    (returned : module.initializeSet msgSender world = .ok (next, after)) :
    world.setToken.moduleStates module.address = .pending ∧
      next.permissionInfo = module.permissionInfo ∧ next.address = module.address ∧
      after.setToken.moduleStates =
        Function.update world.setToken.moduleStates module.address .initialized := by
  simp only [initializeSet, bind_eq_ok, pure_eq_ok, Prod.mk.injEq] at returned
  obtain ⟨_, _, _, _, _, _, _, _, _, _, _, initializing, rfl, rfl⟩ := returned
  obtain ⟨_, pending, stored⟩ := World.callSetToken_initializeModule_eq_ok initializing
  exact ⟨pending, rfl, rfl, by rw [stored]⟩

theorem removeModule_cleared (listed : module.TradersListed) :
    module.removeModule.permissionInfo =
      { anyoneTrade := false, tradersHistory := [], tradeAllowList := fun _ => false } := by
  unfold removeModule
  rw [Mirrors.clear listed]

end GeneralIndexModule

/-- One Set and its general index module. -/
structure IndexSystem where
  world : World
  generalIndex : GeneralIndexModule

inductive IndexOperation
  | govern (controller : Controller)
  | addModule (module : Address)
  | removeModule (module : Address) (otherCallback : Outcome Unit)
  | removePendingModule (module : Address)
  | setManager (manager : Address)
  | initializeGeneralIndex
  | setTraderStatus (traders : List Address) (statuses : List Bool)
  | setAnyoneTrade (status : Bool)

namespace IndexSystem

def onSetToken (system : IndexSystem) (call : SetToken → Outcome SetToken) :
    Outcome IndexSystem := do
  let world ← system.world.callSetToken call
  pure { system with world := world }

def onGeneralIndex (system : IndexSystem)
    (call : GeneralIndexModule → World → Outcome GeneralIndexModule) : Outcome IndexSystem := do
  let generalIndex ← call system.generalIndex system.world
  pure { system with generalIndex := generalIndex }

/-- The callback of this module clears its storage; that of another may revert. -/
def removeModule (msgSender module : Address) (otherCallback : Outcome Unit)
    (system : IndexSystem) : Outcome IndexSystem :=
  let call : Call := ⟨system.world.controller, msgSender⟩
  if module = system.generalIndex.address then do
    let removed ← system.onSetToken (SetToken.removeModule call module (.ok ()))
    pure { removed with generalIndex := system.generalIndex.removeModule }
  else system.onSetToken (SetToken.removeModule call module otherCallback)

/-- One transaction, with its sender. -/
def operate (system : IndexSystem) : Address × IndexOperation → Outcome IndexSystem
  | (_, .govern controller) => pure { system with world := { system.world with controller } }
  | (msgSender, .addModule module) =>
    system.onSetToken (SetToken.addModule ⟨system.world.controller, msgSender⟩ module)
  | (msgSender, .removeModule module otherCallback) =>
    system.removeModule msgSender module otherCallback
  | (msgSender, .removePendingModule module) =>
    system.onSetToken (SetToken.removePendingModule ⟨system.world.controller, msgSender⟩ module)
  | (msgSender, .setManager manager) =>
    system.onSetToken (SetToken.setManager ⟨system.world.controller, msgSender⟩ manager)
  | (msgSender, .initializeGeneralIndex) => do
    let (generalIndex, world) ← system.generalIndex.initializeSet msgSender system.world
    pure { world, generalIndex }
  | (msgSender, .setTraderStatus traders statuses) =>
    system.onGeneralIndex fun module => module.setTraderStatus msgSender traders statuses
  | (msgSender, .setAnyoneTrade status) =>
    system.onGeneralIndex fun module => module.setAnyoneTrade msgSender status

def GeneralIndexActive (system : IndexSystem) : Prop :=
  system.world.setToken.moduleStates system.generalIndex.address = .initialized

/-- The history mirrors the allow list, and nobody is permitted while the module is not part
of the Set. -/
structure TradersKept (system : IndexSystem) : Prop where
  listed : system.generalIndex.TradersListed
  inactive : ¬system.GeneralIndexActive → system.generalIndex.permissionInfo =
    { anyoneTrade := false, tradersHistory := [], tradeAllowList := fun _ => false }

variable {system next : IndexSystem} {msgSender : Address}

theorem onSetToken_eq_ok {call : SetToken → Outcome SetToken}
    (returned : system.onSetToken call = .ok next) :
    call system.world.setToken = .ok next.world.setToken ∧
      next.generalIndex = system.generalIndex := by
  simp only [onSetToken, bind_eq_ok, pure_eq_ok] at returned
  obtain ⟨world, called, rfl⟩ := returned
  exact ⟨(World.callSetToken_eq_ok called).1, rfl⟩

theorem onGeneralIndex_eq_ok
    {call : GeneralIndexModule → World → Outcome GeneralIndexModule}
    (returned : system.onGeneralIndex call = .ok next) :
    ∃ generalIndex, call system.generalIndex system.world = .ok generalIndex ∧
      next = { system with generalIndex := generalIndex } := by
  simp only [onGeneralIndex, bind_eq_ok, pure_eq_ok] at returned
  obtain ⟨generalIndex, called, rfl⟩ := returned
  exact ⟨generalIndex, called, rfl⟩

theorem TradersKept.nobody (kept : TradersKept system) (inactive : ¬system.GeneralIndexActive)
    (trader : Address) : system.generalIndex.isAllowedTrader trader = false := by
  unfold GeneralIndexModule.isAllowedTrader
  rw [kept.inactive inactive]
  rfl

theorem TradersKept.cleared
    (permissions : system.generalIndex.permissionInfo =
      { anyoneTrade := false, tradersHistory := [], tradeAllowList := fun _ => false }) :
    TradersKept system := by
  refine ⟨?_, fun _ => permissions⟩
  unfold GeneralIndexModule.TradersListed
  rw [permissions]
  exact Mirrors.empty

/-- A change of the Set that does not take the module away keeps the permissions. -/
theorem TradersKept.carry (kept : TradersKept system)
    (generalIndex : next.generalIndex = system.generalIndex)
    (active : system.GeneralIndexActive → next.GeneralIndexActive) : TradersKept next := by
  refine ⟨?_, fun inactive => ?_⟩
  · rw [generalIndex]
    exact kept.listed
  · rw [generalIndex]
    exact kept.inactive fun before => inactive (active before)

/-- Writing the state of another module, or of one that is not active, keeps this one active. -/
theorem active_update {module : Address} {state : ModuleState}
    (generalIndex : next.generalIndex = system.generalIndex)
    (states : next.world.setToken.moduleStates =
      Function.update system.world.setToken.moduleStates module state)
    (other : module = system.generalIndex.address →
      system.world.setToken.moduleStates module ≠ .initialized) :
    system.GeneralIndexActive → next.GeneralIndexActive := by
  intro active
  unfold GeneralIndexActive at active ⊢
  rw [generalIndex, states]
  have different : system.generalIndex.address ≠ module := fun same =>
    other same.symm (same ▸ active)
  exact (Function.update_of_ne different _ _).trans active

theorem TradersKept.operate (kept : TradersKept system)
    (transaction : Address × IndexOperation) (returned : system.operate transaction = .ok next) :
    TradersKept next := by
  obtain ⟨msgSender, operation⟩ := transaction
  cases operation with
  | govern controller =>
    obtain rfl := (pure_eq_ok _ _).mp returned
    exact kept.carry rfl id
  | addModule module =>
    obtain ⟨called, generalIndex⟩ := onSetToken_eq_ok returned
    obtain ⟨absent, written⟩ := SetToken.addModule_eq_ok called
    exact kept.carry generalIndex (active_update generalIndex (by rw [written])
      fun _ => absent.trans_ne (by decide))
  | removePendingModule module =>
    obtain ⟨called, generalIndex⟩ := onSetToken_eq_ok returned
    obtain ⟨_, pending, written⟩ := SetToken.removePendingModule_eq_ok called
    exact kept.carry generalIndex (active_update generalIndex (by rw [written])
      fun _ => pending.trans_ne (by decide))
  | setManager manager =>
    obtain ⟨called, generalIndex⟩ := onSetToken_eq_ok returned
    obtain ⟨_, written⟩ := SetToken.setManager_eq_ok called
    refine kept.carry generalIndex fun active => ?_
    unfold GeneralIndexActive
    rw [generalIndex, written]
    exact active
  | removeModule module otherCallback =>
    simp only [IndexSystem.operate, IndexSystem.removeModule] at returned
    split at returned
    · simp only [bind_eq_ok, pure_eq_ok] at returned
      obtain ⟨removed, _, rfl⟩ := returned
      exact .cleared (GeneralIndexModule.removeModule_cleared kept.listed)
    · rename_i different
      obtain ⟨called, generalIndex⟩ := onSetToken_eq_ok returned
      obtain ⟨_, _, _, _, written⟩ := SetToken.removeModule_eq_ok called
      exact kept.carry generalIndex (active_update generalIndex (by rw [written])
        fun same => absurd same different)
  | initializeGeneralIndex =>
    simp only [IndexSystem.operate, bind_eq_ok, pure_eq_ok, Prod.exists] at returned
    obtain ⟨generalIndex, world, called, rfl⟩ := returned
    obtain ⟨pending, permissions, _, _⟩ := GeneralIndexModule.initializeSet_eq_ok called
    refine .cleared (permissions.trans (kept.inactive fun active => ?_))
    exact absurd (active.symm.trans pending) (by decide)
  | setTraderStatus traders statuses =>
    simp only [IndexSystem.operate] at returned
    obtain ⟨generalIndex, called, rfl⟩ := onGeneralIndex_eq_ok returned
    obtain ⟨active, listed, address⟩ := GeneralIndexModule.setTraderStatus_eq_ok kept.listed called
    refine ⟨listed, fun inactive => absurd ?_ inactive⟩
    unfold GeneralIndexActive
    rw [address]
    exact active
  | setAnyoneTrade status =>
    simp only [IndexSystem.operate] at returned
    obtain ⟨_, called, rfl⟩ := onGeneralIndex_eq_ok returned
    obtain ⟨active, rfl⟩ := GeneralIndexModule.setAnyoneTrade_eq_ok called
    exact ⟨kept.listed, fun inactive => absurd active inactive⟩

theorem run_tradersKept (deployed : system.generalIndex = .deployed system.generalIndex.address)
    (transactions : List (Address × IndexOperation)) :
    TradersKept (run IndexSystem.operate system transactions) := by
  refine run_invariant IndexSystem.operate TradersKept (fun _ => True)
    (fun _ transaction _ _ kept returned => kept.operate transaction returned) transactions
    (fun _ _ => trivial) system (.cleared ?_)
  rw [deployed]
  rfl

/-- The module is not part of the Set after its removal. -/
theorem inactive_of_removeModule {otherCallback : Outcome Unit}
    (returned : system.operate
      (msgSender, .removeModule system.generalIndex.address otherCallback) = .ok next) :
    ¬next.GeneralIndexActive := by
  simp only [IndexSystem.operate, IndexSystem.removeModule, if_true, bind_eq_ok, pure_eq_ok]
    at returned
  obtain ⟨removed, removing, rfl⟩ := returned
  obtain ⟨called, _⟩ := onSetToken_eq_ok removing
  obtain ⟨_, _, _, _, written⟩ := SetToken.removeModule_eq_ok called
  unfold GeneralIndexActive
  show removed.world.setToken.moduleStates system.generalIndex.address ≠ .initialized
  rw [written]
  exact (Function.update_self _ _ _).trans_ne (by decide)

/-- Adding the module permits nobody. -/
theorem TradersKept.initializeGeneralIndex (kept : TradersKept system)
    (returned : system.operate (msgSender, .initializeGeneralIndex) = .ok next)
    (trader : Address) : next.generalIndex.isAllowedTrader trader = false := by
  simp only [IndexSystem.operate, bind_eq_ok, pure_eq_ok, Prod.exists] at returned
  obtain ⟨generalIndex, world, called, rfl⟩ := returned
  obtain ⟨pending, permissions, _, _⟩ := GeneralIndexModule.initializeSet_eq_ok called
  have nobody := kept.nobody (fun active => absurd (active.symm.trans pending) (by decide)) trader
  unfold GeneralIndexModule.isAllowedTrader at nobody ⊢
  rw [permissions]
  exact nobody

end IndexSystem

/-! ### Both modules -/

/-- In every state that a run of the transactions reaches from the deployment of the modules,
the history of each module lists the permitted accounts, each once; removing the module leaves
nobody permitted, and adding it again permits nobody. -/
theorem permissions_listed (start : System) (transactions : List Transaction)
    (indexStart : IndexSystem) (indexTransactions : List (Address × IndexOperation))
    (deployed : start.auction = .deployed start.auction.address)
    (indexDeployed : indexStart.generalIndex = .deployed indexStart.generalIndex.address) :
    let reached := run System.operate start transactions
    let bidders := reached.auction.permissionInfo
    let indexReached := run IndexSystem.operate indexStart indexTransactions
    let traders := indexReached.generalIndex.permissionInfo
    (bidders.biddersHistory.Nodup ∧
      (∀ bidder, bidder ∈ bidders.biddersHistory ↔ bidders.bidAllowList bidder = true) ∧
      (∀ msgSender otherCallback next, reached.operate
          ⟨msgSender, .removeModule reached.auction.address otherCallback⟩ = .ok next →
        ∀ bidder, next.auction.isAllowedBidder bidder = false) ∧
      ∀ msgSender next, reached.operate ⟨msgSender, .initializeAuction⟩ = .ok next →
        ∀ bidder, next.auction.isAllowedBidder bidder = false) ∧
    (traders.tradersHistory.Nodup ∧
      (∀ trader, trader ∈ traders.tradersHistory ↔ traders.tradeAllowList trader = true) ∧
      (∀ msgSender otherCallback next, indexReached.operate
          (msgSender, .removeModule indexReached.generalIndex.address otherCallback) = .ok next →
        ∀ trader, next.generalIndex.isAllowedTrader trader = false) ∧
      ∀ msgSender next, indexReached.operate (msgSender, .initializeGeneralIndex) = .ok next →
        ∀ trader, next.generalIndex.isAllowedTrader trader = false) := by
  intro reached bidders indexReached traders
  have kept : System.BiddersKept reached := System.run_biddersKept deployed transactions
  have indexKept : IndexSystem.TradersKept indexReached :=
    IndexSystem.run_tradersKept indexDeployed indexTransactions
  refine ⟨⟨kept.listed.nodup, Mirrors.mem_iff kept.listed, ?_, ?_⟩,
    indexKept.listed.nodup, Mirrors.mem_iff indexKept.listed, ?_, ?_⟩
  · intro msgSender otherCallback next returned
    exact (kept.operate returned).nobody (System.inactive_of_removeModule returned)
  · exact fun msgSender next returned => kept.initializeAuction returned
  · intro msgSender otherCallback next returned
    exact (indexKept.operate _ returned).nobody (IndexSystem.inactive_of_removeModule returned)
  · exact fun msgSender next returned => indexKept.initializeGeneralIndex returned

theorem permissions_listed_sample :
    let reached := run System.operate System.sample
      [⟨5, .initializeAuction⟩, ⟨5, .setBidderStatus [7, 8] [true, true]⟩,
        ⟨5, .setBidderStatus [7] [false]⟩]
    let indexReached := run IndexSystem.operate ⟨System.sample.world, .deployed 11⟩
      [(5, .initializeGeneralIndex), (5, .setTraderStatus [7, 8] [true, true]),
        (5, .setTraderStatus [7] [false])]
    reached.auction.permissionInfo.bidAllowList 8 = true ∧
      indexReached.generalIndex.permissionInfo.tradeAllowList 8 = true := by
  intro reached indexReached
  obtain ⟨⟨_, bidders, _⟩, _, traders, _⟩ := permissions_listed System.sample
    [⟨5, .initializeAuction⟩, ⟨5, .setBidderStatus [7, 8] [true, true]⟩,
      ⟨5, .setBidderStatus [7] [false]⟩] ⟨System.sample.world, .deployed 11⟩
    [(5, .initializeGeneralIndex), (5, .setTraderStatus [7, 8] [true, true]),
      (5, .setTraderStatus [7] [false])] rfl rfl
  exact ⟨(bidders 8).mp (by decide), (traders 8).mp (by decide)⟩

end IndexProtocol

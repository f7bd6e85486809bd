/-
This file says what no interleaving of calls can do to a Set: break the
bookkeeping of its positions, change it past the module that has locked it, or
change an external position of a module that takes no part. Calls that trade,
stake or synchronise moreover change nothing of a Set but its positions and
balances.
-/

import IndexProtocol.System.Interleavings

namespace IndexProtocol

open Revert

/-! ### The bookkeeping -/

section Bookkeeping

variable {modules : Set Address} {start reached : World}

theorem Interleaving.bookkeeping (kept : PositionBookkeeping start.setToken)
    (interleaved : Interleaving ModuleCall modules start reached) :
    PositionBookkeeping reached.setToken := by
  exact World.evolves_invariant PositionBookkeeping
    (fun _ _ _ library holds returned => holds.applyMove library returned)
    (fun _ call made _ _ holds returned => holds.apply (call, made) returned)
    (fun _ _ _ holds => holds.congr ⟨rfl, rfl, rfl⟩) interleaved.throughLibrary kept

/-- From a Set that the factory creates, in any interleaving of the calls of its modules: the
multiplier is positive, the components are exactly those with a position and listed once, and
the modules of a component exactly those with a unit in it. -/
theorem bookkeeping_of_interleaving {creator address manager : Address}
    {components listed : List Address} {units : List Int} {controller registered : Controller}
    (created : SetTokenCreator.create creator address components units listed manager
      controller = .ok (start.setToken, registered))
    (interleaved : Interleaving ModuleCall modules start reached) :
    0 < reached.setToken.positionMultiplier ∧ reached.setToken.components.Nodup ∧
    (∀ component, component ∈ reached.setToken.components ↔
      0 < reached.setToken.defaultPositionVirtualUnit component ∨
        reached.setToken.externalPositionModules component ≠ []) ∧
    ∀ component, (reached.setToken.externalPositionModules component).Nodup ∧
      ∀ module, module ∈ reached.setToken.externalPositionModules component ↔
        reached.setToken.externalPositionVirtualUnit component module ≠ 0 := by
  have kept := interleaved.bookkeeping (PositionBookkeeping.create created)
  exact ⟨kept.multiplierPositive, kept.components.nodup, kept.mem_components_iff,
    fun component => ⟨(kept.positions component).modules.nodup,
      (kept.positions component).modules.mem_iff⟩⟩

end Bookkeeping

/-! ### A life of a Set -/

namespace SampleLife

/-- A Set as the factory creates it, with a basic issuance module at address 10 and a trade
module at address 4. Account 6 holds one unit of token 3 and lets the issuance module take it. -/
def fresh : World where
  timestamp := 0
  controller :=
    { sampleController with
      isModule := fun account => account = 4 ∨ account = 10
      isSet := Function.update sampleController.isSet 2 true
      sets := [2] }
  setToken := SetToken.construct 2 [3] [10 ^ 18] [4, 10] 5
  tokens := fun _ =>
    { totalSupply := 2 * 10 ^ 18
      balanceOf := fun account => if account = 6 ∨ account = 8 then 10 ^ 18 else 0
      allowance := fun owner spender => if owner = 6 ∧ spender = 10 then 10 ^ 18 else 0 }

theorem create :
    SetTokenCreator.create 1 2 [3] [10 ^ 18] [4, 10] 5
      { sampleController with isModule := fun account => account = 4 ∨ account = 10 } =
      .ok (fresh.setToken, fresh.controller) := rfl

def issuance : BasicIssuanceModule where
  address := 10
  managerIssuanceHook := 0

/-- The manager initializes both modules, account 6 issues one Set token, and the manager sells
half of token 3 for token 7. -/
def sell : Outcome (Execution Unit × TradeModule.ComponentExchanged) := do
  let (_, opened) ← issuance.initializeSet 5 0 fresh
  let trading ← TradeModule.initializeSet ⟨4⟩ 5 opened
  issuance.validateIssue (10 ^ 18) trading
  let issued ← issuance.completeIssue 6 (10 ^ 18) 6 trading
  TradeModule.trade ⟨4⟩ 5 TradeModule.sampleExchange TradeModule.sampleExchanges "Exchange" 3
    (5 * 10 ^ 17) 7 (4 * 10 ^ 17) [] ⟨issued, (), []⟩

theorem sell_interleaves {after : Execution Unit} {exchanged : TradeModule.ComponentExchanged}
    (returned : sell = .ok (after, exchanged)) :
    Interleaving ModuleCall {4, 10} fresh after.world := by
  simp only [sell, bind_eq_ok, Prod.exists] at returned
  obtain ⟨opening, opened, initialized, trading, joined, _, validated, issued, issuing, sold⟩ :=
    returned
  have opens : Interleaving ModuleCall {4, 10} fresh opened :=
    .call (by decide) (.initialized (.basicIssuance issuance opening 5 0 initialized))
  have joins : Interleaving ModuleCall {4, 10} opened trading :=
    .call (by decide) (.initialized (.trade ⟨4⟩ 5 joined))
  have issues : Interleaving ModuleCall {4, 10} trading issued :=
    .issue issuance (by decide) 6 6 (10 ^ 18) validated .refl issuing
  have sells : Interleaving ModuleCall {4, 10} issued after.world :=
    .call (by decide) (.edited (.traded (.trade ⟨4⟩ 5 TradeModule.sampleExchange
      TradeModule.sampleExchanges "Exchange" 3 (5 * 10 ^ 17) 7 (4 * 10 ^ 17) [] exchanged sold)))
  exact ((opens.trans joins).trans issues).trans sells

end SampleLife

/-- In the life of the sample Set the trade lists token 7, whose unit it has made positive. -/
theorem bookkeeping_of_interleaving_sample :
    ∃ after exchanged, SampleLife.sell = .ok (after, exchanged) ∧
      after.world.setToken.totalSupply = 10 ^ 18 ∧ after.world.setToken.components.Nodup ∧
      7 ∈ after.world.setToken.components := by
  have succeeds : returns SampleLife.sell (fun result =>
      decide (result.1.world.setToken.totalSupply = 10 ^ 18) &&
        decide (0 < result.1.world.setToken.defaultPositionVirtualUnit 7)) = true := by
    decide +kernel
  obtain ⟨⟨after, exchanged⟩, returned, changed⟩ := exists_of_returns succeeds
  rw [Bool.and_eq_true, decide_eq_true_iff, decide_eq_true_iff] at changed
  obtain ⟨_, once, listed, _⟩ := bookkeeping_of_interleaving SampleLife.create
    (SampleLife.sell_interleaves returned)
  exact ⟨after, exchanged, returned, changed.1, once, (listed 7).mpr (Or.inl changed.2)⟩

/-! ### A locked Set -/

section Locking

variable {start setToken tracked next : SetToken} {call : Call} {component module : Address}

/-- Effects of calls that one account makes one after the other. -/
abbrev SetToken.Effects (call : Call) : SetToken → SetToken → Prop :=
  Relation.ReflTransGen (SetToken.Effect call)

theorem ExternalFunction.effects (function : ExternalFunction)
    (returned : ExternalFunction.apply setToken (call, function) = .ok next) :
    SetToken.Effects call setToken next :=
  .single (apply_effect function returned)

namespace Position

theorem trackDefaultPosition_effects {found : Bool} {newUnit : Nat}
    (returned : trackDefaultPosition call component found newUnit setToken = .ok tracked) :
    SetToken.Effects call setToken tracked := by
  unfold trackDefaultPosition at returned
  split at returned
  · split at returned
    · exact ExternalFunction.effects (.addComponent component) returned
    · exact (pure_eq_ok _ _).mp returned ▸ .refl
  · split at returned
    · split at returned
      · exact ExternalFunction.effects (.removeComponent component) returned
      · exact (pure_eq_ok _ _).mp returned ▸ .refl
    · exact (pure_eq_ok _ _).mp returned ▸ .refl

theorem editDefaultPosition_effects {newUnit : Nat}
    (returned : editDefaultPosition call component newUnit setToken = .ok next) :
    SetToken.Effects call setToken next := by
  simp only [editDefaultPosition, bind_eq_ok] at returned
  obtain ⟨_, _, _, listed, unit, _, stored⟩ := returned
  exact (trackDefaultPosition_effects listed).trans
    (ExternalFunction.effects (.editDefaultPositionUnit component unit) stored)

theorem trackExternalPosition_effects
    (returned : trackExternalPosition call component module setToken = .ok tracked) :
    SetToken.Effects call setToken tracked := by
  unfold trackExternalPosition at returned
  split at returned
  · rw [bind_eq_ok] at returned
    obtain ⟨_, listed, extended⟩ := returned
    exact (ExternalFunction.effects (.addComponent component) listed).trans
      (ExternalFunction.effects (.addExternalPositionModule component module) extended)
  · split at returned
    · exact ExternalFunction.effects (.addExternalPositionModule component module) returned
    · exact (pure_eq_ok _ _).mp returned ▸ .refl

theorem untrackExternalPosition_effects {defaultUnit : Int}
    (returned : untrackExternalPosition call component module defaultUnit setToken =
      .ok tracked) : SetToken.Effects call setToken tracked := by
  unfold untrackExternalPosition at returned
  dsimp only at returned
  split at returned
  · rw [bind_eq_ok] at returned
    obtain ⟨_, _, removed⟩ := returned
    exact ExternalFunction.effects (.removeComponent component) removed
  · exact (pure_eq_ok _ _).mp returned ▸ .refl

theorem editExternalPosition_effects {newUnit : Int} {data : Bytes}
    (returned : editExternalPosition call component module newUnit data setToken = .ok next) :
    SetToken.Effects call setToken next := by
  unfold editExternalPosition at returned
  split at returned
  · simp only [bind_eq_ok] at returned
    obtain ⟨_, listed, _, unit, extra⟩ := returned
    exact ((trackExternalPosition_effects listed).trans
      (ExternalFunction.effects (.editExternalPositionUnit component module newUnit) unit)).trans
        (ExternalFunction.effects (.editExternalPositionData component module data) extra)
  · simp only [bind_eq_ok] at returned
    obtain ⟨_, _, _, _, closing⟩ := returned
    split at closing
    · simp only [bind_eq_ok] at closing
      obtain ⟨_, _, _, unlisted, removed⟩ := closing
      exact (untrackExternalPosition_effects unlisted).trans
        (ExternalFunction.effects (.removeExternalPositionModule component module) removed)
    · exact (pure_eq_ok _ _).mp closing ▸ .refl

end Position

/-- Every call of the Set or of the position library comes down to effects of its sender. -/
theorem SetTokenCall.apply_effects {made : SetTokenCall}
    (returned : SetTokenCall.apply setToken (call, made) = .ok next) :
    SetToken.Effects call setToken next := by
  cases made with
  | editDefaultPosition component newUnit =>
    exact Position.editDefaultPosition_effects returned
  | editExternalPosition component module newUnit data =>
    exact Position.editExternalPosition_effects returned
  | editPositionMultiplier newMultiplier =>
    exact ExternalFunction.effects (.editPositionMultiplier newMultiplier) returned
  | mint account quantity => exact ExternalFunction.effects (.mint account quantity) returned
  | burn account quantity => exact ExternalFunction.effects (.burn account quantity) returned
  | lock => exact ExternalFunction.effects .lock returned
  | unlock => exact ExternalFunction.effects .unlock returned
  | addModule module => exact ExternalFunction.effects (.addModule module) returned
  | removeModule module callback =>
    exact ExternalFunction.effects (.removeModule module callback) returned
  | removePendingModule module =>
    exact ExternalFunction.effects (.removePendingModule module) returned
  | initializeModule => exact ExternalFunction.effects .initializeModule returned
  | setManager manager => exact ExternalFunction.effects (.setManager manager) returned

namespace SetToken.Untouched

theorem transferred (kept : Untouched start setToken) (balances : Address → Nat)
    (allowances : Address → Address → Nat) :
    Untouched start { setToken with balanceOf := balances, allowance := allowances } := by
  obtain ⟨⟨_, _, states, stored⟩, before⟩ := kept
  exact ⟨⟨balances, allowances, states, by rw [stored]⟩, before⟩

theorem effects (kept : Untouched start setToken) (locked : start.isLocked = true)
    (other : call.sender ≠ start.locker) (effects : Effects call setToken next) :
    Untouched start next := by
  induction effects with
  | refl => exact kept
  | tail _ effect inductionHypothesis => exact inductionHypothesis.effect locked other effect

/-- A function for the manager has the same effect whoever calls it. -/
theorem managed {made : SetTokenCall} (kept : Untouched start setToken)
    (locked : start.isLocked = true) (management : made.IsManagement)
    (returned : SetTokenCall.apply setToken (call, made) = .ok next) : Untouched start next := by
  have different : start.locker + 1 ≠ start.locker := by bv_omega
  have effect : Effect ⟨call.controller, start.locker + 1⟩ setToken next := by
    cases made with
    | addModule module =>
      obtain ⟨absent, rfl⟩ := SetToken.addModule_eq_ok returned
      exact .moduleAdded module absent
    | removeModule module callback =>
      obtain ⟨unlocked, _, modules, erased, rfl⟩ := SetToken.removeModule_eq_ok returned
      exact .moduleRemoved module unlocked modules erased
    | removePendingModule module =>
      obtain ⟨unlocked, pending, rfl⟩ := SetToken.removePendingModule_eq_ok returned
      exact .pendingModuleRemoved module unlocked pending
    | setManager manager =>
      obtain ⟨unlocked, rfl⟩ := SetToken.setManager_eq_ok returned
      exact .managerSet manager unlocked
    | editDefaultPosition | editExternalPosition | editPositionMultiplier | mint | burn | lock
    | unlock | initializeModule => exact management.elim
  exact kept.effect locked different effect

theorem moved {senders : Set Address} {move : SetTokenMove} (kept : Untouched start setToken)
    (locked : start.isLocked = true) (others : start.locker ∉ senders)
    (made : move.MadeBy senders) (returned : move.apply setToken = .ok next) :
    Untouched start next := by
  cases move with
  | setTokenCall call function =>
    have other : call.sender ≠ start.locker := fun same => others (same ▸ made.1)
    exact kept.effects locked other (SetTokenCall.apply_effects returned)
  | editExternalPositionUnit call component module realUnit =>
    have other : call.sender ≠ start.locker := fun same => others (same ▸ made.1)
    exact kept.effects locked other (ExternalFunction.effects
      (.editExternalPositionUnit component module realUnit) returned)
  | setHoldings balances allowances =>
    obtain rfl := (pure_eq_ok _ _).mp returned
    exact kept.transferred balances allowances

end SetToken.Untouched

end Locking

/-- While a Set is locked, no interleaving of calls of other modules than its locker, with any
hooks, transfers and changes of the governance in between, changes anything of it but balances,
allowances, and the states of absent modules, which may become pending. -/
theorem locked_interleaving {modules : Set Address} {start reached : World}
    (locked : start.setToken.isLocked = true) (others : start.setToken.locker ∉ modules)
    (interleaved : Interleaving SystemCall modules start reached) :
    (∃ balances allowances states, reached.setToken = { start.setToken with
      balanceOf := balances, allowance := allowances, moduleStates := states }) ∧
    ∀ module, reached.setToken.moduleStates module = start.setToken.moduleStates module ∨
      start.setToken.moduleStates module = .none ∧
        reached.setToken.moduleStates module = .pending := by
  have kept := World.evolves_invariant start.setToken.Untouched
    (fun _ _ _ made kept returned => kept.moved locked others made returned)
    (fun _ _ _ _ management kept returned => kept.managed locked management returned)
    (fun _ balances allowances kept => kept.transferred balances allowances)
    interleaved.madeBy (SetToken.Untouched.refl _)
  exact ⟨kept.frame, kept.moduleStates⟩

namespace SampleLock

/-- The Set of the sample trade, which module 9 has locked. -/
def start : World :=
  { TradeModule.sampleTradeStart.world with
    setToken := { TradeModule.sampleTradeStart.world.setToken with
      isLocked := true, locker := 9 } }

/-- A streaming fee module at address 4 that charges nothing yet. -/
def fees : StreamingFeeModule where
  address := 4
  feeStates := ⟨5, 10 ^ 17, 0, 0⟩

/-- The manager sets a fee of one per cent, and account 6 sends a part of the supply. -/
def charge : Outcome ((StreamingFeeModule × World) × World) := do
  let (charging, updated) ← fees.updateStreamingFee 5 (10 ^ 16) start
  let sent ← updated.callToken 2 fun token => token.move 6 7 (10 ^ 17)
  pure ((charging, updated), sent)

end SampleLock

/-- The fee is set and the transfer made, and nothing else of the locked Set changes. -/
theorem locked_interleaving_sample :
    ∃ charging updated reached, SampleLock.charge = .ok ((charging, updated), reached) ∧
      charging.feeStates.streamingFeePercentage = 10 ^ 16 ∧
      reached.setToken.balanceOf 7 = 10 ^ 17 ∧
      ∃ balances allowances states, reached.setToken = { SampleLock.start.setToken with
        balanceOf := balances, allowance := allowances, moduleStates := states } := by
  have succeeds : returns SampleLock.charge (fun result =>
      decide (result.1.1.feeStates.streamingFeePercentage = 10 ^ 16) &&
        decide (result.2.setToken.balanceOf 7 = 10 ^ 17)) = true := by
    decide
  obtain ⟨⟨⟨charging, updated⟩, reached⟩, returned, changed⟩ := exists_of_returns succeeds
  rw [Bool.and_eq_true, decide_eq_true_iff, decide_eq_true_iff] at changed
  have ran := returned
  simp only [SampleLock.charge, bind_eq_ok, pure_eq_ok, Prod.mk.injEq, Prod.exists] at ran
  obtain ⟨_, _, updating, _, sending, ⟨rfl, rfl⟩, rfl⟩ := ran
  have updates : Interleaving SystemCall {4} SampleLock.start _ :=
    .call (Set.mem_singleton 4) (.module (.updateStreamingFee SampleLock.fees _ 5 _ updating))
  have interleaved := updates.trans
    (.environment (.moved (World.callToken_move_onlyBalances sending)))
  exact ⟨_, _, _, returned, changed.1, changed.2,
    (locked_interleaving rfl (by decide) interleaved).1⟩

/-! ### External positions -/

/-- Where a module is listed, and what is stored for it, agree in two Sets. -/
structure SetToken.KeepsExternal (module : Address) (setToken next : SetToken) : Prop where
  listed : ∀ component, module ∈ next.externalPositionModules component ↔
    module ∈ setToken.externalPositionModules component
  stored : ∀ component, (next.componentPositions component).externalPositions module =
    (setToken.componentPositions component).externalPositions module

section External

variable {setToken tracked next : SetToken} {call : Call} {component module owner : Address}

namespace SetToken.KeepsExternal

theorem trans (first : KeepsExternal module setToken tracked)
    (second : KeepsExternal module tracked next) : KeepsExternal module setToken next where
  listed := fun component => (second.listed component).trans (first.listed component)
  stored := fun component => (second.stored component).trans (first.stored component)

/-- The same stored positions. -/
theorem of_positions (same : next.componentPositions = setToken.componentPositions) :
    KeepsExternal module setToken next := by
  refine ⟨fun component => ?_, fun component => by rw [same]⟩
  unfold externalPositionModules
  rw [same]

theorem refl (module : Address) (setToken : SetToken) : KeepsExternal module setToken setToken :=
  of_positions rfl

/-- An edit of one component that leaves the module's part of it. -/
theorem editComponent {edit : ComponentPosition → ComponentPosition}
    (listed : module ∈ (edit (setToken.componentPositions component)).externalPositionModules ↔
      module ∈ setToken.externalPositionModules component)
    (stored : (edit (setToken.componentPositions component)).externalPositions module =
      (setToken.componentPositions component).externalPositions module) :
    KeepsExternal module setToken (setToken.editComponent component edit) := by
  refine ⟨fun other => ?_, fun other => ?_⟩
  · unfold externalPositionModules at listed ⊢
    by_cases same : other = component
    · rw [same, editComponent_self]
      exact listed
    · rw [editComponent_other _ _ _ same]
  · by_cases same : other = component
    · rw [same, editComponent_self]
      exact stored
    · rw [editComponent_other _ _ _ same]

/-- What one module has its position written to is not another module's. -/
theorem editExternal {position : ExternalPosition} (different : module ≠ owner) :
    KeepsExternal module setToken (setToken.editComponent component fun stored =>
      { stored with
        externalPositions := Function.update stored.externalPositions owner position }) :=
  editComponent Iff.rfl (Function.update_of_ne different _ _)

end SetToken.KeepsExternal

namespace Position

open SetToken

theorem editDefaultPosition_keepsExternal {newUnit : Nat}
    (returned : editDefaultPosition call component newUnit setToken = .ok next) :
    KeepsExternal module setToken next := by
  obtain ⟨_, components, virtualUnit, _, _, _, _, rfl⟩ := editDefaultPosition_eq_ok returned
  have listing : KeepsExternal module setToken { setToken with components := components } :=
    .of_positions rfl
  exact listing.trans (.editComponent Iff.rfl rfl)

theorem trackExternalPosition_keepsExternal (different : module ≠ owner)
    (returned : trackExternalPosition call component owner setToken = .ok tracked) :
    KeepsExternal module setToken tracked := by
  have extending : ∀ before after : SetToken,
      before.addExternalPositionModule call component owner = .ok after →
        KeepsExternal module before after := by
    intro before after extended
    obtain ⟨_, _, rfl⟩ := SetToken.addExternalPositionModule_eq_ok extended
    refine KeepsExternal.editComponent ?_ rfl
    rw [List.mem_append, List.mem_singleton, or_iff_left different]
    rfl
  unfold trackExternalPosition at returned
  split at returned
  · rw [bind_eq_ok] at returned
    obtain ⟨added, listed, extended⟩ := returned
    have listing : KeepsExternal module setToken added := by
      obtain ⟨_, _, rfl⟩ := SetToken.addComponent_eq_ok listed
      exact .of_positions rfl
    exact listing.trans (extending added tracked extended)
  · split at returned
    · exact extending setToken tracked returned
    · exact (pure_eq_ok _ _).mp returned ▸ KeepsExternal.refl _ _

theorem untrackExternalPosition_keepsExternal {defaultUnit : Int}
    (returned : untrackExternalPosition call component owner defaultUnit setToken =
      .ok tracked) : KeepsExternal module setToken tracked := by
  unfold untrackExternalPosition at returned
  dsimp only at returned
  split at returned
  · rw [bind_eq_ok] at returned
    obtain ⟨_, _, removed⟩ := returned
    obtain ⟨_, _, _, rfl⟩ := SetToken.removeComponent_eq_ok removed
    exact KeepsExternal.of_positions rfl
  · exact (pure_eq_ok _ _).mp returned ▸ KeepsExternal.refl _ _

theorem editExternalPosition_keepsExternal {newUnit : Int} {data : Bytes}
    (different : module ≠ owner)
    (returned : editExternalPosition call component owner newUnit data setToken = .ok next) :
    KeepsExternal module setToken next := by
  unfold editExternalPosition at returned
  split at returned
  · simp only [bind_eq_ok] at returned
    obtain ⟨_, listed, _, unit, extra⟩ := returned
    obtain ⟨_, _, _, rfl⟩ := SetToken.editExternalPositionUnit_eq_ok unit
    obtain ⟨_, rfl⟩ := SetToken.editExternalPositionData_eq_ok extra
    exact ((trackExternalPosition_keepsExternal different listed).trans
      (KeepsExternal.editExternal different)).trans (KeepsExternal.editExternal different)
  · simp only [bind_eq_ok] at returned
    obtain ⟨_, _, _, _, closing⟩ := returned
    split at closing
    · simp only [bind_eq_ok] at closing
      obtain ⟨_, _, _, unlisted, removed⟩ := closing
      obtain ⟨_, _, _, erased, rfl⟩ := SetToken.removeExternalPositionModule_eq_ok removed
      refine (untrackExternalPosition_keepsExternal unlisted).trans
        (KeepsExternal.editComponent ?_ (Function.update_of_ne different _ _))
      exact erased.mem_iff.trans (List.mem_erase_of_ne different)
    · exact (pure_eq_ok _ _).mp closing ▸ KeepsExternal.refl _ _

end Position

/-- No move of other accounts touches what is recorded for a module. -/
theorem SetTokenMove.apply_keepsExternal {senders : Set Address} {move : SetTokenMove}
    (apart : module ∉ senders) (made : move.MadeBy senders)
    (returned : move.apply setToken = .ok next) :
    SetToken.KeepsExternal module setToken next := by
  cases move with
  | setTokenCall call function =>
    by_cases control : function.IsControl
    · exact .of_positions (control.keeps returned).1.componentPositions
    cases function with
    | editDefaultPosition component newUnit =>
      exact Position.editDefaultPosition_keepsExternal returned
    | editExternalPosition component owner newUnit data =>
      have owned : owner = call.sender := made.2
      have different : module ≠ owner := fun same => apart (same ▸ owned ▸ made.1)
      exact Position.editExternalPosition_keepsExternal different returned
    | editPositionMultiplier newMultiplier =>
      obtain ⟨_, _, rfl⟩ := SetToken.editPositionMultiplier_eq_ok returned
      exact .of_positions rfl
    | mint account quantity =>
      obtain ⟨_, rfl⟩ := SetToken.mint_eq_ok returned
      exact .of_positions rfl
    | burn account quantity =>
      obtain ⟨_, _, rfl⟩ := SetToken.burn_eq_ok returned
      exact .of_positions rfl
    | lock | unlock | addModule | removeModule | removePendingModule | initializeModule
    | setManager => exact absurd trivial control
  | editExternalPositionUnit call component owner realUnit =>
    have owned : owner = call.sender := made.2
    have different : module ≠ owner := fun same => apart (same ▸ owned ▸ made.1)
    obtain ⟨_, _, _, rfl⟩ := SetToken.editExternalPositionUnit_eq_ok returned
    exact .editExternal different
  | setHoldings balances allowances =>
    exact .of_positions (((pure_eq_ok _ _).mp returned) ▸ rfl)

end External

/-- What a Set records for a module in any component, that it is listed, its unit and its data,
no interleaving of calls of other modules changes. -/
theorem external_positions_kept {modules : Set Address} {start reached : World}
    {module : Address} (apart : module ∉ modules)
    (interleaved : Interleaving SystemCall modules start reached) (component : Address) :
    (module ∈ reached.setToken.externalPositionModules component ↔
      module ∈ start.setToken.externalPositionModules component) ∧
    reached.setToken.externalPositionVirtualUnit component module =
      start.setToken.externalPositionVirtualUnit component module ∧
    reached.setToken.externalPositionData component module =
      start.setToken.externalPositionData component module := by
  have kept := World.evolves_invariant (start.setToken.KeepsExternal module)
    (fun _ _ _ made kept returned =>
      kept.trans (SetTokenMove.apply_keepsExternal apart made returned))
    (fun _ _ _ _ management kept returned => kept.trans
      (.of_positions (management.isControl.keeps returned).1.componentPositions))
    (fun _ _ _ kept => kept.trans (.of_positions rfl)) interleaved.madeBy (.refl _ _)
  refine ⟨kept.listed component, ?_, ?_⟩
  · exact congrArg ExternalPosition.virtualUnit (kept.stored component)
  · exact congrArg ExternalPosition.data (kept.stored component)

/-- The sample trade, of a Set in which module 6 has recorded a debt of token 3. -/
def sampleBorrowed : Execution Unit :=
  { TradeModule.sampleTradeStart with
    world := { TradeModule.sampleTradeStart.world with
      setToken := TradeModule.sampleTradeStart.world.setToken.editComponent 3 fun stored =>
        { stored with
          externalPositionModules := [6]
          externalPositions := Function.update stored.externalPositions 6 ⟨-5, [1]⟩ } } }

/-- Module 4 sells a half of token 3, and the debt that module 6 has recorded stays. -/
theorem external_positions_kept_sample :
    ∃ after exchanged, TradeModule.trade ⟨4⟩ 5 TradeModule.sampleExchange
        TradeModule.sampleExchanges "Exchange" 3 (5 * 10 ^ 17) 7 (4 * 10 ^ 17) []
          sampleBorrowed = .ok (after, exchanged) ∧
      after.world.setToken.defaultPositionVirtualUnit 3 = 5 * 10 ^ 17 ∧
      6 ∈ after.world.setToken.externalPositionModules 3 ∧
      after.world.setToken.externalPositionVirtualUnit 3 6 = -5 := by
  have succeeds : returns (TradeModule.trade ⟨4⟩ 5 TradeModule.sampleExchange
      TradeModule.sampleExchanges "Exchange" 3 (5 * 10 ^ 17) 7 (4 * 10 ^ 17) [] sampleBorrowed)
      (fun result => decide (result.1.world.setToken.defaultPositionVirtualUnit 3 =
        5 * 10 ^ 17)) = true := by
    decide +kernel
  obtain ⟨⟨after, exchanged⟩, returned, sold⟩ := exists_of_returns succeeds
  have call : EditCall 4 sampleBorrowed.world after.world :=
    .traded (.trade ⟨4⟩ 5 TradeModule.sampleExchange TradeModule.sampleExchanges "Exchange" 3
      (5 * 10 ^ 17) 7 (4 * 10 ^ 17) [] exchanged returned)
  have apart : (6 : Address) ∉ ({4} : Set Address) := by decide
  obtain ⟨listed, unit, _⟩ := external_positions_kept apart
    (.call (Set.mem_singleton 4) (.module (.edited call))) 3
  exact ⟨after, exchanged, returned, of_decide_eq_true sold, listed.mpr (by decide),
    unit.trans (by decide)⟩

/-! ### What editing calls change -/

/-- The Sets agree in all but their positions, balances and allowances. -/
def SetToken.OnlyEdited (setToken next : SetToken) : Prop :=
  ∃ components positions balances allowances, next = { setToken with
    components := components
    componentPositions := positions
    balanceOf := balances
    allowance := allowances }

section Editing

variable {setToken middle next : SetToken} {world after start reached : World}

theorem SetToken.OnlyEdited.refl (setToken : SetToken) : setToken.OnlyEdited setToken :=
  ⟨setToken.components, setToken.componentPositions, setToken.balanceOf, setToken.allowance, rfl⟩

theorem SetToken.OnlyEdited.trans (first : setToken.OnlyEdited middle)
    (second : middle.OnlyEdited next) : setToken.OnlyEdited next := by
  obtain ⟨_, _, _, _, rfl⟩ := first
  obtain ⟨components, positions, balances, allowances, rfl⟩ := second
  exact ⟨components, positions, balances, allowances, rfl⟩

theorem SetToken.OnlyEdited.of_positions (only : Position.OnlyPositions setToken next) :
    setToken.OnlyEdited next := by
  obtain ⟨components, positions, rfl⟩ := only
  exact ⟨components, positions, setToken.balanceOf, setToken.allowance, rfl⟩

theorem SetTokenMove.apply_onlyEdited {move : SetTokenMove} (edit : move.IsEdit)
    (returned : move.apply setToken = .ok next) : setToken.OnlyEdited next := by
  cases move with
  | setTokenCall call function =>
    cases function with
    | editDefaultPosition component newUnit =>
      exact .of_positions (Position.editDefaultPosition_editsOnly returned).only
    | editExternalPosition component owner newUnit data =>
      exact .of_positions (Position.editExternalPosition_editsOnly returned).1.only
    | editPositionMultiplier | mint | burn | lock | unlock | addModule | removeModule
    | removePendingModule | initializeModule | setManager => exact edit.elim
  | editExternalPositionUnit call component owner realUnit =>
    obtain ⟨_, _, _, rfl⟩ := SetToken.editExternalPositionUnit_eq_ok returned
    exact .of_positions ⟨_, _, rfl⟩
  | setHoldings balances allowances =>
    obtain rfl := (pure_eq_ok _ _).mp returned
    exact ⟨setToken.components, setToken.componentPositions, balances, allowances, rfl⟩

theorem World.Moves.onlyEdited {permitted : SetTokenMove → Prop}
    (edits : ∀ move, permitted move → move.IsEdit) (moves : World.Moves permitted world after) :
    world.setToken.OnlyEdited after.setToken :=
  moves.setToken.invariant world.setToken.OnlyEdited
    (fun _ move _ allowed kept returned =>
      kept.trans (SetTokenMove.apply_onlyEdited (edits move allowed) returned))
    (.refl _)

/-- Calls that trade, stake, synchronise leverage or run the hooks of an order, of any modules in
any order, change nothing of the Set but its positions, balances and allowances: the supply, the
multiplier, the manager, the lock and the modules stay as they are. -/
theorem only_positions_change
    (steps : Relation.ReflTransGen
      (fun world next => ∃ module, EditCall module world next ∨ PerpCall module world next)
      start reached) :
    reached.timestamp = start.timestamp ∧ reached.controller = start.controller ∧
    ∃ components positions balances allowances, reached.setToken = { start.setToken with
      components := components
      componentPositions := positions
      balanceOf := balances
      allowance := allowances } := by
  induction steps with
  | refl => exact ⟨rfl, rfl, SetToken.OnlyEdited.refl _⟩
  | tail _ step inductionHypothesis =>
    obtain ⟨timestamp, controller, edited⟩ := inductionHypothesis
    obtain ⟨module, call | call⟩ := step
    · have edits := call.edits
      exact ⟨edits.timestamp.trans timestamp, edits.controller.trans controller,
        SetToken.OnlyEdited.trans edited (edits.onlyEdited fun _ edit => edit.2)⟩
    · have edits := call.ownEdits
      exact ⟨edits.timestamp.trans timestamp, edits.controller.trans controller,
        SetToken.OnlyEdited.trans edited (edits.onlyEdited fun _ edit => edit.2)⟩

/-- The sample trade changes neither the supply nor the multiplier. -/
theorem only_positions_change_sample :
    ∃ after exchanged, TradeModule.sampleTrade = .ok (after, exchanged) ∧
      after.world.setToken.totalSupply = 10 ^ 18 := by
  have succeeds : returns TradeModule.sampleTrade (fun _ => true) = true := by
    decide +kernel
  obtain ⟨⟨after, exchanged⟩, returned, _⟩ := exists_of_returns succeeds
  have call : EditCall 4 TradeModule.sampleTradeStart.world after.world :=
    .traded (.trade ⟨4⟩ 5 TradeModule.sampleExchange TradeModule.sampleExchanges "Exchange" 3
      (5 * 10 ^ 17) 7 (4 * 10 ^ 17) [] exchanged returned)
  obtain ⟨_, _, _, _, _, _, edited⟩ := only_positions_change (.single ⟨4, Or.inl call⟩)
  exact ⟨after, exchanged, returned, by rw [edited]; rfl⟩

end Editing

end IndexProtocol

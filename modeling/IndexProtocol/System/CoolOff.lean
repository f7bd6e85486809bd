/-
This file proves that the index modules respect the cool-off periods. The time of
the last trade of a component is written by a trade, which is only let through
once the component's period has passed since that time, and cleared when the
module is initialized; no other function of the modules touches it. So whatever
the manager sets in between, and whatever the rest of the system does, two trades
of a component with no initialization in between are at least as far apart as the
period that the later trade finds.
-/

import IndexProtocol.Library.Pacing
import IndexProtocol.System.IndexTargets
import IndexProtocol.System.TradingCalls
import IndexProtocol.System.WETHTargets

namespace IndexProtocol

open Revert Pacing

/-- The circumstances of a call: its sender and its origin, and the state of the rest of the
system, which may be any. -/
structure IndexCircumstances (Ledger : Type) where
  msgSender : Address
  origin : Address
  execution : Execution Ledger

/-- The resets of an initialization: one for each position of the Set, the newest first. -/
def initializationEvents (setToken : SetToken) : List (Pacing.Event Address) :=
  match setToken.getPositions with
  | .ok positions => (positions.map fun position => .reset position.component).reverse
  | .error _ => []

/-- A loop that resets the record of every position's component. -/
theorem resets_tracked {Info : Type} {record : Info → Address → Nat} {initial : Address → Nat}
    {step : Info → PositionEntry → Outcome Info} {positions : List PositionEntry}
    {start final : Info} {log : List (Pacing.Event Address)}
    (each : ∀ info position next, step info position = .ok next →
      record next = Function.update (record info) position.component 0)
    (tracks : Tracks initial (record start) log)
    (returned : positions.foldlM step start = .ok final) :
    Tracks initial (record final)
      ((positions.map fun position => Event.reset position.component).reverse ++ log) := by
  refine foldlM_seen step (fun seen info => Tracks initial (record info)
    ((seen.map fun position => Event.reset position.component).reverse ++ log)) positions tracks ?_
    returned
  intro seen position rest info next _ tracked stepped
  rw [each info position next stepped, List.map_append, List.reverse_append]
  exact tracked.reset position.component

/-- A call of the manager's own account at a time, in a system where the Set holds wrapped ether
alone. -/
def sampleCircumstances (timestamp : Nat) : IndexCircumstances Unit where
  msgSender := 5
  origin := 5
  execution :=
    let state := SingleIndexModule.sampleIndexState (10 ^ 18)
    { state with
      world := { state.world with
        timestamp := timestamp
        controller := { sampleController with isSet := fun account => account = 2 } } }

/-! ### The general index module -/

namespace GeneralIndexTrading

variable {Ledger : Type}

/-- The functions of the module, with the arguments that are not circumstances. -/
inductive GeneralIndexCall (Ledger : Type)
  | initializeSet
  | startRebalance (newComponents : List Address)
      (newComponentsTargetUnits oldComponentsTargetUnits : List Nat) (positionMultiplier : Nat)
  | setTradeMaximums (components : List Address) (tradeMaximums : List Nat)
  | setExchanges (registry : IntegrationRegistry) (components : List Address)
      (exchangeNames : List String)
  | setCoolOffPeriods (components : List Address) (coolOffPeriods : List Nat)
  | setExchangeData (components : List Address) (exchangeData : List Bytes)
  | setRaiseTargetPercentage (raiseTargetPercentage : Nat)
  | setTraderStatus (traders : List Address) (statuses : List Bool)
  | setAnyoneTrade (status : Bool)
  | raiseAssetTargets
  | trade (protocols : Protocols Ledger) (adapters : IndexAdapters) (component : Address)
      (ethQuantityLimit : Nat)
  | tradeRemainingWETH (protocols : Protocols Ledger) (adapters : IndexAdapters)
      (component : Address) (minComponentReceived : Nat)
  | removeModule

/-- A function of the storage alone, which the trading module inherits. -/
def onStorage (module : GeneralIndexTrading) (storage : GeneralIndexModule) :
    GeneralIndexTrading :=
  { module with toGeneralIndexModule := storage }

/-- What a call leaves of the module's storage. -/
def apply (module : GeneralIndexTrading) :
    IndexCircumstances Ledger × GeneralIndexCall Ledger → Outcome GeneralIndexTrading
  | (circumstances, .initializeSet) => do
    let (storage, _) ← module.toGeneralIndexModule.initializeSet circumstances.msgSender
      circumstances.execution.world
    pure (module.onStorage storage)
  | (circumstances, .startRebalance newComponents newUnits oldUnits positionMultiplier) =>
    module.startRebalance circumstances.msgSender newComponents newUnits oldUnits
      positionMultiplier circumstances.execution.world
  | (circumstances, .setTradeMaximums components tradeMaximums) =>
    module.setTradeMaximums circumstances.msgSender components tradeMaximums
      circumstances.execution.world
  | (circumstances, .setExchanges registry components exchangeNames) =>
    module.setExchanges circumstances.msgSender registry components exchangeNames
      circumstances.execution.world
  | (circumstances, .setCoolOffPeriods components coolOffPeriods) =>
    module.setCoolOffPeriods circumstances.msgSender components coolOffPeriods
      circumstances.execution.world
  | (circumstances, .setExchangeData components exchangeData) =>
    module.setExchangeData circumstances.msgSender components exchangeData
      circumstances.execution.world
  | (circumstances, .setRaiseTargetPercentage raiseTargetPercentage) =>
    module.setRaiseTargetPercentage circumstances.msgSender raiseTargetPercentage
      circumstances.execution.world
  | (circumstances, .setTraderStatus traders statuses) => do
    let storage ← module.toGeneralIndexModule.setTraderStatus circumstances.msgSender traders
      statuses circumstances.execution.world
    pure (module.onStorage storage)
  | (circumstances, .setAnyoneTrade status) => do
    let storage ← module.toGeneralIndexModule.setAnyoneTrade circumstances.msgSender status
      circumstances.execution.world
    pure (module.onStorage storage)
  | (circumstances, .raiseAssetTargets) =>
    module.raiseAssetTargets circumstances.msgSender circumstances.execution.world
  | (circumstances, .trade protocols adapters component ethQuantityLimit) => do
    let (traded, _) ← module.trade circumstances.msgSender circumstances.origin protocols
      adapters component ethQuantityLimit circumstances.execution
    pure traded
  | (circumstances, .tradeRemainingWETH protocols adapters component minComponentReceived) => do
    let (traded, _) ← module.tradeRemainingWETH circumstances.msgSender circumstances.origin
      protocols adapters component minComponentReceived circumstances.execution
    pure traded
  | (_, .removeModule) => pure (module.onStorage module.toGeneralIndexModule.removeModule)

/-- The trade of a component under the period it has. -/
def tradeEvent (module : GeneralIndexTrading) (component : Address) (world : World) :
    Pacing.Event Address :=
  .use component world.timestamp (module.executionInfo component).coolOffPeriod

/-- What a successful call does to the times on record. -/
def events (module : GeneralIndexTrading) :
    IndexCircumstances Ledger × GeneralIndexCall Ledger → List (Pacing.Event Address)
  | (circumstances, .initializeSet) =>
    initializationEvents circumstances.execution.world.setToken
  | (circumstances, .trade _ _ component _) =>
    [module.tradeEvent component circumstances.execution.world]
  | (circumstances, .tradeRemainingWETH _ _ component _) =>
    [module.tradeEvent component circumstances.execution.world]
  | _ => []

/-- The times on record. -/
def lastTrades (executionInfo : Address → TradeExecutionParams) : Address → Nat :=
  TradeExecutionParams.lastTradeTimestamp ∘ executionInfo

variable {module next : GeneralIndexTrading} {msgSender origin component : Address}
  {world : World} {protocols : Protocols Ledger} {adapters : IndexAdapters} {limit : Nat}
  {before after : Execution Ledger}

/-- A new entry for one component. -/
theorem lastTrades_record (executionInfo : Address → TradeExecutionParams) (component : Address)
    (info : TradeExecutionParams) :
    lastTrades (Function.update executionInfo component info) =
      Function.update (lastTrades executionInfo) component info.lastTradeTimestamp :=
  Function.comp_update _ _ _ _

/-- An entry that keeps its time keeps all times. -/
theorem lastTrades_update {executionInfo : Address → TradeExecutionParams}
    {info : TradeExecutionParams}
    (kept : info.lastTradeTimestamp = lastTrades executionInfo component) :
    lastTrades (Function.update executionInfo component info) = lastTrades executionInfo := by
  rw [lastTrades_record, kept, Function.update_eq_self]

theorem setExecutionInfo_lastTrades {Value : Type} {components : List Address}
    {values : List Value}
    {record : Address → Value → TradeExecutionParams → Outcome TradeExecutionParams}
    (kept : ∀ component value info recorded, record component value info = .ok recorded →
      recorded.lastTradeTimestamp = info.lastTradeTimestamp)
    (returned : module.setExecutionInfo msgSender record components values world = .ok next) :
    lastTrades next.executionInfo = lastTrades module.executionInfo := by
  simp only [setExecutionInfo, bind_eq_ok, pure_eq_ok] at returned
  obtain ⟨_, _, _, _, executionInfo, recording, rfl⟩ := returned
  refine foldlM_invariant _ (fun info => lastTrades info = lastTrades module.executionInfo) _
    ?_ _ _ rfl recording
  intro info entry following _ same recorded
  simp only [bind_eq_ok, pure_eq_ok] at recorded
  obtain ⟨single, written, rfl⟩ := recorded
  exact (lastTrades_update (kept _ _ _ _ written)).trans same

theorem startRebalance_lastTrades {newComponents : List Address} {newUnits oldUnits : List Nat}
    {positionMultiplier : Nat}
    (returned : module.startRebalance msgSender newComponents newUnits oldUnits
      positionMultiplier world = .ok next) :
    lastTrades next.executionInfo = lastTrades module.executionInfo := by
  simp only [startRebalance, bind_eq_ok, pure_eq_ok, Prod.exists] at returned
  obtain ⟨_, _, _, _, _, executionInfo, recording, rfl⟩ := returned
  refine foldlM_invariant _ (fun info => lastTrades info = lastTrades module.executionInfo) _
    ?_ _ _ rfl recording
  intro info entry following _ same recorded
  simp only [setTargetUnit, bind_eq_ok, pure_eq_ok] at recorded
  obtain ⟨_, _, rfl⟩ := recorded
  exact Eq.trans (lastTrades_update (by rfl)) same

/-- The time of the trade is recorded with the positions. -/
theorem settleTrade_lastTrades {tradeInfo : TradeInfo} {sent received fee : Nat}
    (returned : module.settleTrade protocols adapters tradeInfo component before =
      .ok (next, after, sent, received, fee)) :
    lastTrades next.executionInfo =
      Function.update (lastTrades module.executionInfo) component after.world.timestamp := by
  simp only [settleTrade, updatePositionStateAndTimestamp, bind_eq_ok, pure_eq_ok, Prod.exists,
    Prod.mk.injEq] at returned
  obtain ⟨_, _, _, _, _, _, _, _, _, ⟨_, _, _, _, _, _, _, _, _, _, _, _, _, _, rfl, rfl, _⟩,
    rfl, rfl, _⟩ := returned
  exact lastTrades_record _ _ _

/-- A component whose parameters are checked is past its period. -/
theorem ready_of_validated
    (valid : module.validateTradeParameters component world = .ok ()) :
    lastTrades module.executionInfo component + (module.executionInfo component).coolOffPeriod ≤
      world.timestamp := by
  simp only [validateTradeParameters, bind_eq_ok, require_eq_ok, exists_const,
    SafeMath.add_eq_ok] at valid
  obtain ⟨_, _, _, ⟨_, rfl⟩, ready, _⟩ := valid
  exact ready

/-- A trade that succeeds comes when the period has passed, and records its time. -/
theorem trade_lastTrades
    (returned : module.trade msgSender origin protocols adapters component limit before =
      .ok (next, after)) :
    lastTrades module.executionInfo component +
        (module.executionInfo component).coolOffPeriod ≤ before.world.timestamp ∧
      lastTrades next.executionInfo =
        Function.update (lastTrades module.executionInfo) component before.world.timestamp := by
  have sameTime := (trade_tradedBy returned).edits.timestamp
  simp only [trade, bind_eq_ok, pure_eq_ok, Prod.exists, Prod.mk.injEq] at returned
  obtain ⟨_, _, _, _, _, valid, _, _, _, _, _, _, _, settling, rfl, rfl⟩ := returned
  exact ⟨ready_of_validated valid, sameTime ▸ settleTrade_lastTrades settling⟩

theorem tradeRemainingWETH_lastTrades
    (returned : module.tradeRemainingWETH msgSender origin protocols adapters component limit
      before = .ok (next, after)) :
    lastTrades module.executionInfo component +
        (module.executionInfo component).coolOffPeriod ≤ before.world.timestamp ∧
      lastTrades next.executionInfo =
        Function.update (lastTrades module.executionInfo) component before.world.timestamp := by
  have sameTime := (tradeRemainingWETH_tradedBy returned).edits.timestamp
  simp only [tradeRemainingWETH, bind_eq_ok, pure_eq_ok, Prod.exists, Prod.mk.injEq] at returned
  obtain ⟨_, _, _, _, _, _, _, _, _, _, _, valid, _, _, _, _, _, _, _, settling, _, _, _, _, _, _,
    rfl, rfl⟩ := returned
  exact ⟨ready_of_validated valid, sameTime ▸ settleTrade_lastTrades settling⟩

/-- The initialization resets what it records the targets of. -/
theorem initializeSet_tracked {storage : GeneralIndexModule} {initialized : World}
    {initial : Address → Nat} {log : List (Pacing.Event Address)}
    (tracks : Tracks initial (lastTrades module.executionInfo) log)
    (returned : module.toGeneralIndexModule.initializeSet msgSender world =
      .ok (storage, initialized)) :
    Tracks initial (lastTrades storage.executionInfo)
      (initializationEvents world.setToken ++ log) := by
  simp only [GeneralIndexModule.initializeSet, bind_eq_ok, pure_eq_ok, Prod.mk.injEq] at returned
  obtain ⟨_, _, _, _, positions, read, executionInfo, recording, _, _, _, _, rfl, _⟩ := returned
  unfold initializationEvents
  rw [read]
  refine resets_tracked (fun info position following stepped => ?_) tracks recording
  simp only [GeneralIndexModule.setInitialTarget, bind_eq_ok, pure_eq_ok] at stepped
  obtain ⟨_, _, _, _, rfl⟩ := stepped
  exact lastTrades_record _ _ _

/-- Every call that succeeds keeps the times on record and the log of the trades in step. -/
theorem apply_tracked {initial : Address → Nat} {log : List (Pacing.Event Address)}
    (tracks : Tracks initial (lastTrades module.executionInfo) log)
    (call : IndexCircumstances Ledger × GeneralIndexCall Ledger)
    (returned : module.apply call = .ok next) :
    Tracks initial (lastTrades next.executionInfo) (module.events call ++ log) := by
  obtain ⟨circumstances, function⟩ := call
  have unchanged : lastTrades next.executionInfo = lastTrades module.executionInfo →
      Tracks initial (lastTrades next.executionInfo) log := fun same => same ▸ tracks
  cases function with
  | initializeSet =>
    simp only [apply, bind_eq_ok, pure_eq_ok, Prod.exists] at returned
    obtain ⟨storage, initialized, initializing, rfl⟩ := returned
    exact initializeSet_tracked tracks initializing
  | startRebalance newComponents newUnits oldUnits positionMultiplier =>
    exact unchanged (startRebalance_lastTrades returned)
  | setTradeMaximums components tradeMaximums =>
    simp only [apply, setTradeMaximums] at returned
    refine unchanged (setExecutionInfo_lastTrades (fun _ _ _ _ recorded => ?_) returned)
    exact (pure_eq_ok _ _).mp recorded ▸ rfl
  | setExchanges registry components exchangeNames =>
    simp only [apply, setExchanges] at returned
    refine unchanged (setExecutionInfo_lastTrades (fun _ _ _ _ recorded => ?_) returned)
    split at recorded
    · simp only [bind_eq_ok, pure_eq_ok] at recorded
      obtain ⟨_, _, rfl⟩ := recorded
      rfl
    · exact (pure_eq_ok _ _).mp recorded ▸ rfl
  | setCoolOffPeriods components coolOffPeriods =>
    simp only [apply, setCoolOffPeriods] at returned
    refine unchanged (setExecutionInfo_lastTrades (fun _ _ _ _ recorded => ?_) returned)
    exact (pure_eq_ok _ _).mp recorded ▸ rfl
  | setExchangeData components exchangeData =>
    simp only [apply, setExchangeData] at returned
    refine unchanged (setExecutionInfo_lastTrades (fun _ _ _ _ recorded => ?_) returned)
    exact (pure_eq_ok _ _).mp recorded ▸ rfl
  | setRaiseTargetPercentage raiseTargetPercentage =>
    simp only [apply, setRaiseTargetPercentage, bind_eq_ok, pure_eq_ok] at returned
    obtain ⟨_, _, _, _, rfl⟩ := returned
    exact tracks
  | setTraderStatus traders statuses =>
    simp only [apply, GeneralIndexModule.setTraderStatus, bind_eq_ok, pure_eq_ok] at returned
    obtain ⟨_, ⟨_, _, _, _, _, _, rfl⟩, rfl⟩ := returned
    exact tracks
  | setAnyoneTrade status =>
    simp only [apply, GeneralIndexModule.setAnyoneTrade, bind_eq_ok, pure_eq_ok] at returned
    obtain ⟨_, ⟨_, _, rfl⟩, rfl⟩ := returned
    exact tracks
  | raiseAssetTargets =>
    simp only [apply, raiseAssetTargets, bind_eq_ok, pure_eq_ok] at returned
    obtain ⟨_, _, _, _, _, _, _, _, _, _, rfl⟩ := returned
    exact tracks
  | trade protocols adapters component limit =>
    simp only [apply, bind_eq_ok, pure_eq_ok, Prod.exists] at returned
    obtain ⟨_, _, trading, rfl⟩ := returned
    obtain ⟨ready, recorded⟩ := trade_lastTrades trading
    exact recorded ▸ tracks.use ready
  | tradeRemainingWETH protocols adapters component limit =>
    simp only [apply, bind_eq_ok, pure_eq_ok, Prod.exists] at returned
    obtain ⟨_, _, trading, rfl⟩ := returned
    obtain ⟨ready, recorded⟩ := tradeRemainingWETH_lastTrades trading
    exact recorded ▸ tracks.use ready
  | removeModule =>
    obtain rfl := (pure_eq_ok _ _).mp returned
    exact tracks

/-- In any run of the module's functions, called by anybody in any circumstances, two trades of a
component with no initialization of it in between are at least as far apart as the cool-off period
that the later one finds. -/
theorem trades_cool_off (start : GeneralIndexTrading)
    (calls : List (IndexCircumstances Ledger × GeneralIndexCall Ledger)) :
    ∀ later middle earlier component first firstPeriod second period,
      (run (recorded apply events) (start, []) calls).2 =
        later ++ .use component second period ::
          (middle ++ .use component first firstPeriod :: earlier) →
      .reset component ∉ middle → first + period ≤ second := by
  intro later middle earlier component first firstPeriod second period split kept
  have tracks : Tracks (lastTrades start.executionInfo)
      (lastTrades (run (recorded apply events) (start, []) calls).1.executionInfo)
      (run (recorded apply events) (start, []) calls).2 := by
    refine run_recorded_invariant apply events (fun recording =>
      Tracks (lastTrades start.executionInfo) (lastTrades recording.1.executionInfo) recording.2)
      ?_ calls (Tracks.start _)
    intro module log call next tracked returned
    exact apply_tracked tracked call returned
  have paced := tracks.paced
  rw [split] at paced
  exact paced.uses_apart kept

/-- An exchange whose call data is for the router of the samples. -/
def sampleAdapters : IndexAdapters where
  getIntegrationAdapter := fun _ _ => 9
  exchangeAdapter := fun _ =>
    { getSpender := 7, getTradeCalldata := fun _ _ _ _ _ _ _ => (7, 0, []) }

/-- Component 8 is bought at 100 and at 200, and in between the manager sets a period of 60. -/
def sampleCalls : List (IndexCircumstances Unit × GeneralIndexCall Unit) :=
  [(sampleCircumstances 100,
      .trade (SingleIndexModule.sellingRouter 20) sampleAdapters 8 30),
    (sampleCircumstances 120, .setCoolOffPeriods [8] [60]),
    (sampleCircumstances 150,
      .trade (SingleIndexModule.sellingRouter 20) sampleAdapters 8 30),
    (sampleCircumstances 200,
      .trade (SingleIndexModule.sellingRouter 20) sampleAdapters 8 30)]

/-- The trade at 150 comes too early, the one at 200 does not. -/
theorem trades_cool_off_sample :
    (run (recorded apply events) (sampleTrading, []) sampleCalls).2 =
        [.use 8 200 60, .use 8 100 0] ∧ 100 + 60 ≤ 200 := by
  have log : (run (recorded apply events) (sampleTrading, []) sampleCalls).2 =
      [.use 8 200 60, .use 8 100 0] := by
    decide +kernel
  exact ⟨log, trades_cool_off sampleTrading sampleCalls [] [] [] 8 100 0 200 60 log
    List.not_mem_nil⟩

end GeneralIndexTrading

/-! ### The single index module -/

namespace SingleIndexModule

variable {Ledger : Type}

/-- The functions of the module, with the arguments that are not circumstances. -/
inductive SingleIndexCall (Ledger : Type)
  | initializeIndex
  | startRebalance (newComponents : List Address)
      (newComponentsTargetUnits oldComponentsTargetUnits : List Nat) (positionMultiplier : Nat)
  | setTradeMaximums (components : List Address) (tradeMaximums : List Nat)
  | setExchanges (components : List Address) (exchanges : List Nat)
  | setCoolOffPeriods (components : List Address) (coolOffPeriods : List Nat)
  | updateTraderStatus (traders : List Address) (statuses : List Bool)
  | updateAnyoneTrade (status : Bool)
  | raiseAssetTargets
  | trade (protocols : Protocols Ledger) (encode : ExchangeCall → Bytes) (component : Address)
  | tradeRemainingWETH (protocols : Protocols Ledger) (encode : ExchangeCall → Bytes)
      (component : Address)

/-- What a call leaves of the module's storage. -/
def apply (module : SingleIndexModule) :
    IndexCircumstances Ledger × SingleIndexCall Ledger → Outcome SingleIndexModule
  | (circumstances, .initializeIndex) => do
    let (initialized, _) ←
      module.initializeIndex circumstances.msgSender circumstances.execution.world
    pure initialized
  | (circumstances, .startRebalance newComponents newUnits oldUnits positionMultiplier) =>
    module.startRebalance circumstances.msgSender newComponents newUnits oldUnits
      positionMultiplier circumstances.execution.world
  | (circumstances, .setTradeMaximums components tradeMaximums) =>
    module.setTradeMaximums circumstances.msgSender components tradeMaximums
      circumstances.execution.world
  | (circumstances, .setExchanges components exchanges) =>
    module.setExchanges circumstances.msgSender components exchanges circumstances.execution.world
  | (circumstances, .setCoolOffPeriods components coolOffPeriods) =>
    module.setCoolOffPeriods circumstances.msgSender components coolOffPeriods
      circumstances.execution.world
  | (circumstances, .updateTraderStatus traders statuses) =>
    module.updateTraderStatus circumstances.msgSender traders statuses
      circumstances.execution.world
  | (circumstances, .updateAnyoneTrade status) =>
    module.updateAnyoneTrade circumstances.msgSender status circumstances.execution.world
  | (circumstances, .raiseAssetTargets) =>
    module.raiseAssetTargets circumstances.msgSender circumstances.execution.world
  | (circumstances, .trade protocols encode component) => do
    let (traded, _) ← module.trade circumstances.msgSender circumstances.origin protocols encode
      component circumstances.execution
    pure traded
  | (circumstances, .tradeRemainingWETH protocols encode component) => do
    let (traded, _) ← module.tradeRemainingWETH circumstances.msgSender circumstances.origin
      protocols encode component circumstances.execution
    pure traded

/-- The trade of a component under the period it has. -/
def tradeEvent (module : SingleIndexModule) (component : Address) (world : World) :
    Pacing.Event Address :=
  .use component world.timestamp (module.assetInfo component).coolOffPeriod

/-- What a successful call does to the times on record. -/
def events (module : SingleIndexModule) :
    IndexCircumstances Ledger × SingleIndexCall Ledger → List (Pacing.Event Address)
  | (circumstances, .initializeIndex) =>
    initializationEvents circumstances.execution.world.setToken
  | (circumstances, .trade _ _ component) =>
    [module.tradeEvent component circumstances.execution.world]
  | (circumstances, .tradeRemainingWETH _ _ component) =>
    [module.tradeEvent component circumstances.execution.world]
  | _ => []

/-- The times on record. -/
def lastTrades (assetInfo : Address → AssetTradeInfo) : Address → Nat :=
  AssetTradeInfo.lastTradeTimestamp ∘ assetInfo

variable {module next : SingleIndexModule} {msgSender origin component : Address}
  {world : World} {protocols : Protocols Ledger} {encode : ExchangeCall → Bytes}
  {before after : Execution Ledger}

/-- A new entry for one component. -/
theorem lastTrades_record (assetInfo : Address → AssetTradeInfo) (component : Address)
    (info : AssetTradeInfo) :
    lastTrades (Function.update assetInfo component info) =
      Function.update (lastTrades assetInfo) component info.lastTradeTimestamp :=
  Function.comp_update _ _ _ _

/-- An entry that keeps its time keeps all times. -/
theorem lastTrades_update {assetInfo : Address → AssetTradeInfo} {info : AssetTradeInfo}
    (kept : info.lastTradeTimestamp = lastTrades assetInfo component) :
    lastTrades (Function.update assetInfo component info) = lastTrades assetInfo := by
  rw [lastTrades_record, kept, Function.update_eq_self]

theorem setAssets_lastTrades {components : List Address} {values : List Nat}
    {record : Nat → AssetTradeInfo → Outcome AssetTradeInfo}
    (kept : ∀ value info recorded, record value info = .ok recorded →
      recorded.lastTradeTimestamp = info.lastTradeTimestamp)
    (returned : module.setAssets msgSender record components values world = .ok next) :
    lastTrades next.assetInfo = lastTrades module.assetInfo := by
  simp only [setAssets, bind_eq_ok, pure_eq_ok] at returned
  obtain ⟨_, _, _, _, assetInfo, recording, rfl⟩ := returned
  refine foldlM_invariant _ (fun info => lastTrades info = lastTrades module.assetInfo) _
    ?_ _ _ rfl recording
  intro info entry following _ same recorded
  simp only [bind_eq_ok, pure_eq_ok] at recorded
  obtain ⟨single, written, rfl⟩ := recorded
  exact (lastTrades_update (kept _ _ _ written)).trans same

/-- Recording the targets of a list of components keeps all times. -/
theorem lastTrades_targets (entries : List (Address × Nat)) :
    ∀ assetInfo, lastTrades (entries.foldl (fun assetInfo (component, targetUnit) =>
      editAsset assetInfo component fun info => { info with targetUnit := targetUnit })
      assetInfo) = lastTrades assetInfo := by
  induction entries with
  | nil => exact fun _ => rfl
  | cons entry rest inductionHypothesis =>
    intro assetInfo
    rw [List.foldl_cons, inductionHypothesis]
    exact lastTrades_update (by rfl)

theorem startRebalance_lastTrades {newComponents : List Address} {newUnits oldUnits : List Nat}
    {positionMultiplier : Nat}
    (returned : module.startRebalance msgSender newComponents newUnits oldUnits
      positionMultiplier world = .ok next) :
    lastTrades next.assetInfo = lastTrades module.assetInfo := by
  simp only [startRebalance, bind_eq_ok] at returned
  obtain ⟨_, _, _, _, _, _, _, _, _, _, written⟩ := returned
  split at written
  · obtain rfl := (pure_eq_ok _ _).mp written
    exact lastTrades_targets _ _
  · cases written

theorem ready_of_validated (valid : module.validateTradeParameters component world = .ok ()) :
    lastTrades module.assetInfo component + (module.assetInfo component).coolOffPeriod ≤
      world.timestamp := by
  simp only [validateTradeParameters, bind_eq_ok, require_eq_ok, exists_const,
    SafeMath.add_eq_ok] at valid
  obtain ⟨_, _, _, ⟨_, rfl⟩, ready⟩ := valid
  exact ready

/-- A trade that succeeds comes when the period has passed, and records its time. -/
theorem trade_lastTrades
    (returned : module.trade msgSender origin protocols encode component before =
      .ok (next, after)) :
    lastTrades module.assetInfo component +
        (module.assetInfo component).coolOffPeriod ≤ before.world.timestamp ∧
      lastTrades next.assetInfo =
        Function.update (lastTrades module.assetInfo) component before.world.timestamp := by
  have sameTime := (trade_tradedBy returned).edits.timestamp
  simp only [trade, bind_eq_ok, pure_eq_ok, Prod.exists, Prod.mk.injEq] at returned
  obtain ⟨_, _, _, _, _, valid, _, _, _, _, _, _, _, rfl, rfl⟩ := returned
  exact ⟨ready_of_validated valid, sameTime ▸ lastTrades_record _ _ _⟩

theorem tradeRemainingWETH_lastTrades
    (returned : module.tradeRemainingWETH msgSender origin protocols encode component before =
      .ok (next, after)) :
    lastTrades module.assetInfo component +
        (module.assetInfo component).coolOffPeriod ≤ before.world.timestamp ∧
      lastTrades next.assetInfo =
        Function.update (lastTrades module.assetInfo) component before.world.timestamp := by
  have sameTime := (tradeRemainingWETH_tradedBy returned).edits.timestamp
  simp only [tradeRemainingWETH, bind_eq_ok, pure_eq_ok, Prod.exists, Prod.mk.injEq] at returned
  obtain ⟨_, _, _, _, _, _, _, _, _, valid, _, _, _, _, _, _, _, _, _, rfl, rfl⟩ := returned
  exact ⟨ready_of_validated valid, sameTime ▸ lastTrades_record _ _ _⟩

theorem initializeIndex_tracked {initialized : World} {initial : Address → Nat}
    {log : List (Pacing.Event Address)}
    (tracks : Tracks initial (lastTrades module.assetInfo) log)
    (returned : module.initializeIndex msgSender world = .ok (next, initialized)) :
    Tracks initial (lastTrades next.assetInfo)
      (initializationEvents world.setToken ++ log) := by
  simp only [initializeIndex, bind_eq_ok, pure_eq_ok, Prod.mk.injEq] at returned
  obtain ⟨_, _, _, _, _, _, positions, read, assetInfo, recording, _, _, rfl, _⟩ := returned
  unfold initializationEvents
  rw [read]
  refine resets_tracked (fun info position following stepped => ?_) tracks recording
  simp only [recordPosition, bind_eq_ok, pure_eq_ok] at stepped
  obtain ⟨_, _, rfl⟩ := stepped
  exact lastTrades_record _ _ _

/-- Every call that succeeds keeps the times on record and the log of the trades in step. -/
theorem apply_tracked {initial : Address → Nat} {log : List (Pacing.Event Address)}
    (tracks : Tracks initial (lastTrades module.assetInfo) log)
    (call : IndexCircumstances Ledger × SingleIndexCall Ledger)
    (returned : module.apply call = .ok next) :
    Tracks initial (lastTrades next.assetInfo) (module.events call ++ log) := by
  obtain ⟨circumstances, function⟩ := call
  have unchanged : lastTrades next.assetInfo = lastTrades module.assetInfo →
      Tracks initial (lastTrades next.assetInfo) log := fun same => same ▸ tracks
  cases function with
  | initializeIndex =>
    simp only [apply, bind_eq_ok, pure_eq_ok, Prod.exists] at returned
    obtain ⟨_, initialized, initializing, rfl⟩ := returned
    exact initializeIndex_tracked tracks initializing
  | startRebalance newComponents newUnits oldUnits positionMultiplier =>
    exact unchanged (startRebalance_lastTrades returned)
  | setTradeMaximums components tradeMaximums =>
    simp only [apply, setTradeMaximums] at returned
    refine unchanged (setAssets_lastTrades (fun _ _ _ recorded => ?_) returned)
    exact (pure_eq_ok _ _).mp recorded ▸ rfl
  | setExchanges components exchanges =>
    simp only [apply, setExchanges] at returned
    refine unchanged (setAssets_lastTrades (fun _ _ _ recorded => ?_) returned)
    split at recorded
    · cases recorded
    · exact (pure_eq_ok _ _).mp recorded ▸ rfl
  | setCoolOffPeriods components coolOffPeriods =>
    simp only [apply, setCoolOffPeriods] at returned
    refine unchanged (setAssets_lastTrades (fun _ _ _ recorded => ?_) returned)
    exact (pure_eq_ok _ _).mp recorded ▸ rfl
  | updateTraderStatus traders statuses =>
    simp only [apply, updateTraderStatus, bind_eq_ok, pure_eq_ok] at returned
    obtain ⟨_, _, _, _, _, _, _, _, _, _, rfl⟩ := returned
    exact tracks
  | updateAnyoneTrade status =>
    simp only [apply, updateAnyoneTrade, bind_eq_ok, pure_eq_ok] at returned
    obtain ⟨_, _, rfl⟩ := returned
    exact tracks
  | raiseAssetTargets =>
    simp only [apply, raiseAssetTargets, bind_eq_ok, pure_eq_ok] at returned
    obtain ⟨_, _, _, _, _, _, _, _, rfl⟩ := returned
    exact tracks
  | trade protocols encode component =>
    simp only [apply, bind_eq_ok, pure_eq_ok, Prod.exists] at returned
    obtain ⟨_, _, trading, rfl⟩ := returned
    obtain ⟨ready, recorded⟩ := trade_lastTrades trading
    exact recorded ▸ tracks.use ready
  | tradeRemainingWETH protocols encode component =>
    simp only [apply, bind_eq_ok, pure_eq_ok, Prod.exists] at returned
    obtain ⟨_, _, trading, rfl⟩ := returned
    obtain ⟨ready, recorded⟩ := tradeRemainingWETH_lastTrades trading
    exact recorded ▸ tracks.use ready

/-- In any run of the module's functions, called by anybody in any circumstances, two trades of a
component with no initialization of it in between are at least as far apart as the cool-off period
that the later one finds. -/
theorem asset_trades_cool_off (start : SingleIndexModule)
    (calls : List (IndexCircumstances Ledger × SingleIndexCall Ledger)) :
    ∀ later middle earlier component first firstPeriod second period,
      (run (recorded apply events) (start, []) calls).2 =
        later ++ .use component second period ::
          (middle ++ .use component first firstPeriod :: earlier) →
      .reset component ∉ middle → first + period ≤ second := by
  intro later middle earlier component first firstPeriod second period split kept
  have tracks : Tracks (lastTrades start.assetInfo)
      (lastTrades (run (recorded apply events) (start, []) calls).1.assetInfo)
      (run (recorded apply events) (start, []) calls).2 := by
    refine run_recorded_invariant apply events (fun recording =>
      Tracks (lastTrades start.assetInfo) (lastTrades recording.1.assetInfo) recording.2)
      ?_ calls (Tracks.start _)
    intro module log call next tracked returned
    exact apply_tracked tracked call returned
  have paced := tracks.paced
  rw [split] at paced
  exact paced.uses_apart kept

/-- Component 8 is bought at 100 and at 200, and in between the manager sets a period of 60. -/
def sampleCalls : List (IndexCircumstances Unit × SingleIndexCall Unit) :=
  [(sampleCircumstances 100, .trade (sellingRouter 55) (fun _ => []) 8),
    (sampleCircumstances 120, .setCoolOffPeriods [8] [60]),
    (sampleCircumstances 150, .trade (sellingRouter 55) (fun _ => []) 8),
    (sampleCircumstances 200, .trade (sellingRouter 55) (fun _ => []) 8)]

/-- The trade at 150 comes too early, the one at 200 does not. -/
theorem asset_trades_cool_off_sample :
    (run (recorded apply events) (sampleIndex, []) sampleCalls).2 =
        [.use 8 200 60, .use 8 100 0] ∧ 100 + 60 ≤ 200 := by
  have log : (run (recorded apply events) (sampleIndex, []) sampleCalls).2 =
      [.use 8 200 60, .use 8 100 0] := by
    decide +kernel
  exact ⟨log, asset_trades_cool_off sampleIndex sampleCalls [] [] [] 8 100 0 200 60 log
    List.not_mem_nil⟩

end SingleIndexModule

end IndexProtocol

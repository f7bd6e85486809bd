/-
This file proves what the list of a Set's perpetual positions says about the
positions the protocol reports. The list never has duplicates, and whenever it is
synced it keeps exactly the members that still count as open. A trade of a listed
token removes it when what is left no longer counts; a trade of an unlisted token
lists it without looking at what the trade leaves. So the list mirrors the
positions along a run exactly when every trade of an unlisted token leaves a
position that counts.
-/

import IndexProtocol.Modules.PerpV2LeverageModuleV2
import IndexProtocol.Protocol.SetTokenCreator

namespace IndexProtocol

open Revert PreciseUnitMath

namespace PerpV2LeverageModuleV2

variable {Ledger : Type} {perp : PerpV2 Ledger} {baseToken msgSender : Address}
  {execution traded paid : PerpExecution Ledger} {module next : PerpV2LeverageModuleV2}

/-! ### Positions that count -/

/-- The base balance per Set token, truncated. -/
def baseBalanceUnit (perp : PerpV2 Ledger) (baseToken : Address)
    (execution : PerpExecution Ledger) : Int :=
  (perp.getBase execution.world.setToken.address baseToken execution.ledger *
    preciseUnit).tdiv execution.world.setToken.totalSupply

/-- The account has a position in the base token that counts as nonzero. -/
def CountsOpen (perp : PerpV2 Ledger) (execution : PerpExecution Ledger) (baseToken : Address) :
    Prop :=
  1 < baseBalanceUnit perp baseToken execution ∨ baseBalanceUnit perp baseToken execution < -1

instance (baseToken : Address) : Decidable (CountsOpen perp execution baseToken) :=
  inferInstanceAs (Decidable (_ ∨ _))

theorem hasBaseBalance_eq_ok {found : Bool}
    (returned : hasBaseBalance perp baseToken execution = .ok found) :
    found = true ↔ CountsOpen perp execution baseToken := by
  simp only [hasBaseBalance, bind_eq_ok, SafeCast.toInt256_eq_ok, pure_eq_ok] at returned
  obtain ⟨_, ⟨_, rfl⟩, _, divided, rfl⟩ := returned
  obtain ⟨_, rfl⟩ := preciseDivInt_eq_ok divided
  unfold CountsOpen baseBalanceUnit
  simp

/-! ### What the functions do to the list -/

/-- A listed token stays while its position counts; an unlisted one is listed. -/
theorem updatePositionList_eq_ok
    (returned : module.updatePositionList perp baseToken execution = .ok next) :
    (baseToken ∈ module.positions ∧ CountsOpen perp execution baseToken ∧ next = module) ∨
    (baseToken ∈ module.positions ∧ ¬CountsOpen perp execution baseToken ∧ ∃ positions,
      positions.Perm (module.positions.erase baseToken) ∧
        next = { module with positions := positions }) ∨
    (baseToken ∉ module.positions ∧
      next = { module with positions := module.positions ++ [baseToken] }) := by
  unfold updatePositionList at returned
  split at returned
  · rename_i listed
    have member := (AddressArrayUtils.contains_eq_true _ _).mp listed
    rw [bind_eq_ok] at returned
    obtain ⟨found, search, updated⟩ := returned
    have counts := hasBaseBalance_eq_ok search
    cases found with
    | true =>
      exact Or.inl ⟨member, counts.mp rfl, ((pure_eq_ok _ _).mp updated).symm⟩
    | false =>
      simp only [if_true, bind_eq_ok, pure_eq_ok] at updated
      obtain ⟨positions, removed, rfl⟩ := updated
      refine Or.inr (Or.inl ⟨member, fun counted => ?_, positions,
        (AddressArrayUtils.removeStorage_eq_ok removed).2, rfl⟩)
      exact Bool.false_ne_true (counts.mpr counted)
  · rename_i unlisted
    simp only [bind_eq_ok, require_eq_ok, exists_const, pure_eq_ok] at returned
    refine Or.inr (Or.inr ⟨fun member => unlisted ?_, returned.2.symm⟩)
    exact (AddressArrayUtils.contains_eq_true _ _).mpr member

/-- Of a list without duplicates, a sync leaves the tokens whose positions count. -/
theorem syncPositionList_eq_ok (nodup : module.positions.Nodup)
    (returned : module.syncPositionList perp execution = .ok next) :
    ∃ positions, next = { module with positions := positions } ∧
      positions.Perm
        (module.positions.filter fun baseToken => CountsOpen perp execution baseToken) := by
  simp only [syncPositionList, bind_eq_ok, pure_eq_ok] at returned
  obtain ⟨positions, looped, rfl⟩ := returned
  refine ⟨positions, rfl, ?_⟩
  have swept := Registry.foldlM_sweep (fun baseToken => CountsOpen perp execution baseToken)
    (syncPosition perp execution) ?_ module.positions module.positions positions nodup looped
  · refine swept.trans (List.Perm.of_eq (List.filter_congr fun baseToken member => ?_))
    simp [member]
  · intro items item remaining stepped
    simp only [syncPosition, bind_eq_ok] at stepped
    obtain ⟨found, search, stepped⟩ := stepped
    have counts := hasBaseBalance_eq_ok search
    cases found with
    | true =>
      rw [if_pos (counts.mp rfl)]
      exact ((pure_eq_ok _ _).mp stepped).symm
    | false =>
      rw [if_neg fun counted => Bool.false_ne_true (counts.mpr counted)]
      exact (AddressArrayUtils.removeStorage_eq_ok stepped).2

theorem executePositionTrades_synced {setTokenQuantity : Nat} {isIssue isSimulation : Bool}
    {unit : Int}
    (returned : module.executePositionTrades perp setTokenQuantity isIssue isSimulation execution =
      .ok (unit, next, traded)) : module.syncPositionList perp execution = .ok next := by
  simp only [executePositionTrades, bind_eq_ok, Prod.exists, pure_eq_ok, Prod.mk.injEq] at returned
  obtain ⟨synced, syncing, _, _, _, _, _, _, _, _, _, _, _, _, _, _, rfl, rfl⟩ := returned
  exact syncing

/-- A hook that proceeds syncs the list first, and trades do not change it. -/
theorem moduleHook_synced {setTokenQuantity : Nat} {isIssue : Bool}
    (returned : module.moduleHook perp msgSender setTokenQuantity isIssue execution =
      .ok (next, paid)) :
    if module.hookProceeds execution.world.setToken = true then
      module.syncPositionList perp execution = .ok next
    else next = module := by
  rcases moduleHook_eq_ok returned with ⟨stops, same, _⟩ | ⟨proceeds, _, _, executed, _⟩
  · rw [if_neg stops]
    exact same
  · rw [if_pos proceeds]
    exact executePositionTrades_synced executed

/-- An adjustment is computed on a synced list. An empty list is not synced, nor has it to be. -/
theorem getAdjustments_synced {setTokenQuantity : Nat} {isIssue : Bool}
    {adjustments : List Int × List Int}
    (returned : module.getAdjustments perp setTokenQuantity isIssue execution =
      .ok (adjustments, next, paid)) : module.syncPositionList perp execution = .ok next := by
  simp only [getAdjustments, bind_eq_ok, Prod.exists, pure_eq_ok, Prod.mk.injEq] at returned
  obtain ⟨_, synced, _, chosen, _, _, _, _, rfl, _⟩ := returned
  split at chosen
  · exact executePositionTrades_synced chosen
  · rename_i empty
    have none : module.positions = [] := List.eq_nil_of_length_eq_zero (by omega)
    rw [pure_eq_ok, Prod.mk.injEq, Prod.mk.injEq] at chosen
    rw [← chosen.2.1, syncPositionList, none, List.foldlM_nil, bind_eq_ok]
    exact ⟨[], rfl, by rw [← none]; rfl⟩

theorem trade_updated {units : Int} {bound : Nat}
    (returned : module.trade perp msgSender baseToken units bound execution = .ok (next, paid)) :
    module.updatePositionList perp baseToken paid = .ok next := by
  simp only [trade, bind_eq_ok, Prod.exists, pure_eq_ok, Prod.mk.injEq] at returned
  obtain ⟨_, _, _, _, _, _, _, _, _, _, _, updated, rfl, rfl⟩ := returned
  exact updated

theorem keepingModule_eq_ok {call : Outcome (PerpExecution Ledger)}
    (returned : module.keepingModule call = .ok (next, paid)) :
    next = module ∧ call = .ok paid := by
  simp only [keepingModule, bind_eq_ok, pure_eq_ok, Prod.mk.injEq] at returned
  obtain ⟨_, called, rfl, rfl⟩ := returned
  exact ⟨rfl, called⟩

/-! ### Runs -/

/-- A call of the module, with the chain and the protocol as it finds them. -/
structure Transaction (Ledger : Type) where
  msgSender : Address
  world : World
  ledger : Ledger
  entryPoint : EntryPoint

/-- The execution a call starts from, which carries the trace along. -/
def Transaction.start (transaction : Transaction Ledger) (events : List FundingEvent) :
    PerpExecution Ledger where
  world := transaction.world
  ledger := transaction.ledger
  events := events

def transact (perp : PerpV2 Ledger) (state : PerpV2LeverageModuleV2 × PerpExecution Ledger)
    (transaction : Transaction Ledger) :
    Outcome (PerpV2LeverageModuleV2 × PerpExecution Ledger) :=
  transaction.entryPoint.call perp transaction.msgSender (transaction.start state.2.events) state.1

/-- The list after a sync has the members of the list before it that counted as open when the
call started. -/
def Synced (perp : PerpV2 Ledger) (transaction : Transaction Ledger)
    (module next : PerpV2LeverageModuleV2) : Prop :=
  next.positions.Perm (module.positions.filter fun baseToken =>
    CountsOpen perp (transaction.start []) baseToken)

/-- What the list has to say after a call that returns: a traded token is listed exactly if its
position still counts, a sync filters the list, removing the module empties it, and the other
functions leave it alone. -/
def Mirrors (perp : PerpV2 Ledger) (transaction : Transaction Ledger)
    (state next : PerpV2LeverageModuleV2 × PerpExecution Ledger) : Prop :=
  match transaction.entryPoint with
  | .trade baseToken _ _ =>
    baseToken ∈ next.1.positions ↔ CountsOpen perp next.2 baseToken
  | .moduleIssueHook _ | .moduleRedeemHook _ =>
    if state.1.hookProceeds transaction.world.setToken = true then
      Synced perp transaction state.1 next.1
    else next.1 = state.1
  | .getIssuanceAdjustments _ | .getRedemptionAdjustments _ =>
    Synced perp transaction state.1 next.1
  | .removeModule => next.1.positions = []
  | _ => next.1 = state.1

/-- A trade of a token that is not listed leaves a position that counts. -/
def LeavesOpen (perp : PerpV2 Ledger) (transaction : Transaction Ledger)
    (state next : PerpV2LeverageModuleV2 × PerpExecution Ledger) : Prop :=
  match transaction.entryPoint with
  | .trade baseToken _ _ =>
    baseToken ∉ state.1.positions → CountsOpen perp next.2 baseToken
  | _ => True

section Step

variable {state after : PerpV2LeverageModuleV2 × PerpExecution Ledger}
  {transaction : Transaction Ledger}

theorem synced_of_syncPositionList (nodup : state.1.positions.Nodup)
    (returned : state.1.syncPositionList perp (transaction.start state.2.events) = .ok next) :
    Synced perp transaction state.1 next := by
  obtain ⟨positions, rfl, filtered⟩ := syncPositionList_eq_ok nodup returned
  exact filtered

/-- What the module's functions do to the list: the list stays without duplicates, and it
mirrors the positions exactly when the call leaves an unlisted token's position open. -/
theorem transact_positions (nodup : state.1.positions.Nodup)
    (returned : transact perp state transaction = .ok after) :
    after.1.positions.Nodup ∧
      (Mirrors perp transaction state after ↔ LeavesOpen perp transaction state after) := by
  obtain ⟨msgSender, world, ledger, entryPoint⟩ := transaction
  have synced : ∀ {next}, Synced perp ⟨msgSender, world, ledger, entryPoint⟩ state.1 next →
      next.positions.Nodup := fun filtered =>
    filtered.nodup_iff.mpr (nodup.filter _)
  have hook : ∀ {isIssue quantity}, state.1.moduleHook perp msgSender quantity isIssue
      ⟨world, ledger, state.2.events⟩ = .ok after → after.1.positions.Nodup ∧
        if state.1.hookProceeds world.setToken = true then
          Synced perp ⟨msgSender, world, ledger, entryPoint⟩ state.1 after.1
        else after.1 = state.1 := by
    intro isIssue quantity hooked
    have result := moduleHook_synced hooked
    split at result
    · rename_i proceeds
      have filtered : Synced perp ⟨msgSender, world, ledger, entryPoint⟩ state.1 after.1 :=
        synced_of_syncPositionList nodup result
      exact ⟨synced filtered, by rwa [if_pos proceeds]⟩
    · rename_i stops
      exact ⟨result ▸ nodup, by rwa [if_neg stops]⟩
  cases entryPoint with
  | trade baseToken units bound =>
    have updated := trade_updated returned
    rcases updatePositionList_eq_ok updated with
      ⟨listed, counts, same⟩ | ⟨listed, closed, positions, erased, same⟩ | ⟨unlisted, same⟩
    · refine ⟨same ▸ nodup, iff_of_true ?_ fun absent => absurd listed absent⟩
      exact iff_of_true (same ▸ listed) counts
    · refine ⟨?_, iff_of_true ?_ fun absent => absurd listed absent⟩
      · rw [same]
        exact erased.nodup_iff.mpr (nodup.erase baseToken)
      · refine iff_of_false ?_ closed
        rw [same]
        exact fun member => nodup.not_mem_erase (erased.mem_iff.mp member)
    · have member : baseToken ∈ after.1.positions := by
        rw [same]
        exact List.mem_append_right _ (List.mem_singleton.mpr rfl)
      refine ⟨?_, ?_⟩
      · rw [same]
        exact List.nodup_append.mpr ⟨nodup, List.nodup_singleton _, fun _ present _ added equal =>
          unlisted (List.mem_singleton.mp added ▸ equal ▸ present)⟩
      · exact ⟨fun mirrors _ => mirrors.mp member,
          fun leaves => iff_of_true member (leaves unlisted)⟩
  | moduleIssueHook quantity | moduleRedeemHook quantity =>
    obtain ⟨stays, result⟩ := hook returned
    exact ⟨stays, iff_of_true result trivial⟩
  | getIssuanceAdjustments quantity | getRedemptionAdjustments quantity =>
    simp only [transact, EntryPoint.call, bind_eq_ok, Prod.exists, pure_eq_ok] at returned
    obtain ⟨_, _, _, _, adjusted, rfl⟩ := returned
    have filtered := synced_of_syncPositionList nodup (getAdjustments_synced adjusted)
    exact ⟨synced filtered, iff_of_true filtered trivial⟩
  | removeModule =>
    simp only [transact, EntryPoint.call, removeModule, bind_eq_ok, pure_eq_ok] at returned
    obtain ⟨_, ⟨_, _, _, _, _, _, _, _, _, _, rfl⟩, rfl⟩ := returned
    exact ⟨List.nodup_nil, iff_of_true rfl trivial⟩
  | deposit units | withdraw units | componentIssueHook quantity component isEquity
  | componentRedeemHook quantity component isEquity =>
    have same := (keepingModule_eq_ok returned).1
    exact ⟨same ▸ nodup, iff_of_true same trivial⟩

end Step

/-- Along a run, whatever the protocol reports, the list has no duplicates, and every call that
returns leaves it mirroring the positions exactly when every trade of an unlisted token leaves a
position that counts as open. -/
theorem positions_mirror_iff (start : PerpV2LeverageModuleV2 × PerpExecution Ledger)
    (nodup : start.1.positions.Nodup) (transactions : List (Transaction Ledger)) :
    (run (transact perp) start transactions).1.positions.Nodup ∧
    ((∀ front transaction next, front ++ [transaction] <+: transactions →
      transact perp (run (transact perp) start front) transaction = .ok next →
        Mirrors perp transaction (run (transact perp) start front) next) ↔
      ∀ front transaction next, front ++ [transaction] <+: transactions →
        transact perp (run (transact perp) start front) transaction = .ok next →
          LeavesOpen perp transaction (run (transact perp) start front) next) := by
  have reached : ∀ front, (run (transact perp) start front).1.positions.Nodup := fun front =>
    run_invariant (transact perp) (fun state => state.1.positions.Nodup) (fun _ => True)
      (fun _ _ _ _ holds returned => (transact_positions holds returned).1) front
      (fun _ _ => trivial) start nodup
  refine ⟨reached transactions, ?_, ?_⟩
  · intro mirrors front transaction next within returned
    exact (transact_positions (reached front) returned).2.mp
      (mirrors front transaction next within returned)
  · intro leaves front transaction next within returned
    exact (transact_positions (reached front) returned).2.mpr
      (leaves front transaction next within returned)

/-! ### A protocol to run on -/

/-- An account with a single market, in which a base token costs one quote token. -/
structure SampleAccount where
  base : Int
  quote : Int
  collateral : Int
  owed : Int
  pending : Int
  deriving DecidableEq

/-- A trade changes the balances and settles what is pending. -/
def SampleAccount.trade (amount : Int) (account : SampleAccount) : SampleAccount :=
  { account with
    base := account.base + amount
    quote := account.quote - amount
    owed := account.owed - account.pending
    pending := 0 }

/-- A settlement of owed payments to the vault, by a withdrawal. -/
def SampleAccount.withdraw (quantity : Int) (account : SampleAccount) : SampleAccount :=
  { account with
    collateral := account.collateral - quantity
    owed := account.owed - account.pending
    pending := 0 }

/-- The vault at account 99 holds the collateral. -/
def sampleMove (asset sender recipient : Address) (quantity : Nat) (world : World) :
    Outcome World :=
  world.callToken asset fun token => token.move sender recipient quantity

theorem sampleMove_onlyBalances {asset sender recipient : Address} {quantity : Nat}
    {world moved : World}
    (returned : sampleMove asset sender recipient quantity world = .ok moved) :
    World.OnlyBalances world moved := by
  obtain ⟨token, called, rfl⟩ := World.callToken_eq_ok returned
  refine World.onlyBalances_storeToken _ _ ?_
  rw [(ERC20.move_eq_ok called).2]

def samplePerp : PerpV2 SampleAccount where
  getBase := fun _ _ account => account.base
  getQuote := fun _ _ account => account.quote
  owedRealizedPnl := fun _ account => account.owed
  getBalance := fun _ account => account.collateral
  getAllPendingFundingPayment := fun _ account => account.pending
  getAccountValue := fun _ account => account.collateral
  hasPool := fun _ _ => true
  openPosition := fun params world account => pure (params.amount, params.amount, world,
    account.trade (if params.isBaseToQuote then -params.amount else params.amount))
  swap := fun params _ _ => pure (params.amount, params.amount)
  deposit := fun asset quantity world account => do
    let moved ← sampleMove asset world.setToken.address 99 quantity world
    pure (moved, { account with collateral := account.collateral + quantity })
  withdraw := fun asset quantity world account => do
    let moved ← sampleMove asset 99 world.setToken.address quantity world
    pure (moved, account.withdraw quantity)
  openPosition_onlyBalances := by
    intro params world account base quote next nextAccount returned
    cases returned
    exact World.OnlyBalances.refl world
  deposit_onlyBalances := by
    intro asset quantity world account next nextAccount returned
    simp only [bind_eq_ok, pure_eq_ok, Prod.mk.injEq] at returned
    obtain ⟨_, moved, rfl, _⟩ := returned
    exact sampleMove_onlyBalances moved
  withdraw_onlyBalances := by
    intro asset quantity world account next nextAccount returned
    simp only [bind_eq_ok, pure_eq_ok, Prod.mk.injEq] at returned
    obtain ⟨_, moved, rfl, _⟩ := returned
    exact sampleMove_onlyBalances moved

/-- The module at account 4 for the collateral at 3, which has six decimals. -/
def sampleModule : PerpV2LeverageModuleV2 where
  address := 4
  collateralToken := 3
  collateralDecimals := 6
  perpVault := 99
  maxPerpPositionsPerSet := 2
  positions := []

/-- One Set token with 1000 of the collateral. The manager is account 6, and account 5 is a
module that issues. -/
def sampleWorld : World where
  timestamp := 0
  controller :=
    { isInitialized := true
      sets := [2]
      isSet := fun account => account = 2
      isFactory := fun _ => false
      isModule := fun account => account = 4 ∨ account = 5
      fees := fun _ _ => 0
      feeRecipient := 9 }
  setToken :=
    { SetToken.construct 2 [3] [1000] [4, 5] 6 with
      totalSupply := 10 ^ 18
      moduleStates := fun _ => .initialized }
  tokens := fun _ =>
    { totalSupply := 2000
      balanceOf := fun _ => 1000
      allowance := fun _ _ => 0 }

def sampleStart : PerpV2LeverageModuleV2 × PerpExecution SampleAccount :=
  (sampleModule, { world := sampleWorld, ledger := ⟨0, 0, 0, 0, 0⟩, events := [] })

/-- A trade of token 20 by the manager, with the position there is. -/
def sampleTrade (base units : Int) : Transaction SampleAccount where
  msgSender := 6
  world := sampleWorld
  ledger := ⟨base, -base, 0, 0, 0⟩
  entryPoint := .trade 20 units 0

/-- A position of ten is opened, sold down to one, which counts as none, and then closed. -/
def sampleTrades : List (Transaction SampleAccount) :=
  [sampleTrade 0 10, sampleTrade 10 (-9), sampleTrade 1 (-1)]

/-- A position of ten is opened, another of six beside it, and the first is closed. -/
def sampleBook : List (Transaction SampleAccount) :=
  [sampleTrade 0 10, { sampleTrade 0 6 with entryPoint := .trade 21 6 0 }, sampleTrade 10 (-10)]

/-- A sample trade of an unlisted token leaves a position that counts as open if it is found to
do so when run. -/
theorem leavesOpen_of_returns {transaction : Transaction SampleAccount} {baseToken : Address}
    {state next : PerpV2LeverageModuleV2 × PerpExecution SampleAccount} {units : Int} {bound : Nat}
    (trades : transaction.entryPoint = .trade baseToken units bound)
    (opens : returns (transact samplePerp state transaction)
      (fun next => decide (CountsOpen samplePerp next.2 baseToken)) = true)
    (returned : transact samplePerp state transaction = .ok next) :
    LeavesOpen samplePerp transaction state next := by
  obtain ⟨other, opened, counts⟩ := exists_of_returns opens
  obtain rfl := Except.ok.inj (returned.symm.trans opened)
  unfold LeavesOpen
  rw [trades]
  exact fun _ => of_decide_eq_true counts

/-- Both trades that open a position leave one that counts as open, so the list mirrors the
positions after every trade: only the second token is left in it. -/
theorem positions_mirror_iff_sample :
    (run (transact samplePerp) sampleStart sampleBook).1.positions = [21] ∧
      ∀ front transaction next, front ++ [transaction] <+: sampleBook →
        transact samplePerp (run (transact samplePerp) sampleStart front) transaction = .ok next →
          Mirrors samplePerp transaction (run (transact samplePerp) sampleStart front) next := by
  refine ⟨by decide +kernel, (positions_mirror_iff sampleStart List.nodup_nil sampleBook).2.mpr
    (met_cons (fun _ => leavesOpen_of_returns rfl (by decide +kernel))
      (met_cons (fun _ => leavesOpen_of_returns rfl (by decide +kernel))
        (met_cons (fun _ _ unlisted => absurd ?_ unlisted) met_nil)))⟩
  decide +kernel

/-- Selling the dust that an earlier trade left lists a token without any position. -/
theorem positions_mirror_fails :
    ¬∀ front transaction next, front ++ [transaction] <+: sampleTrades →
      transact samplePerp (run (transact samplePerp) sampleStart front) transaction = .ok next →
        Mirrors samplePerp transaction (run (transact samplePerp) sampleStart front) next := by
  intro mirrors
  have succeeds : returns (transact samplePerp (run (transact samplePerp) sampleStart
      [sampleTrade 0 10, sampleTrade 10 (-9)]) (sampleTrade 1 (-1)))
      (fun next => decide (next.1.positions = [20]) &&
        decide (¬CountsOpen samplePerp next.2 20)) = true := by
    decide
  obtain ⟨next, returned, closed⟩ := exists_of_returns succeeds
  rw [Bool.and_eq_true, decide_eq_true_iff, decide_eq_true_iff] at closed
  have mirrored : (20 : Address) ∈ next.1.positions ↔ CountsOpen samplePerp next.2 20 :=
    mirrors _ _ next (List.prefix_refl _) returned
  exact closed.2 (mirrored.mp (closed.1 ▸ List.mem_singleton.mpr rfl))

end PerpV2LeverageModuleV2

end IndexProtocol

/-
This file proves where the target units come from. They are kept per asset and
never cleared: a rebalance overwrites only the assets it lists, and removing the
module leaves them in place. So the target of an asset is the one written last,
by a rebalance that listed it or by the initialization that recorded it as a
position, and the latest rebalance decides only about the assets it lists.
-/

import IndexProtocol.System.AuctionHistory

namespace IndexProtocol

open Revert

namespace System

/-- The target of an asset after a list of targets is written. -/
def writeTargets (targets : List (Address × Nat)) (asset : Address) (before : Nat) : Nat :=
  targets.foldl (fun target entry => if entry.1 = asset then entry.2 else target) before

/-- The target that the history, newest event first, wrote last for an asset. -/
def lastTarget : List AuctionEvent → Address → Nat
  | [], _ => 0
  | .initialized targets :: earlier, asset =>
    writeTargets targets asset (lastTarget earlier asset)
  | .started _ _ _ _ targets :: earlier, asset =>
    writeTargets targets asset (lastTarget earlier asset)
  | .endedEarly :: earlier, asset => lastTarget earlier asset

/-- Every stored target is the one written last. -/
def TargetsKept (recording : System × List AuctionEvent) : Prop :=
  ∀ asset, (recording.1.auction.executionInfo asset).targetUnit = lastTarget recording.2 asset

section Writes

variable {Key Value : Type} [DecidableEq Key]

/-- A key that no entry writes keeps its value. -/
theorem foldl_update_of_notMem (entries : List (Key × Value)) (key : Key)
    (fresh : key ∉ entries.map Prod.fst) :
    ∀ stored : Key → Value, entries.foldl (fun stored entry =>
      Function.update stored entry.1 entry.2) stored key = stored key := by
  induction entries with
  | nil => exact fun _ => rfl
  | cons entry rest inductionHypothesis =>
    intro stored
    rw [List.map_cons, List.mem_cons, not_or] at fresh
    rw [List.foldl_cons, inductionHypothesis fresh.2, Function.update_of_ne fresh.1]

/-- A key that one entry writes has the value of that entry. -/
theorem foldl_update_of_mem (entries : List (Key × Value))
    (distinct : (entries.map Prod.fst).Nodup) :
    ∀ (stored : Key → Value), ∀ entry ∈ entries, entries.foldl (fun stored entry =>
      Function.update stored entry.1 entry.2) stored entry.1 = entry.2 := by
  induction entries with
  | nil => exact fun _ entry member => absurd member List.not_mem_nil
  | cons first rest inductionHypothesis =>
    intro stored entry member
    rw [List.map_cons, List.nodup_cons] at distinct
    rw [List.foldl_cons]
    rcases List.mem_cons.mp member with rfl | member
    · rw [foldl_update_of_notMem rest _ distinct.1, Function.update_self]
    · exact inductionHypothesis distinct.2 _ entry member

end Writes

/-- The targets after a loop that writes one entry after the other. -/
theorem targetUnit_foldl {Entry : Type} (asset : Entry → Address)
    (write : AuctionExecutionParams → Entry → AuctionExecutionParams)
    (targetUnit : Entry → Nat) (writes : ∀ params entry,
      (write params entry).targetUnit = targetUnit entry) (entries : List Entry)
    (key : Address) :
    ∀ info : Address → AuctionExecutionParams,
      (entries.foldl (fun info entry => Function.update info (asset entry)
        (write (info (asset entry)) entry)) info key).targetUnit =
      writeTargets (entries.map fun entry => (asset entry, targetUnit entry)) key
        (info key).targetUnit := by
  induction entries with
  | nil => exact fun _ => rfl
  | cons entry rest inductionHypothesis =>
    intro info
    rw [List.foldl_cons, inductionHypothesis, List.map_cons, writeTargets, writeTargets,
      List.foldl_cons]
    by_cases same : key = asset entry
    · subst same
      rw [Function.update_self, writes, if_pos rfl]
    · rw [Function.update_of_ne same, if_neg (Ne.symm same)]

section Targets

variable {system next : System} {events log : List AuctionEvent}

theorem TargetsKept.effect (kept : TargetsKept (system, log)) (effect : Effect system events next) :
    TargetsKept (next, events ++ log) := by
  intro asset
  have before := kept asset
  cases effect with
  | initialized positions read unlocked pending control auction =>
    rw [auction, List.singleton_append, lastTarget, ← before]
    exact targetUnit_foldl PositionEntry.component
      (fun params position => { params with targetUnit := position.unit.toNat })
      (fun position => position.unit.toNat) (fun _ _ => rfl) positions asset _
  | started params active locking nodup lengths auction =>
    rw [auction, List.singleton_append, lastTarget, ← before, List.zip_map_right]
    exact targetUnit_foldl Prod.fst (fun _ entry => entry.2)
      (fun entry : Address × AuctionExecutionParams => entry.2.targetUnit) (fun _ _ => rfl) _
      asset _
  | quiet control auction => rw [auction]; exact before
  | waited seconds fits advanced => rw [advanced]; exact before
  | governed controller replaced => rw [replaced]; exact before
  | managed manager replaced => rw [replaced]; exact before
  | lifecycle module state control auction other => rw [auction]; exact before
  | removed unlocked control auction => rw [auction]; exact before
  | tuned permissionInfo positionMultiplier raiseTargetPercentage changed =>
    rw [changed]; exact before
  | unlocked world auction => rw [auction]; exact before
  | unlockedEarly world auction => rw [auction]; exact before

theorem targetsKept_run (deployed : system.auction = .deployed system.auction.address)
    (transactions : List Transaction) :
    TargetsKept (run (recorded operate observe) (system, []) transactions) := by
  refine run_recorded_invariant operate observe TargetsKept
    (fun _ _ _ _ kept operated => kept.effect (operate_effect operated)) transactions ?_
  intro asset
  rw [deployed]
  rfl

end Targets

/-- After a successful start, every listed asset has the parameters passed for it, and every
other asset the target that was written to it last before, which is also what the quote asset
is then judged against if it is not listed. -/
theorem target_after_startRebalance {system : System}
    (deployed : system.auction = .deployed system.auction.address)
    (transactions : List Transaction) {msgSender : Address} {adapters : Adapters}
    {params : AuctionRebalanceModuleV1.StartRebalanceParams} {next : System}
    (start : (run (recorded operate observe) (system, []) transactions).1.operate
      ⟨msgSender, .startRebalance adapters params⟩ = .ok next) :
    let before := run (recorded operate observe) (system, []) transactions
    let components := before.1.world.setToken.components ++ params.newComponents
    let auctionParams := params.oldComponentsAuctionParams ++ params.newComponentsAuctionParams
    components.length = auctionParams.length ∧
    (∀ entry ∈ components.zip auctionParams,
      next.auction.executionInfo entry.1 = entry.2) ∧
    (∀ asset, asset ∉ components →
      (next.auction.executionInfo asset).targetUnit = lastTarget before.2 asset) ∧
    (params.quoteAsset ∉ components → ∀ target,
      next.auction.getNormalizedTargetUnit next.world params.quoteAsset = .ok target →
        target = lastTarget before.2 params.quoteAsset *
          next.world.setToken.positionMultiplier.toNat / params.initialPositionMultiplier) := by
  intro before components auctionParams
  have kept := targetsKept_run deployed transactions
  simp only [operate] at start
  obtain ⟨_, _, called, rfl⟩ := onAuctionAndWorld_eq_ok start
  obtain ⟨_, _, nodup, lengths, rfl⟩ := AuctionRebalanceModuleV1.startRebalance_eq_ok called
  have listed : (components.zip auctionParams).map Prod.fst = components :=
    List.map_fst_zip lengths.le
  have unlisted : ∀ asset, asset ∉ components →
      ((components.zip auctionParams).foldl (fun info entry =>
        Function.update info entry.1 entry.2) before.1.auction.executionInfo asset).targetUnit =
          lastTarget before.2 asset := by
    intro asset absent
    rw [foldl_update_of_notMem _ _ (by rw [listed]; exact absent)]
    exact kept asset
  refine ⟨lengths, ?_, unlisted, fun absent target normalized => ?_⟩
  · exact foldl_update_of_mem _ (by rw [listed]; exact nodup) _
  · simp only [AuctionRebalanceModuleV1.getNormalizedTargetUnit, bind_eq_ok,
      SafeCast.toUint256_eq_ok, SafeMath.mul_eq_ok, SafeMath.div_eq_ok] at normalized
    obtain ⟨multiplier, cast, _, ⟨_, rfl⟩, _, rfl⟩ := normalized
    rw [cast, Int.toNat_natCast, ← unlisted params.quoteAsset absent]

/-- A first rebalance of the sample lists token 6 with a target of 10. -/
def sampleListing : List Transaction :=
  [⟨5, .initializeAuction⟩,
    ⟨5, .startRebalance sampleAdapters
      { quoteAsset := 4, newComponents := [6], newComponentsAuctionParams := [sampleParams 10]
        oldComponentsAuctionParams := [sampleParams (10 ^ 18)]
        shouldLockSetToken := false, rebalanceDuration := 100
        initialPositionMultiplier := 10 ^ 18 }⟩]

/-- A second one no longer lists it and uses it as the quote asset. -/
def sampleRestart : AuctionRebalanceModuleV1.StartRebalanceParams where
  quoteAsset := 6
  newComponents := []
  newComponentsAuctionParams := []
  oldComponentsAuctionParams := [sampleParams (5 * 10 ^ 17)]
  shouldLockSetToken := false
  rebalanceDuration := 100
  initialPositionMultiplier := 10 ^ 18

theorem target_after_startRebalance_sample :
    ∃ next, (run operate sample sampleListing).operate
        ⟨5, .startRebalance sampleAdapters sampleRestart⟩ = .ok next ∧
      (next.auction.executionInfo 6).targetUnit = 10 := by
  have returned : returns ((run (recorded operate observe) (sample, []) sampleListing).1.operate
      ⟨5, .startRebalance sampleAdapters sampleRestart⟩) (fun _ => true) = true := by decide
  obtain ⟨next, start, _⟩ := exists_of_returns returned
  obtain ⟨_, _, unlisted, _⟩ :=
    @target_after_startRebalance sample rfl sampleListing _ _ _ _ start
  refine ⟨next, ?_, ?_⟩
  · rw [← run_recorded_fst operate observe sampleListing (sample, [])]
    exact start
  · rw [unlisted 6 (by decide)]
    decide

/-- An asset that a start does not list need not have a zero target. -/
theorem stale_target_after_startRebalance :
    ¬∀ (system : System) (transactions : List Transaction) (msgSender : Address)
      (adapters : Adapters) (params : AuctionRebalanceModuleV1.StartRebalanceParams)
      (next : System), system.auction = .deployed system.auction.address →
      (run operate system transactions).operate ⟨msgSender, .startRebalance adapters params⟩ =
        .ok next →
      ∀ asset, asset ∉ (run operate system transactions).world.setToken.components ++
        params.newComponents → (next.auction.executionInfo asset).targetUnit = 0 := by
  intro always
  have returned : returns ((run operate sample sampleListing).operate
      ⟨5, .startRebalance sampleAdapters sampleRestart⟩)
      (fun next => (next.auction.executionInfo 6).targetUnit = 10) = true := by decide
  obtain ⟨next, start, stale⟩ := exists_of_returns returned
  rw [always sample sampleListing 5 sampleAdapters sampleRestart next rfl start 6 (by decide)]
    at stale
  exact absurd stale (by decide)

end System

end IndexProtocol

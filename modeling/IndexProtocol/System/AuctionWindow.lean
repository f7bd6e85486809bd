/-
This file proves that bids happen only inside the window of the newest
rebalance. The window is spread over fields that different calls write: an early
end clears only the duration, removing the module clears all of them, and adding
it leaves them alone. What holds throughout is that a nonzero duration belongs
to the newest event of the history.
-/

import IndexProtocol.System.AuctionHistory

namespace IndexProtocol

open Revert

namespace System

/-- The stored window began in the past, is closed while the module is not initialized, and
unless its duration is zero it is the one that the newest event opened. -/
structure WindowKept (recording : System × List AuctionEvent) : Prop where
  begun : recording.1.auction.rebalanceInfo.rebalanceStartTime ≤ recording.1.world.timestamp
  inactive : recording.1.world.setToken.moduleStates recording.1.auction.address ≠ .initialized →
    recording.1.auction.rebalanceInfo.rebalanceDuration = 0
  newest : recording.1.auction.rebalanceInfo.rebalanceDuration ≠ 0 → ∃ targets earlier,
    recording.2 = .started recording.1.auction.rebalanceInfo.rebalanceStartTime
      recording.1.auction.rebalanceInfo.rebalanceDuration
      recording.1.auction.rebalanceInfo.quoteAsset
      recording.1.auction.rebalanceInfo.rebalanceComponents targets :: earlier

section Window

variable {system next : System} {events log : List AuctionEvent}

/-- A window that is closed is kept closed, whatever events are recorded. -/
theorem WindowKept.closed
    (begun : next.auction.rebalanceInfo.rebalanceStartTime ≤ next.world.timestamp)
    (zero : next.auction.rebalanceInfo.rebalanceDuration = 0) : WindowKept (next, log) :=
  ⟨begun, fun _ => zero, fun nonzero => absurd zero nonzero⟩

/-- What no event changes, time passing and the module's state possibly excepted, is kept. -/
theorem WindowKept.carry (kept : WindowKept (system, log))
    (time : system.world.timestamp ≤ next.world.timestamp)
    (auction : next.auction = system.auction)
    (active : next.world.setToken.moduleStates system.auction.address ≠ .initialized →
      system.world.setToken.moduleStates system.auction.address ≠ .initialized) :
    WindowKept (next, log) := by
  refine ⟨?_, fun inactive => ?_, fun nonzero => ?_⟩
  · rw [auction]
    exact kept.begun.trans time
  · rw [auction] at inactive ⊢
    exact kept.inactive (active inactive)
  · rw [auction] at nonzero ⊢
    exact kept.newest nonzero

theorem WindowKept.effect (kept : WindowKept (system, log)) (effect : Effect system events next) :
    WindowKept (next, events ++ log) := by
  cases effect with
  | quiet control auction =>
    exact kept.carry control.timestamp.ge auction (by rw [control.moduleStates]; exact id)
  | waited seconds fits advanced =>
    subst advanced
    exact kept.carry (Nat.le_add_right _ _) rfl id
  | governed controller replaced =>
    subst replaced
    exact kept.carry le_rfl rfl id
  | managed manager replaced =>
    subst replaced
    exact kept.carry le_rfl rfl id
  | lifecycle module state control auction other =>
    refine kept.carry control.timestamp.ge auction fun inactive => ?_
    by_cases same : system.auction.address = module
    · exact same ▸ other same.symm
    · rw [control.moduleStates] at inactive
      simpa only [withModuleState, Function.update_of_ne same] using inactive
  | removed unlocked control auction =>
    refine WindowKept.closed ?_ ?_ <;> rw [auction]
    · exact Nat.zero_le _
    · rfl
  | initialized positions read unlocked pending control auction =>
    have zero := kept.inactive (pending.trans_ne (by decide))
    refine WindowKept.closed ?_ ?_ <;> rw [auction]
    · exact control.timestamp ▸ kept.begun
    · exact zero
  | started params active locking nodup lengths auction =>
    have same : next.world.timestamp = system.world.timestamp ∧
        next.world.setToken.moduleStates = system.world.setToken.moduleStates := by
      rcases AuctionRebalanceModuleV1.lockSetToken_eq_ok locking with stored | ⟨_, _, _, stored⟩ <;>
        rw [stored] <;> exact ⟨rfl, rfl⟩
    refine ⟨?_, fun inactive => ?_, fun _ => ?_⟩
    · rw [auction, same.1]
    · rw [auction, same.2] at inactive
      exact absurd active inactive
    · rw [auction]
      exact ⟨_, _, rfl⟩
  | tuned permissionInfo positionMultiplier raiseTargetPercentage changed =>
    subst changed
    exact ⟨kept.begun, kept.inactive, kept.newest⟩
  | unlocked world auction =>
    exact kept.carry (by rw [world]) auction (by rw [world]; exact id)
  | unlockedEarly world auction =>
    refine WindowKept.closed ?_ ?_ <;> rw [auction]
    rw [world]
    exact kept.begun

/-- The window is kept along every run of a freshly deployed module. -/
theorem windowKept_run (deployed : system.auction = .deployed system.auction.address)
    (transactions : List Transaction) :
    WindowKept (run (recorded operate observe) (system, []) transactions) := by
  refine run_recorded_invariant operate observe WindowKept
    (fun _ _ _ _ kept operated => kept.effect (operate_effect operated)) transactions ?_
  refine WindowKept.closed ?_ ?_ <;> rw [deployed]
  · exact Nat.zero_le _
  · rfl

end Window

/-- In every run of a freshly deployed module, a bid that succeeds does so while the newest
initialization, start or early end is a start, before that start's duration has passed, on a
component which that start aggregated and which is not its quote asset. -/
theorem bid_within_newest_window {system : System}
    (deployed : system.auction = .deployed system.auction.address)
    (transactions : List Transaction) {msgSender : Address} {adapters : Adapters}
    {component : Address} {componentAmount quoteAssetLimit : Nat} {next : System}
    (bid : (run (recorded operate observe) (system, []) transactions).1.operate
      ⟨msgSender, .bid adapters component componentAmount quoteAssetLimit⟩ = .ok next) :
    ∃ time duration quoteAsset components targets earlier,
      (run (recorded operate observe) (system, []) transactions).2 =
        .started time duration quoteAsset components targets :: earlier ∧
      time ≤ next.world.timestamp ∧ next.world.timestamp < time + duration ∧
      component ∈ components ∧ component ≠ quoteAsset := by
  have kept := windowKept_run deployed transactions
  obtain ⟨world, called, rfl⟩ := onWorld_eq_ok bid
  obtain ⟨_, _, _, _, trade⟩ := AuctionRebalanceModuleV1.bid_eq_ok called
  have control := AuctionRebalanceModuleV1.bid_keepsControl called
  have notEnded := trade.notEnded
  have begun := kept.begun
  obtain ⟨targets, earlier, newest⟩ := kept.newest (by omega)
  refine ⟨_, _, _, _, targets, earlier, newest, ?_, ?_, trade.member, trade.notQuote⟩
  · exact control.timestamp ▸ begun
  · exact control.timestamp ▸ notEnded

theorem bid_within_newest_window_sample :
    ∃ time duration quoteAsset components targets earlier,
      (run (recorded operate observe) (sample, []) sampleStart).2 =
        .started time duration quoteAsset components targets :: earlier ∧
      3 ∈ components ∧ 3 ≠ quoteAsset := by
  have returned : returns ((run (recorded operate observe) (sample, []) sampleStart).1.operate
      ⟨7, .bid sampleAdapters 3 (10 ^ 17) (10 ^ 18)⟩) (fun _ => true) = true := by decide
  obtain ⟨next, bid, _⟩ := exists_of_returns returned
  obtain ⟨_, _, _, _, _, _, newest, _, _, member, notQuote⟩ :=
    @bid_within_newest_window sample rfl sampleStart _ _ _ _ _ _ bid
  exact ⟨_, _, _, _, _, _, newest, member, notQuote⟩

end System

end IndexProtocol

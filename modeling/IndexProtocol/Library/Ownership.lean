/-
This file develops ownership: only the owner's calls change a contract, and the
owner can pass the ownership on. Who owns the contract then depends on the calls
alone, and in a run the calls of others than the owner of the time can be left
out.
-/

import IndexProtocol.Library.Revert

namespace Ownership

open Revert

/-- Who sends a call, and who owns the contract after it if the owner sends it. No successor means
that the owner stays. -/
structure Calls (Action Account : Type) where
  sender : Action → Account
  successor : Action → Option Account

variable {State Action Account : Type} (calls : Calls Action Account)

/-- The owner after a call. -/
def Calls.nextOwner [DecidableEq Account] (owner : Account) (action : Action) : Account :=
  if calls.sender action = owner then (calls.successor action).getD owner else owner

/-- The calls that the owner of the time sends. -/
def Calls.ofOwner [DecidableEq Account] (owner : Account) : List Action → List Action
  | [] => []
  | action :: rest =>
    if calls.sender action = owner then
      action :: ofOwner ((calls.successor action).getD owner) rest
    else ofOwner owner rest

/-- Calls whose successes are the owner's and pass the ownership as they say, and of which the
owner's fail only where they pass nothing. -/
structure Calls.Govern (step : State → Action → Outcome State) (ownerOf : State → Account) :
    Prop where
  succeeds : ∀ {state action next}, step state action = .ok next →
    calls.sender action = ownerOf state ∧
      ownerOf next = (calls.successor action).getD (ownerOf state)
  fails : ∀ {state action failure}, step state action = .error failure →
    calls.sender action = ownerOf state → calls.successor action = none

namespace Calls.Govern

variable {calls} {step : State → Action → Outcome State} {ownerOf : State → Account}

theorem attempt_of_other (govern : calls.Govern step ownerOf) {state : State} {action : Action}
    (other : calls.sender action ≠ ownerOf state) : attempt step state action = state := by
  unfold attempt
  split
  · rename_i returned
    exact absurd (govern.succeeds returned).1 other
  · rfl

variable [DecidableEq Account]

theorem owner_of_attempt (govern : calls.Govern step ownerOf) (state : State) (action : Action) :
    ownerOf (attempt step state action) = calls.nextOwner (ownerOf state) action := by
  unfold attempt Calls.nextOwner
  split
  · rename_i returned
    obtain ⟨sender, owner⟩ := govern.succeeds returned
    rw [if_pos sender, owner]
  · rename_i failed
    split
    · rename_i sender
      rw [govern.fails failed sender, Option.getD_none]
    · rfl

/-- The calls say who owns the contract after a run. -/
theorem owner_of_run (govern : calls.Govern step ownerOf) (actions : List Action) :
    ∀ state, ownerOf (run step state actions) =
      actions.foldl calls.nextOwner (ownerOf state) := by
  induction actions with
  | nil => exact fun _ => rfl
  | cons action rest inductionHypothesis =>
    intro state
    rw [run_cons, inductionHypothesis, govern.owner_of_attempt, List.foldl_cons]

/-- The calls of others than the owner of the time make no difference to a run. -/
theorem run_ofOwner (govern : calls.Govern step ownerOf) (actions : List Action) :
    ∀ state, run step state (calls.ofOwner (ownerOf state) actions) =
      run step state actions := by
  induction actions with
  | nil => exact fun _ => rfl
  | cons action rest inductionHypothesis =>
    intro state
    rw [run_cons, Calls.ofOwner]
    split
    · rename_i sender
      have owner := govern.owner_of_attempt state action
      rw [Calls.nextOwner, if_pos sender] at owner
      rw [run_cons, ← owner, inductionHypothesis]
    · rename_i other
      rw [govern.attempt_of_other other, inductionHypothesis]

end Calls.Govern

end Ownership

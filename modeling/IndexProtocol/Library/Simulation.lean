/-
This file relates calls of two levels. A composite call of a program is made up
of primitive calls of the state underneath, each of which is permitted and
returns; it reaches a state of that level. What the permitted primitive calls
preserve, every composite call preserves, whatever it is.
-/

import IndexProtocol.Library.Revert
import Mathlib.Logic.Relation

namespace Revert

section Reaching

variable {State Action : Type} (step : State → Action → Outcome State)
  (permitted : Action → Prop)

/-- The second state is reached from the first by permitted calls that return. -/
def Reaches : State → State → Prop :=
  Relation.ReflTransGen fun state next =>
    ∃ action, permitted action ∧ step state action = .ok next

namespace Reaches

variable {step permitted} {start state next : State}

theorem refl (state : State) : Reaches step permitted state state :=
  Relation.ReflTransGen.refl

theorem single (action : Action) (allowed : permitted action)
    (returned : step state action = .ok next) : Reaches step permitted state next :=
  Relation.ReflTransGen.single ⟨action, allowed, returned⟩

theorem trans (first : Reaches step permitted start state)
    (second : Reaches step permitted state next) : Reaches step permitted start next :=
  Relation.ReflTransGen.trans first second

theorem mono {wider : Action → Prop} (contained : ∀ action, permitted action → wider action)
    (reached : Reaches step permitted start next) : Reaches step wider start next := by
  refine Relation.ReflTransGen.mono (fun _ _ last => ?_) _ _ reached
  obtain ⟨action, allowed, returned⟩ := last
  exact ⟨action, contained action allowed, returned⟩

/-- What every permitted call preserves holds of all states that are reached. -/
theorem invariant (invariant : State → Prop)
    (preserved : ∀ state action next, permitted action → invariant state →
      step state action = .ok next → invariant next)
    (reached : Reaches step permitted start next) (holds : invariant start) : invariant next := by
  induction reached with
  | refl => exact holds
  | tail _ last inductionHypothesis =>
    obtain ⟨action, allowed, returned⟩ := last
    exact preserved _ action _ allowed inductionHypothesis returned

end Reaches

end Reaching

end Revert

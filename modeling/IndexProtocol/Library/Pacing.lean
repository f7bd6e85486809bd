/-
This file develops cool-off periods: keys that are used at recorded times, where a
use is allowed once the period that is set at the time has passed since the last
recorded use, and where the record of a key can be reset. In a log of such uses,
the newest first, two uses of a key without a reset in between are at least the
later one's period apart.
-/

import IndexProtocol.Library.Directory
import Mathlib.Algebra.GroupWithZero.Nat

namespace Pacing

/-- A key is used at a time under a period, or its record is reset. -/
inductive Event (Key : Type)
  | use (key : Key) (time period : Nat)
  | reset (key : Key)
  deriving DecidableEq

variable {Key : Type}

def Event.key : Event Key → Key
  | .use key _ _ => key
  | .reset key => key

/-- What the event leaves on record. -/
def Event.mark : Event Key → Nat
  | .use _ time _ => time
  | .reset _ => 0

variable [DecidableEq Key] {initial record : Key → Nat} {log : List (Event Key)}

/-- The time on record for a key. -/
def lastUse (initial : Key → Nat) (log : List (Event Key)) : Key → Nat :=
  Directory.latest initial (log.map fun event => .edit event.key event.mark)

/-- Every use came when its period had passed. -/
def Paced (initial : Key → Nat) : List (Event Key) → Prop
  | [] => True
  | .use key time period :: log => lastUse initial log key + period ≤ time ∧ Paced initial log
  | .reset _ :: log => Paced initial log

theorem lastUse_cons (event : Event Key) :
    lastUse initial (event :: log) = Function.update (lastUse initial log) event.key event.mark :=
  Directory.latest_cons _

theorem lastUse_use (key : Key) (time period : Nat) :
    lastUse initial (.use key time period :: log) =
      Function.update (lastUse initial log) key time :=
  lastUse_cons _

theorem lastUse_reset (key : Key) :
    lastUse initial (.reset key :: log) = Function.update (lastUse initial log) key 0 :=
  lastUse_cons _

theorem Paced.of_append {later : List (Event Key)} (paced : Paced initial (later ++ log)) :
    Paced initial log := by
  induction later with
  | nil => exact paced
  | cons event rest inductionHypothesis =>
    cases event with
    | use key time period => exact inductionHypothesis paced.2
    | reset key => exact inductionHypothesis paced

/-- While the record of a key is not reset it never falls behind a use. -/
theorem Paced.le_lastUse {middle : List (Event Key)} {key : Key} {first period : Nat}
    (paced : Paced initial (middle ++ .use key first period :: log))
    (kept : .reset key ∉ middle) :
    first ≤ lastUse initial (middle ++ .use key first period :: log) key := by
  induction middle with
  | nil =>
    rw [List.nil_append, lastUse_use]
    exact Nat.le_of_eq (by rw [Function.update_self])
  | cons event rest inductionHypothesis =>
    rw [List.mem_cons, not_or] at kept
    rw [List.cons_append]
    cases event with
    | use other time next =>
      have before := inductionHypothesis paced.2 kept.2
      rw [lastUse_use]
      by_cases same : key = other
      · subst same
        rw [Function.update_self]
        exact Nat.le_trans (Nat.le_trans before (Nat.le_add_right _ next)) paced.1
      · rw [Function.update_of_ne same]
        exact before
    | reset other =>
      have different : key ≠ other := fun same => kept.1 (same ▸ rfl)
      rw [lastUse_reset, Function.update_of_ne different]
      exact inductionHypothesis paced kept.2

/-- Two uses of a key with no reset of it in between are the later one's period apart. -/
theorem Paced.uses_apart {later middle : List (Event Key)} {key : Key}
    {first firstPeriod second period : Nat}
    (paced : Paced initial
      (later ++ .use key second period :: (middle ++ .use key first firstPeriod :: log)))
    (kept : .reset key ∉ middle) : first + period ≤ second := by
  have recent := paced.of_append
  exact Nat.le_trans (Nat.add_le_add_right (recent.2.le_lastUse kept) period) recent.1

/-- A record that follows a log of paced uses. -/
structure Tracks (initial record : Key → Nat) (log : List (Event Key)) : Prop where
  record : record = lastUse initial log
  paced : Paced initial log

namespace Tracks

theorem start (initial : Key → Nat) : Tracks initial initial [] := ⟨rfl, trivial⟩

theorem use (tracks : Tracks initial record log) {key : Key} {time period : Nat}
    (ready : record key + period ≤ time) :
    Tracks initial (Function.update record key time) (.use key time period :: log) := by
  constructor
  · rw [tracks.record, lastUse_use]
  · exact ⟨tracks.record ▸ ready, tracks.paced⟩

theorem reset (tracks : Tracks initial record log) (key : Key) :
    Tracks initial (Function.update record key 0) (.reset key :: log) :=
  ⟨by rw [tracks.record, lastUse_reset], tracks.paced⟩

end Tracks

end Pacing

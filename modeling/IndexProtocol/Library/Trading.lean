/-
This file bounds what a sequence of trades can move. A trader tracks a part of a
balance and trades it towards a target; each trade is bounded by the distance
that is left, but the tracked part is rebuilt after it, and what the rebuilding
drops becomes surplus. Selling never gives away more than the first distance.
Buying never takes more than it as long as each purchase finds the surplus there
was at first, and then only so many trades can move anything.
-/

import Mathlib.Algebra.Order.Group.Abs
import Mathlib.Tactic.Linarith

namespace Trading

/-- A balance and the part of it that is tracked. -/
structure Account where
  balance : Int
  tracked : Int

namespace Account

/-- The part of the balance that is not tracked. -/
def surplus (account : Account) : Int := account.balance - account.tracked

end Account

/-- A trade of a quantity towards a target. The tracked part is rebuilt from the new balance
and may lose some of it to the surplus. -/
structure Trade (target : Int) (quantity : Nat) (before after : Account) : Prop where
  surplus : before.surplus ≤ after.surplus
  moved : target < before.tracked ∧ (quantity : Int) ≤ before.tracked - target ∧
      after.balance = before.balance - quantity ∨
    before.tracked ≤ target ∧ (quantity : Int) ≤ target - before.tracked ∧
      after.balance = before.balance + quantity

/-- What any trades keep: the surplus has not shrunk, and selling has left the target over the
first surplus. -/
structure Sold (target : Int) (start current : Account) : Prop where
  surplus : start.surplus ≤ current.surplus
  balance : target ≤ start.tracked → target + start.surplus ≤ current.balance

/-- What trades keep whose purchases all find the first surplus: the balance has moved towards
the target over that surplus, by at least one for each trade that moved anything. -/
structure Settled (target : Int) (start current : Account) (trades : Nat) : Prop where
  surplus : start.surplus ≤ current.surplus
  sold : target < start.tracked → target + start.surplus ≤ current.balance ∧
    (trades : Int) ≤ start.balance - current.balance
  bought : start.tracked ≤ target → current.balance ≤ target + start.surplus ∧
    (trades : Int) ≤ current.balance - start.balance

section Trades

variable {target : Int} {quantity trades : Nat} {start current next : Account}

theorem Sold.refl (target : Int) (start : Account) : Sold target start start := by
  refine ⟨le_rfl, fun above => ?_⟩
  unfold Account.surplus
  linarith

theorem Sold.trade (kept : Sold target start current)
    (trade : Trade target quantity current next) : Sold target start next := by
  refine ⟨kept.surplus.trans trade.surplus, fun above => ?_⟩
  have before := kept.surplus
  have balance := kept.balance above
  unfold Account.surplus at *
  rcases trade.moved with ⟨_, bounded, moved⟩ | ⟨_, _, moved⟩
  · linarith
  · linarith [Int.natCast_nonneg quantity]

theorem Settled.refl (target : Int) (start : Account) : Settled target start start 0 := by
  refine ⟨le_rfl, fun above => ⟨?_, by simp⟩, fun below => ⟨?_, by simp⟩⟩
  all_goals
    unfold Account.surplus
    linarith

/-- A purchase that moves something is possible only below the target over the first surplus,
so there is none after sales, and no sale after purchases. -/
theorem Settled.trade (kept : Settled target start current trades)
    (trade : Trade target quantity current next)
    (lossless : 0 < quantity → current.tracked < target → current.surplus ≤ start.surplus) :
    Settled target start next (trades + if 0 < quantity then 1 else 0) := by
  have before := kept.surplus
  refine ⟨before.trans trade.surplus, fun above => ?_, fun below => ?_⟩
  · obtain ⟨floor, count⟩ := kept.sold above
    unfold Account.surplus at *
    rcases trade.moved with ⟨_, bounded, moved⟩ | ⟨_, bounded, moved⟩
    · constructor
      · linarith
      · split <;> omega
    · have nothing : ¬0 < quantity := fun some => by
        have first := lossless some (by omega)
        omega
      rw [if_neg nothing]
      omega
  · obtain ⟨ceiling, count⟩ := kept.bought below
    unfold Account.surplus at *
    rcases trade.moved with ⟨selling, bounded, moved⟩ | ⟨_, bounded, moved⟩
    · exact absurd selling (by linarith)
    · by_cases some : 0 < quantity
      · have first := lossless some (by omega)
        rw [if_pos some]
        omega
      · rw [if_neg some]
        omega

/-- Only so many trades can move something. -/
theorem Settled.trades_le (kept : Settled target start current trades) :
    (trades : Int) ≤ |start.tracked - target| := by
  rcases lt_or_ge target start.tracked with above | below
  · obtain ⟨floor, count⟩ := kept.sold above
    unfold Account.surplus at floor
    rw [abs_of_pos (by linarith)]
    linarith
  · obtain ⟨ceiling, count⟩ := kept.bought below
    unfold Account.surplus at ceiling
    rw [abs_of_nonpos (by linarith)]
    linarith

end Trades

end Trading

/-
This file develops the balances of a token: whatever accounts one looks at,
they hold no more than the supply together. Then no two accounts overflow what
the supply fits into, and moving tokens between accounts, or burning them with
the supply, keeps it that way.
-/

import Mathlib.Algebra.BigOperators.Group.Finset.Piecewise
import Mathlib.Algebra.Order.BigOperators.Group.Finset

namespace Holdings

variable {Account : Type} {balance : Account → Nat} {supply amount : Nat}
  {sender recipient : Account}

/-- No accounts hold more than the supply together. -/
def Within (balance : Account → Nat) (supply : Nat) : Prop :=
  ∀ accounts : Finset Account, accounts.sum balance ≤ supply

theorem within_zero (supply : Nat) : Within (fun _ : Account => 0) supply :=
  fun accounts => accounts.sum_const_zero.trans_le (Nat.zero_le supply)

theorem Within.single (within : Within balance supply) (account : Account) :
    balance account ≤ supply := by
  have alone := within {account}
  rwa [Finset.sum_singleton] at alone

variable [DecidableEq Account]

theorem Within.pair (within : Within balance supply) (different : recipient ≠ sender) :
    balance recipient + balance sender ≤ supply := by
  have both := within {recipient, sender}
  rwa [Finset.sum_pair different] at both

/-- It suffices to look at sets of accounts that contain some given ones. -/
theorem Within.of_superset (kept : Finset Account)
    (larger : ∀ accounts : Finset Account, kept ⊆ accounts → accounts.sum balance ≤ supply) :
    Within balance supply := fun accounts =>
  (Finset.sum_le_sum_of_subset Finset.subset_union_left).trans
    (larger (accounts ∪ kept) Finset.subset_union_right)

/-- An account pays its amount out of the supply. -/
theorem Within.burn (within : Within balance supply) (enough : amount ≤ balance sender) :
    Within (Function.update balance sender (balance sender - amount)) (supply - amount) := by
  refine Within.of_superset {sender} fun accounts contained => ?_
  have member : sender ∈ accounts := contained (Finset.mem_singleton_self sender)
  have whole := within accounts
  rw [← Finset.add_sum_erase accounts balance member] at whole
  rw [Finset.sum_update_of_mem member, ← Finset.erase_eq]
  omega

/-- An account receives an amount that the supply grows by. -/
theorem Within.mint (within : Within balance supply) (recipient : Account) (amount : Nat) :
    Within (Function.update balance recipient (balance recipient + amount)) (supply + amount) := by
  refine Within.of_superset {recipient} fun accounts contained => ?_
  have member : recipient ∈ accounts := contained (Finset.mem_singleton_self recipient)
  have whole := within accounts
  rw [← Finset.add_sum_erase accounts balance member] at whole
  rw [Finset.sum_update_of_mem member, ← Finset.erase_eq]
  omega

/-- An amount moves from one account to another, or to the same. -/
theorem Within.move (within : Within balance supply) (enough : amount ≤ balance sender)
    (recipient : Account) :
    Within (Function.update (Function.update balance sender (balance sender - amount)) recipient
      (Function.update balance sender (balance sender - amount) recipient + amount)) supply := by
  have moved := (within.burn enough).mint recipient amount
  rwa [Nat.sub_add_cancel (enough.trans (within.single sender))] at moved

end Holdings

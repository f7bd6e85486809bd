/-
This file accounts for charges at a rate on the amounts an account receives. A
part of what was received is pending: it is still to be charged for. The charges
are within the rate when, together with the rate on what is pending, they are at
most the rate on everything received. Receiving and charging for what is pending
both keep that, so that no amount is charged for twice.
-/

import Mathlib.Tactic.Linarith
import Mathlib.Tactic.Ring

namespace Charging

structure Account where
  received : Nat
  charged : Nat
  pending : Nat

/-- Over the scale, the charges and the rate on what is pending are at most the rate on all that
was received. -/
def Within (scale rate : Nat) (account : Account) : Prop :=
  account.charged * scale + rate * account.pending ≤ rate * account.received

variable {scale rate : Nat} {account : Account}

/-- An account that has not been charged yet. -/
theorem within_uncharged {received pending : Nat} (least : pending ≤ received) :
    Within scale rate ⟨received, 0, pending⟩ := by
  show 0 * scale + rate * pending ≤ rate * received
  rw [zero_mul, zero_add]
  exact Nat.mul_le_mul_left rate least

theorem Within.charged_le (within : Within scale rate account) :
    account.charged * scale ≤ rate * account.received :=
  (Nat.le_add_right _ _).trans within

/-- At most what is received becomes pending. -/
theorem Within.receive (within : Within scale rate account) {quantity pending : Nat}
    (least : pending ≤ account.pending + quantity) :
    Within scale rate ⟨account.received + quantity, account.charged, pending⟩ := by
  show account.charged * scale + rate * pending ≤ rate * (account.received + quantity)
  calc account.charged * scale + rate * pending
      ≤ account.charged * scale + rate * (account.pending + quantity) :=
        Nat.add_le_add_left (Nat.mul_le_mul_left rate least) _
    _ = account.charged * scale + rate * account.pending + rate * quantity := by ring
    _ ≤ rate * account.received + rate * quantity := Nat.add_le_add_right within _
    _ = rate * (account.received + quantity) := by ring

/-- A charge within the rate on what is pending leaves nothing pending. -/
theorem Within.charge (within : Within scale rate account) {quantity : Nat}
    (least : quantity * scale ≤ rate * account.pending) :
    Within scale rate ⟨account.received, account.charged + quantity, 0⟩ := by
  show (account.charged + quantity) * scale + rate * 0 ≤ rate * account.received
  calc (account.charged + quantity) * scale + rate * 0
      = account.charged * scale + quantity * scale := by ring
    _ ≤ account.charged * scale + rate * account.pending := Nat.add_le_add_left least _
    _ ≤ rate * account.received := within

end Charging

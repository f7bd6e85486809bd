/-
This file models the standard ERC20 token: balances, allowances and the total
supply, moved by checked arithmetic. A transfer moves exactly its amount.
-/

import IndexProtocol.Lib.SafeMath
import Mathlib.Logic.Function.Basic

namespace IndexProtocol

open Revert

structure ERC20 where
  totalSupply : Nat
  balanceOf : Address → Nat
  allowance : Address → Address → Nat

namespace ERC20

/-- Move the amount between two accounts. -/
def move (sender recipient : Address) (amount : Nat) (token : ERC20) : Outcome ERC20 := do
  require (sender ≠ 0) "ERC20: transfer from the zero address"
  require (recipient ≠ 0) "ERC20: transfer to the zero address"
  require (amount ≤ token.balanceOf sender) "ERC20: transfer amount exceeds balance"
  let debited := Function.update token.balanceOf sender (token.balanceOf sender - amount)
  let credit ← SafeMath.add (debited recipient) amount
  pure { token with balanceOf := Function.update debited recipient credit }

def transfer (msgSender recipient : Address) (amount : Nat) (token : ERC20) : Outcome ERC20 :=
  token.move msgSender recipient amount

def transferFrom (msgSender sender recipient : Address) (amount : Nat) (token : ERC20) :
    Outcome ERC20 := do
  let moved ← token.move sender recipient amount
  require (amount ≤ moved.allowance sender msgSender)
    "ERC20: transfer amount exceeds allowance"
  let remaining := moved.allowance sender msgSender - amount
  pure { moved with
    allowance := Function.update moved.allowance sender
      (Function.update (moved.allowance sender) msgSender remaining) }

def approve (msgSender spender : Address) (amount : Nat) (token : ERC20) : Outcome ERC20 := do
  require (msgSender ≠ 0) "ERC20: approve from the zero address"
  require (spender ≠ 0) "ERC20: approve to the zero address"
  pure { token with
    allowance := Function.update token.allowance msgSender
      (Function.update (token.allowance msgSender) spender amount) }

def increaseAllowance (msgSender spender : Address) (addedValue : Nat) (token : ERC20) :
    Outcome ERC20 := do
  let increased ← SafeMath.add (token.allowance msgSender spender) addedValue
  token.approve msgSender spender increased

def decreaseAllowance (msgSender spender : Address) (subtractedValue : Nat) (token : ERC20) :
    Outcome ERC20 := do
  require (subtractedValue ≤ token.allowance msgSender spender)
    "ERC20: decreased allowance below zero"
  token.approve msgSender spender (token.allowance msgSender spender - subtractedValue)

def mint (account : Address) (amount : Nat) (token : ERC20) : Outcome ERC20 := do
  require (account ≠ 0) "ERC20: mint to the zero address"
  let supply ← SafeMath.add token.totalSupply amount
  let balance ← SafeMath.add (token.balanceOf account) amount
  pure { token with
    totalSupply := supply
    balanceOf := Function.update token.balanceOf account balance }

def burn (account : Address) (amount : Nat) (token : ERC20) : Outcome ERC20 := do
  require (account ≠ 0) "ERC20: burn from the zero address"
  require (amount ≤ token.balanceOf account) "ERC20: burn amount exceeds balance"
  let supply ← SafeMath.sub token.totalSupply amount
  pure { token with
    totalSupply := supply
    balanceOf := Function.update token.balanceOf account (token.balanceOf account - amount) }

variable {token next : ERC20}

/-! ### What each operation changes -/

/-- The balances after a transfer: the sender is debited first, then the recipient credited. -/
def movedBalance (token : ERC20) (sender recipient : Address) (amount : Nat) : Address → Nat :=
  let debited := Function.update token.balanceOf sender (token.balanceOf sender - amount)
  Function.update debited recipient (debited recipient + amount)

theorem move_eq_ok {sender recipient : Address} {amount : Nat}
    (moved : token.move sender recipient amount = .ok next) :
    amount ≤ token.balanceOf sender ∧
      next = { token with balanceOf := token.movedBalance sender recipient amount } := by
  simp only [move, bind_eq_ok, require_eq_ok, SafeMath.add_eq_ok, pure_eq_ok, exists_const]
    at moved
  obtain ⟨_, _, enough, _, ⟨_, rfl⟩, rfl⟩ := moved
  exact ⟨enough, rfl⟩

/-- A transfer between other accounts leaves a balance unchanged. -/
theorem movedBalance_other (sender recipient account : Address) (amount : Nat)
    (notSender : account ≠ sender) (notRecipient : account ≠ recipient) :
    token.movedBalance sender recipient amount account = token.balanceOf account := by
  unfold movedBalance
  rw [Function.update_of_ne notRecipient, Function.update_of_ne notSender]

/-- A recipient other than the sender is credited the amount. -/
theorem movedBalance_recipient (sender recipient : Address) (amount : Nat)
    (different : recipient ≠ sender) :
    token.movedBalance sender recipient amount recipient = token.balanceOf recipient + amount := by
  unfold movedBalance
  rw [Function.update_self, Function.update_of_ne different]

/-- Only the sender can lose tokens. -/
theorem le_movedBalance (sender recipient account : Address) (amount : Nat)
    (notSender : account ≠ sender) :
    token.balanceOf account ≤ token.movedBalance sender recipient amount account := by
  by_cases same : account = recipient
  · subst same
    rw [movedBalance_recipient _ _ _ notSender]
    exact Nat.le_add_right _ _
  · rw [movedBalance_other _ _ _ _ notSender same]

theorem transferFrom_eq_ok {msgSender sender recipient : Address} {amount : Nat}
    (moved : token.transferFrom msgSender sender recipient amount = .ok next) :
    amount ≤ token.balanceOf sender ∧ next.totalSupply = token.totalSupply ∧
      next.balanceOf = token.movedBalance sender recipient amount := by
  simp only [transferFrom, bind_eq_ok, require_eq_ok, pure_eq_ok, exists_const] at moved
  obtain ⟨_, first, _, rfl⟩ := moved
  obtain ⟨enough, rfl⟩ := move_eq_ok first
  exact ⟨enough, rfl, rfl⟩

theorem approve_eq_ok {msgSender spender : Address} {amount : Nat}
    (approved : token.approve msgSender spender amount = .ok next) :
    next.totalSupply = token.totalSupply ∧ next.balanceOf = token.balanceOf := by
  simp only [approve, bind_eq_ok, require_eq_ok, pure_eq_ok, exists_const] at approved
  obtain ⟨_, _, rfl⟩ := approved
  exact ⟨rfl, rfl⟩

theorem mint_eq_ok {account : Address} {amount : Nat}
    (minted : token.mint account amount = .ok next) :
    next = { token with
      totalSupply := token.totalSupply + amount
      balanceOf := Function.update token.balanceOf account
        (token.balanceOf account + amount) } := by
  simp only [mint, bind_eq_ok, require_eq_ok, SafeMath.add_eq_ok, pure_eq_ok, exists_const]
    at minted
  obtain ⟨_, _, ⟨_, rfl⟩, _, ⟨_, rfl⟩, rfl⟩ := minted
  rfl

/-- Crediting one account lowers no balance. -/
theorem le_credited (balances : Address → Nat) (account : Address) (amount : Nat)
    (other : Address) :
    balances other ≤ Function.update balances account (balances account + amount) other := by
  by_cases same : other = account
  · subst same
    rw [Function.update_self]
    exact Nat.le_add_right _ _
  · rw [Function.update_of_ne same]

theorem burn_eq_ok {account : Address} {amount : Nat}
    (burned : token.burn account amount = .ok next) :
    amount ≤ token.totalSupply ∧
      next = { token with
        totalSupply := token.totalSupply - amount
        balanceOf := Function.update token.balanceOf account
          (token.balanceOf account - amount) } := by
  simp only [burn, bind_eq_ok, require_eq_ok, SafeMath.sub_eq_ok, pure_eq_ok, exists_const]
    at burned
  obtain ⟨_, _, _, ⟨enough, rfl⟩, rfl⟩ := burned
  exact ⟨enough, rfl⟩

end ERC20

end IndexProtocol

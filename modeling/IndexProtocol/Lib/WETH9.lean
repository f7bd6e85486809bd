/-
This file models the wrapped ether token as far as a contract that wraps and
unwraps ether sees it. Its supply is the ether it holds, so wrapping credits and
unwrapping debits the caller by the same amount as the supply. Its transfers are
those of any standard token, as no balance exceeds the supply.
-/

import IndexProtocol.Lib.ERC20

namespace IndexProtocol

open Revert

namespace WETH9

def deposit (msgSender : Address) (msgValue : Nat) (token : ERC20) : Outcome ERC20 := do
  let held ← SafeMath.add token.totalSupply msgValue
  let balance ← SafeMath.add (token.balanceOf msgSender) msgValue
  pure { token with
    totalSupply := held
    balanceOf := Function.update token.balanceOf msgSender balance }

def withdraw (msgSender : Address) (wad : Nat) (token : ERC20) : Outcome ERC20 := do
  require (wad ≤ token.balanceOf msgSender) ""
  let held ← SafeMath.sub token.totalSupply wad
  pure { token with
    totalSupply := held
    balanceOf := Function.update token.balanceOf msgSender (token.balanceOf msgSender - wad) }

variable {token next : ERC20} {msgSender account : Address} {amount : Nat}

/-- Unwrapping frees the amount of the ether that the token holds. -/
theorem withdraw_totalSupply (withdrawn : withdraw msgSender amount token = .ok next) :
    next.totalSupply + amount = token.totalSupply := by
  simp only [withdraw, bind_eq_ok, SafeMath.sub_eq_ok, pure_eq_ok] at withdrawn
  obtain ⟨_, _, _, ⟨enough, rfl⟩, rfl⟩ := withdrawn
  exact Nat.sub_add_cancel enough

/-- Wrapping and unwrapping change no balance but the caller's. -/
theorem deposit_balanceOf (other : account ≠ msgSender)
    (deposited : deposit msgSender amount token = .ok next) :
    next.balanceOf account = token.balanceOf account := by
  simp only [deposit, bind_eq_ok, pure_eq_ok] at deposited
  obtain ⟨_, _, _, _, rfl⟩ := deposited
  exact Function.update_of_ne other _ _

theorem withdraw_balanceOf (other : account ≠ msgSender)
    (withdrawn : withdraw msgSender amount token = .ok next) :
    next.balanceOf account = token.balanceOf account := by
  simp only [withdraw, bind_eq_ok, pure_eq_ok] at withdrawn
  obtain ⟨_, _, _, _, rfl⟩ := withdrawn
  exact Function.update_of_ne other _ _

end WETH9

end IndexProtocol

/-
This file models contracts with an owner, who alone may call some functions and
may pass the ownership on or give it up.
-/

import IndexProtocol.Lib.SafeMath
import IndexProtocol.Library.Ownership

namespace IndexProtocol

open Revert

structure Ownable where
  owner : Address

namespace Ownable

def onlyOwner (contract : Ownable) (msgSender : Address) : Outcome Unit :=
  require (msgSender = contract.owner) "Ownable: caller is not the owner"

def transferOwnership (msgSender newOwner : Address) (contract : Ownable) : Outcome Ownable := do
  contract.onlyOwner msgSender
  require (newOwner ≠ 0) "Ownable: new owner is the zero address"
  pure { owner := newOwner }

def renounceOwnership (msgSender : Address) (contract : Ownable) : Outcome Ownable := do
  contract.onlyOwner msgSender
  pure { owner := 0 }

end Ownable

inductive OwnershipCall
  | transferOwnership (newOwner : Address)
  | renounceOwnership

namespace OwnershipCall

def apply (contract : Ownable) (msgSender : Address) : OwnershipCall → Outcome Ownable
  | .transferOwnership newOwner => contract.transferOwnership msgSender newOwner
  | .renounceOwnership => contract.renounceOwnership msgSender

/-- The owner that the call of an owner installs, if it succeeds. -/
def successor : OwnershipCall → Option Address
  | .transferOwnership newOwner => if newOwner = 0 then none else some newOwner
  | .renounceOwnership => some 0

variable {call : OwnershipCall} {contract next : Ownable} {msgSender : Address}

theorem apply_eq_ok (returned : call.apply contract msgSender = .ok next) :
    msgSender = contract.owner ∧ next.owner = call.successor.getD contract.owner := by
  cases call with
  | transferOwnership newOwner =>
    simp only [apply, Ownable.transferOwnership, Ownable.onlyOwner, bind_eq_ok, require_eq_ok,
      exists_const, pure_eq_ok] at returned
    obtain ⟨sender, nonzero, rfl⟩ := returned
    rw [successor, if_neg nonzero]
    exact ⟨sender, rfl⟩
  | renounceOwnership =>
    simp only [apply, Ownable.renounceOwnership, Ownable.onlyOwner, bind_eq_ok, require_eq_ok,
      exists_const, pure_eq_ok] at returned
    obtain ⟨sender, rfl⟩ := returned
    exact ⟨sender, rfl⟩

/-- The owner fails only to pass the ownership to nobody. -/
theorem successor_of_error {failure : String}
    (failed : call.apply contract msgSender = .error failure) (sender : msgSender = contract.owner) :
    call.successor = none := by
  cases call with
  | transferOwnership newOwner =>
    rw [successor]
    split
    · rfl
    · rename_i nonzero
      have succeeds : contract.transferOwnership msgSender newOwner = .ok ⟨newOwner⟩ := by
        simp only [Ownable.transferOwnership, Ownable.onlyOwner, bind_eq_ok, require_eq_ok,
          exists_const, pure_eq_ok]
        exact ⟨sender, nonzero, trivial⟩
      cases succeeds.symm.trans failed
  | renounceOwnership =>
    have succeeds : contract.renounceOwnership msgSender = .ok ⟨0⟩ := by
      simp only [Ownable.renounceOwnership, Ownable.onlyOwner, bind_eq_ok, require_eq_ok,
        exists_const, pure_eq_ok]
      exact ⟨sender, trivial⟩
    cases succeeds.symm.trans failed

end OwnershipCall

end IndexProtocol

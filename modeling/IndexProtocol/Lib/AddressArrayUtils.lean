/-
This file models the address array library: the search for an address, the
duplicate check, the removal from an array in memory, which keeps the order, and
the removal from a stored array, which moves the last address into the freed
slot.
-/

import IndexProtocol.Lib.SafeMath
import IndexProtocol.Library.Registry

namespace IndexProtocol

open Revert

namespace AddressArrayUtils

/-- The index of the first occurrence; `none` is the pair `(uint256(-1), false)`. -/
def indexOf (A : List Address) (a : Address) : Option Nat := A.idxOf? a

def contains (A : List Address) (a : Address) : Bool := (indexOf A a).isSome

def hasDuplicate (A : List Address) : Outcome Bool := do
  require (0 < A.length) "A is empty"
  pure (duplicated A)
where
  /-- Whether an entry occurs again later in the array. -/
  duplicated : List Address → Bool
  | [] => false
  | current :: rest => contains rest current || duplicated rest

def remove (A : List Address) (a : Address) : Outcome (List Address) :=
  match indexOf A a with
  | none => .error "Address not in array."
  | some index => pure (A.eraseIdx index)

def removeStorage (A : List Address) (a : Address) : Outcome (List Address) :=
  match indexOf A a with
  | none => .error "Address not in array."
  | some index => pure (Registry.swapPop A index)

def extend (A B : List Address) : List Address := A ++ B

/-- The overloads for the other element types check the same. -/
def validatePairsWithArray {Value : Type} (A : List Address) (B : List Value) :
    Outcome Unit := do
  require (A.length = B.length) "Array length mismatch"
  require (0 < A.length) "Array length must be > 0"
  let duplicate ← hasDuplicate A
  require (duplicate = false) "Cannot duplicate addresses"

@[simp] theorem contains_eq_true (A : List Address) (a : Address) :
    contains A a = true ↔ a ∈ A :=
  List.isSome_idxOf?

@[simp] theorem contains_eq_false (A : List Address) (a : Address) :
    contains A a = false ↔ a ∉ A := by
  rw [← contains_eq_true, Bool.not_eq_true]

theorem duplicated_eq_false (A : List Address) :
    hasDuplicate.duplicated A = false ↔ A.Nodup := by
  induction A with
  | nil => simp [hasDuplicate.duplicated]
  | cons current rest inductionHypothesis =>
    rw [hasDuplicate.duplicated, Bool.or_eq_false_iff, contains_eq_false, inductionHypothesis,
      List.nodup_cons]

/-- The duplicate check passes exactly on the nonempty arrays without duplicates. -/
theorem hasDuplicate_eq_ok_false (A : List Address) :
    hasDuplicate A = .ok false ↔ 0 < A.length ∧ A.Nodup := by
  simp only [hasDuplicate, bind_eq_ok, require_eq_ok, pure_eq_ok, exists_const,
    duplicated_eq_false]

/-- Removing an address from an array in memory erases it. -/
theorem remove_eq_ok {A B : List Address} {a : Address} (removed : remove A a = .ok B) :
    a ∈ A ∧ B = A.erase a := by
  unfold remove at removed
  cases found : indexOf A a with
  | none => rw [found] at removed; cases removed
  | some index =>
    rw [found] at removed
    obtain rfl := (pure_eq_ok _ _).mp removed
    unfold indexOf at found
    refine ⟨List.isSome_idxOf?.mp (by rw [found, Option.isSome_some]), ?_⟩
    rw [List.erase_eq_eraseIdx, found]

theorem removeStorage_eq_ok_iff (A B : List Address) (a : Address) :
    removeStorage A a = .ok B ↔
      ∃ index, A.idxOf? a = some index ∧ Registry.swapPop A index = B := by
  unfold removeStorage indexOf
  cases A.idxOf? a with
  | none => simp
  | some index => simp

/-- Removing a stored address erases it, up to the order of the others. -/
theorem removeStorage_eq_ok {A B : List Address} {a : Address}
    (removed : removeStorage A a = .ok B) : a ∈ A ∧ B.Perm (A.erase a) := by
  obtain ⟨index, found, rfl⟩ := (removeStorage_eq_ok_iff A B a).mp removed
  exact ⟨List.isSome_idxOf?.mp (by rw [found, Option.isSome_some]),
    Registry.swapPop_perm_erase A a index found⟩

end AddressArrayUtils

end IndexProtocol

/-
This file develops the bookkeeping of accounts: a list of the keys of the open
accounts, and an amount for every key, which is zero for an account that is not
open. Setting the amount of an open account, opening an account and closing one
keep it that way, and change the total by the difference of the amounts.
-/

import Mathlib.Algebra.BigOperators.Group.List.Basic
import Mathlib.Logic.Function.Basic

namespace Accounts

variable {Key Value : Type} [DecidableEq Key]

/-- Every open account is listed once, and the others are empty. -/
structure Kept [Zero Value] (opened : List Key) (amount : Key → Value) : Prop where
  nodup : opened.Nodup
  closed : ∀ key, key ∉ opened → amount key = 0

/-! ### Setting the amount of one account -/

section Set

variable [Zero Value] {opened : List Key} {amount : Key → Value} {key : Key}

/-- An account that is not empty is open. -/
theorem Kept.mem_of_ne_zero (kept : Kept opened amount) (nonzero : amount key ≠ 0) :
    key ∈ opened := by
  by_contra absent
  exact nonzero (kept.closed key absent)

theorem Kept.set (kept : Kept opened amount) (member : key ∈ opened) (value : Value) :
    Kept opened (Function.update amount key value) where
  nodup := kept.nodup
  closed other absent := by
    have different : other ≠ key := fun same => absent (same ▸ member)
    rw [Function.update_of_ne different]
    exact kept.closed other absent

theorem Kept.push (kept : Kept opened amount) (fresh : key ∉ opened) (value : Value) :
    Kept (opened ++ [key]) (Function.update amount key value) where
  nodup := by
    refine List.nodup_append.mpr ⟨kept.nodup, List.pairwise_singleton _ key, ?_⟩
    intro present member added equal same
    exact fresh (List.mem_singleton.mp equal ▸ same ▸ member)
  closed other absent := by
    rw [List.mem_append, List.mem_singleton, not_or] at absent
    rw [Function.update_of_ne absent.2]
    exact kept.closed other absent.1

theorem Kept.erase (kept : Kept opened amount) :
    Kept (opened.erase key) (Function.update amount key 0) where
  nodup := kept.nodup.erase key
  closed other absent := by
    by_cases same : other = key
    · rw [same, Function.update_self]
    · rw [Function.update_of_ne same]
      exact kept.closed other fun member => absent ((List.mem_erase_of_ne same).mpr member)

end Set

/-! ### The total -/

section Total

variable {opened : List Key} {amount : Key → Value} {key : Key}

/-- Accounts other than the one that is set keep their amounts. -/
theorem map_update_of_not_mem (absent : key ∉ opened) (value : Value) :
    opened.map (Function.update amount key value) = opened.map amount := by
  refine List.map_congr_left fun other member => ?_
  have different : other ≠ key := fun same => absent (same ▸ member)
  exact Function.update_of_ne different _ _

variable [AddCommMonoid Value]

theorem sum_push (fresh : key ∉ opened) (value : Value) :
    ((opened ++ [key]).map (Function.update amount key value)).sum =
      (opened.map amount).sum + value := by
  rw [List.map_append, List.sum_append, map_update_of_not_mem fresh, List.map_singleton,
    List.sum_singleton, Function.update_self]

theorem Kept.add_sum_erase (kept : Kept opened amount) (member : key ∈ opened) (value : Value) :
    amount key + ((opened.erase key).map (Function.update amount key value)).sum =
      (opened.map amount).sum := by
  rw [map_update_of_not_mem kept.nodup.not_mem_erase]
  exact List.sum_map_erase amount member

theorem Kept.add_sum_set (kept : Kept opened amount) (member : key ∈ opened) (value : Value) :
    amount key + (opened.map (Function.update amount key value)).sum =
      value + (opened.map amount).sum := by
  have updated := List.sum_map_erase (Function.update amount key value) member
  rw [Function.update_self] at updated
  rw [← updated, ← kept.add_sum_erase member value, add_left_comm]

end Total

end Accounts

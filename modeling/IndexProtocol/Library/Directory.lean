/-
This file develops directories: tables from keys to values in which zero stands
for a missing entry, written by additions, replacements and removals that are
guarded by what the key holds. A log of the writes, the newest first, determines
the table: a key holds what its newest write stored. In a log that the guards let
pass, additions and removals of one key alternate, with replacements in between.
-/

import IndexProtocol.Library.Revert
import Mathlib.Logic.Function.Basic

namespace Directory

/-- An entry is added, replaced or removed. -/
inductive Write (Key Value : Type)
  | add (key : Key) (value : Value)
  | edit (key : Key) (value : Value)
  | remove (key : Key)

variable {Key Value : Type}

def Write.key : Write Key Value → Key
  | .add key _ => key
  | .edit key _ => key
  | .remove key => key

variable [Zero Value]

/-- What the write leaves under its key. -/
def Write.stored : Write Key Value → Value
  | .add _ value => value
  | .edit _ value => value
  | .remove _ => 0

/-- An addition asks for a free key, the other writes for a taken one. -/
def Write.Guarded (current : Value) : Write Key Value → Prop
  | .add _ _ => current = 0
  | .edit _ _ => current ≠ 0
  | .remove _ => current ≠ 0

variable [DecidableEq Key] {initial : Key → Value} {log : List (Write Key Value)}

/-- What the newest write of a key stored, or what the key held at the start. -/
def latest (initial : Key → Value) : List (Write Key Value) → Key → Value
  | [], key => initial key
  | write :: log, key => if write.key = key then write.stored else latest initial log key

/-- A log in which every write met its guard. -/
def Coherent (initial : Key → Value) : List (Write Key Value) → Prop
  | [] => True
  | write :: log => write.Guarded (latest initial log write.key) ∧ Coherent initial log

/-- The table that a log leaves. -/
theorem latest_cons (write : Write Key Value) :
    latest initial (write :: log) =
      Function.update (latest initial log) write.key write.stored := by
  funext key
  unfold latest
  by_cases same : write.key = key
  · subst same
    rw [if_pos rfl, Function.update_self]
  · rw [if_neg same, Function.update_of_ne fun equal => same equal.symm]

/-- When only entries are stored, a key is free exactly when its newest write is a removal, or when
it was free at the start and is named by no write. -/
theorem latest_eq_zero_iff {key : Key}
    (stored : ∀ write ∈ log, write.stored = 0 → write = .remove write.key) :
    latest initial log key = 0 ↔
      (∃ later earlier, log = later ++ .remove key :: earlier ∧ ∀ write ∈ later, write.key ≠ key) ∨
        initial key = 0 ∧ ∀ write ∈ log, write.key ≠ key := by
  induction log with
  | nil =>
    constructor
    · exact fun free => Or.inr ⟨free, fun _ member => absurd member List.not_mem_nil⟩
    · rintro (⟨later, earlier, split, _⟩ | ⟨free, _⟩)
      · exact absurd split (by simp)
      · exact free
  | cons write rest inductionHypothesis =>
    rw [latest]
    by_cases same : write.key = key
    · rw [if_pos same]
      constructor
      · intro none
        left
        refine ⟨[], rest, ?_, fun _ member => absurd member List.not_mem_nil⟩
        rw [List.nil_append, stored write List.mem_cons_self none, same]
      · rintro (⟨later, earlier, split, unnamed⟩ | ⟨_, unnamed⟩)
        · cases later with
          | nil =>
            obtain ⟨rfl, _⟩ := List.cons.inj split
            rfl
          | cons first later =>
            obtain ⟨rfl, _⟩ := List.cons.inj split
            exact absurd same (unnamed _ List.mem_cons_self)
        · exact absurd same (unnamed _ List.mem_cons_self)
    · rw [if_neg same, inductionHypothesis fun other member =>
        stored other (List.mem_cons_of_mem _ member)]
      constructor
      · rintro (⟨later, earlier, rfl, unnamed⟩ | ⟨free, unnamed⟩)
        · exact Or.inl ⟨write :: later, earlier, rfl, List.forall_mem_cons.mpr ⟨same, unnamed⟩⟩
        · exact Or.inr ⟨free, List.forall_mem_cons.mpr ⟨same, unnamed⟩⟩
      · rintro (⟨later, earlier, split, unnamed⟩ | ⟨free, unnamed⟩)
        · cases later with
          | nil =>
            obtain ⟨rfl, _⟩ := List.cons.inj split
            exact absurd rfl same
          | cons first later =>
            obtain ⟨rfl, rfl⟩ := List.cons.inj split
            exact Or.inl ⟨later, earlier, rfl, (List.forall_mem_cons.mp unnamed).2⟩
        · exact Or.inr ⟨free, (List.forall_mem_cons.mp unnamed).2⟩

/-! ### Tables of two keys -/

section Pairs

variable {First Second : Type} [DecidableEq First] [DecidableEq Second]
  {table : First → Second → Value} {origin : First × Second → Value}
  {writes : List (Write (First × Second) Value)}

/-- A nested table holds what a log of guarded writes leaves. -/
structure Records (origin : First × Second → Value) (table : First → Second → Value)
    (writes : List (Write (First × Second) Value)) : Prop where
  table : ∀ key : First × Second, table key.1 key.2 = latest origin writes key
  coherent : Coherent origin writes

theorem Records.start (table : First → Second → Value) :
    Records (fun key => table key.1 key.2) table [] :=
  ⟨fun _ => rfl, trivial⟩

/-- A guarded write keeps that. -/
theorem Records.write (records : Records origin table writes) (write : Write (First × Second) Value)
    (guarded : write.Guarded (table write.key.1 write.key.2)) :
    Records origin (Function.update table write.key.1
      (Function.update (table write.key.1) write.key.2 write.stored)) (write :: writes) := by
  refine ⟨fun key => ?_, records.table write.key ▸ guarded, records.coherent⟩
  rw [latest_cons]
  by_cases same : write.key = key
  · subst same
    rw [Function.update_self, Function.update_self, Function.update_self]
  · rw [Function.update_of_ne fun equal => same equal.symm, ← records.table key]
    by_cases first : key.1 = write.key.1
    · have second : key.2 ≠ write.key.2 := fun equal => same (Prod.ext first.symm equal.symm)
      rw [first, Function.update_self, Function.update_of_ne second]
    · rw [Function.update_of_ne first]

end Pairs

end Directory

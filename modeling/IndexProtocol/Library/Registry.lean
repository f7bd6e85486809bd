/-
This file develops arrays that list the members of a set, each once and in no
particular order: appending a new member, and removing a member by overwriting
it with the last element and shortening the array by one. The removal changes
the order of what remains, so its result is described up to permutation: it is
the array with that one element erased. A loop over a copy of the array that
removes the members failing a test leaves those that pass it. Where the set is
kept as a flag for each item, the array and the flags mirror each other; every
operation that changes both in step keeps that.
-/

import IndexProtocol.Library.Revert
import Mathlib.Data.List.Perm.Basic
import Mathlib.Data.Set.Insert
import Mathlib.Logic.Function.Basic

namespace Registry

variable {Item : Type}

/-- Overwrite the element at the index with the last one and drop the last one. -/
def swapPop (items : List Item) (index : Nat) : List Item :=
  match items.getLast? with
  | none => []
  | some last =>
    if index ≠ items.length - 1 then (items.set index last).dropLast else items.dropLast

/-- Up to the order, the result is the array without the element at the index. -/
theorem swapPop_perm_eraseIdx (items : List Item) (index : Nat) (bound : index < items.length) :
    (swapPop items index).Perm (items.eraseIdx index) := by
  have nonempty : items ≠ [] := List.ne_nil_of_length_pos (Nat.zero_lt_of_lt bound)
  obtain ⟨front, last, rfl⟩ := (List.eq_nil_or_concat items).resolve_left nonempty
  rw [List.concat_eq_append] at bound ⊢
  have length : (front ++ [last]).length - 1 = front.length := by simp
  unfold swapPop
  rw [List.getLast?_concat]
  simp only [length]
  by_cases final : index = front.length
  · subst final
    rw [if_neg (not_not.mpr rfl), List.dropLast_concat,
      List.eraseIdx_eq_dropLast (by simp), List.dropLast_concat]
  · have inside : index < front.length := by
      rw [List.length_append, List.length_singleton] at bound
      omega
    rw [if_pos final, List.set_append_left _ _ inside, List.dropLast_concat,
      List.eraseIdx_append_of_lt_length inside]
    exact (List.set_perm_cons_eraseIdx inside last).trans (List.perm_append_singleton _ _).symm

variable [DecidableEq Item]

/-- At the index of an element, the result is a permutation of the array with it erased. -/
theorem swapPop_perm_erase (items : List Item) (item : Item) (index : Nat)
    (found : items.idxOf? item = some index) : (swapPop items index).Perm (items.erase item) := by
  obtain ⟨bound, _⟩ := List.idxOf?_eq_some_iff.mp found
  rw [List.erase_eq_eraseIdx, found]
  exact swapPop_perm_eraseIdx items index bound

/-! ### Two arrays that are removed from separately -/

section Pairs

variable {Key Value : Type}

/-- A removal looks at the places of an array alone. -/
theorem map_swapPop (label : Key → Value) (keys : List Key) (index : Nat) :
    (swapPop keys index).map label = swapPop (keys.map label) index := by
  unfold swapPop
  rw [List.getLast?_map]
  cases keys.getLast? with
  | none => rfl
  | some last =>
    simp only [Option.map_some, List.length_map]
    split
    · rw [List.map_dropLast, List.map_set]
    · rw [List.map_dropLast]

/-- A fresh key and its value are appended together. -/
theorem map_update_push [DecidableEq Key] (label : Key → Value) {keys : List Key} {key : Key}
    (fresh : key ∉ keys) (value : Value) :
    (keys ++ [key]).map (Function.update label key value) = keys.map label ++ [value] := by
  rw [List.map_append, List.map_singleton, Function.update_self]
  refine congrArg (· ++ [value]) (List.map_congr_left fun other member => ?_)
  exact Function.update_of_ne (ne_of_mem_of_not_mem member fresh) value label

theorem length_swapPop (values : List Value) (index : Nat) :
    (swapPop values index).length = values.length - 1 := by
  unfold swapPop
  cases ending : values.getLast? with
  | none => rw [List.getLast?_eq_none_iff.mp ending, List.length_nil]
  | some last =>
    simp only
    split
    · rw [List.length_dropLast, List.length_set]
    · rw [List.length_dropLast]

/-- The last element fills the freed place and the others stay in theirs. -/
theorem getElem?_swapPop (values : List Value) (index : Nat) {place : Nat}
    (bound : place < values.length - 1) :
    (swapPop values index)[place]? =
      if place = index then values.getLast? else values[place]? := by
  unfold swapPop
  cases ending : values.getLast? with
  | none =>
    rw [List.getLast?_eq_none_iff.mp ending] at bound
    exact absurd bound (Nat.not_lt_zero _)
  | some last =>
    simp only
    split
    · rw [List.getElem?_dropLast, List.length_set, if_pos bound, List.getElem?_set]
      grind
    · rename_i final
      rw [not_not] at final
      rw [List.getElem?_dropLast, if_pos bound, if_neg (by omega)]

/-- Where the freed place holds the last element's equal, the array is cut short by one. -/
theorem swapPop_of_last {values : List Value} {index : Nat}
    (same : values[index]? = values.getLast?) : swapPop values index = values.dropLast := by
  unfold swapPop
  cases ending : values.getLast? with
  | none => rw [List.getLast?_eq_none_iff.mp ending, List.dropLast_nil]
  | some last =>
    obtain ⟨bound, equal⟩ := List.getElem?_eq_some_iff.mp (same.trans ending)
    simp only
    split
    · rw [← equal, List.set_getElem_self]
    · rfl

/-- Two removals at different places give one array exactly when both places hold the last
element's equal. -/
theorem swapPop_eq_iff {values : List Value} {first second : Nat} (different : first ≠ second)
    (firstBound : first < values.length) (secondBound : second < values.length) :
    swapPop values first = swapPop values second ↔
      values[first]? = values.getLast? ∧ values[second]? = values.getLast? := by
  -- A place that only one of the removals fills with the last element holds its equal.
  have filled : ∀ {freed other : Nat}, freed ≠ other → freed < values.length →
      swapPop values freed = swapPop values other → values[freed]? = values.getLast? := by
    intro freed other apart bound equal
    rcases eq_or_ne freed (values.length - 1) with final | inside
    · rw [List.getLast?_eq_getElem?, final]
    · have place : freed < values.length - 1 := by omega
      have read := congrArg (fun array => array[freed]?) equal
      simp only [getElem?_swapPop values _ place, if_true, if_neg apart] at read
      exact read.symm
  constructor
  · exact fun equal => ⟨filled different firstBound equal,
      filled (Ne.symm different) secondBound equal.symm⟩
  · rintro ⟨firstLast, secondLast⟩
    rw [swapPop_of_last firstLast, swapPop_of_last secondLast]

variable [DecidableEq Key] [DecidableEq Value]

/-- The value is removed where its key is, or from an equal pair's place that an equal value
fills: the key is paired with the value, which is also the last one. -/
def RemovesPair (keys : List Key) (values : List Value) (key : Key) (value : Value) : Prop :=
  values.idxOf? value = keys.idxOf? key ∨
    (key, value) ∈ keys.zip values ∧ values.getLast? = some value

/-- Removals of several values, each with its key, from the arrays the earlier ones leave. -/
def RemovesPairs (keyOf : Value → Key) : List Value → List Key → List Value → Prop
  | [], _, _ => True
  | value :: rest, keys, values =>
    RemovesPair keys values (keyOf value) value ∧
      ∀ keyIndex valueIndex, keys.idxOf? (keyOf value) = some keyIndex →
        values.idxOf? value = some valueIndex →
          RemovesPairs keyOf rest (swapPop keys keyIndex) (swapPop values valueIndex)

/-- Values that are the labels of their keys stay so when a key and a value are removed, each
from its own array, exactly when the removals take out one pair. -/
theorem map_swapPop_iff (label : Key → Value) {keys : List Key} {key : Key} {value : Value}
    {keyIndex valueIndex : Nat} (keyFound : keys.idxOf? key = some keyIndex)
    (valueFound : (keys.map label).idxOf? value = some valueIndex) :
    swapPop (keys.map label) valueIndex = (swapPop keys keyIndex).map label ↔
      RemovesPair keys (keys.map label) key value := by
  obtain ⟨keyBound, keyAt, keyFirst⟩ := List.idxOf?_eq_some_iff.mp keyFound
  obtain ⟨valueBound, valueAt, _⟩ := List.idxOf?_eq_some_iff.mp valueFound
  unfold RemovesPair
  rw [map_swapPop, keyFound, valueFound, Option.some_inj]
  rcases eq_or_ne valueIndex keyIndex with same | different
  · exact iff_of_true (congrArg _ same) (Or.inl same)
  · have paired : (key, value) ∈ keys.zip (keys.map label) ↔ label key = value := by
      rw [← List.map_prod_left_eq_zip, List.mem_map]
      constructor
      · rintro ⟨_, _, equal⟩
        obtain ⟨same, labelled⟩ := Prod.mk.inj equal
        exact same ▸ labelled
      · exact fun equal => ⟨key, keyAt ▸ List.getElem_mem keyBound, by rw [equal]⟩
    rw [swapPop_eq_iff different valueBound (by rwa [List.length_map]), paired,
      or_iff_right different, List.getElem?_eq_getElem valueBound, valueAt,
      List.getElem?_map, List.getElem?_eq_getElem keyBound, keyAt, Option.map_some]
    constructor
    · exact fun ⟨last, equal⟩ => ⟨Option.some_inj.mp (equal.trans last.symm), last.symm⟩
    · exact fun ⟨equal, last⟩ => ⟨last.symm, by rw [equal, last]⟩

end Pairs

/-! ### Groups listed one after the other -/

section Groups

variable {Item Entry : Type} [DecidableEq Item]

/-- Of the groups of the items of an array without duplicates, listed one after the other, the
entries of one item are its group if the array has the item, and none otherwise. -/
theorem filter_flatMap_key (key : Entry → Item) (group : Item → List Entry)
    (keyed : ∀ item, ∀ entry ∈ group item, key entry = item) (wanted : Item) (items : List Item)
    (nodup : items.Nodup) : (items.flatMap group).filter (fun entry => key entry = wanted) =
      if wanted ∈ items then group wanted else [] := by
  induction items with
  | nil => rfl
  | cons item rest inductionHypothesis =>
    obtain ⟨fresh, distinct⟩ := List.nodup_cons.mp nodup
    rw [List.flatMap_cons, List.filter_append, inductionHypothesis distinct]
    by_cases same : item = wanted
    · subst same
      rw [if_neg fresh, if_pos List.mem_cons_self, List.append_nil, List.filter_eq_self]
      exact fun entry member => decide_eq_true (keyed item entry member)
    · have none : (group item).filter (fun entry => key entry = wanted) = [] := by
        rw [List.filter_eq_nil_iff]
        intro entry member
        rw [decide_eq_true_iff, keyed item entry member]
        exact same
      rw [none, List.nil_append]
      simp [Ne.symm same]

end Groups

/-! ### Arrays that list a set -/

/-- The array has exactly the members of the set, each once. -/
structure Lists {Item : Type} (items : List Item) (members : Set Item) : Prop where
  nodup : items.Nodup
  mem_iff : ∀ item, item ∈ items ↔ item ∈ members

namespace Lists

variable {Item : Type} {items : List Item} {members others : Set Item}

theorem congr (lists : Lists items members) (same : ∀ item, item ∈ members ↔ item ∈ others) :
    Lists items others :=
  ⟨lists.nodup, fun item => (lists.mem_iff item).trans (same item)⟩

theorem push (lists : Lists items members) {item : Item} (fresh : item ∉ items) :
    Lists (items ++ [item]) (insert item members) := by
  refine ⟨?_, fun other => ?_⟩
  · refine List.nodup_append.mpr ⟨lists.nodup, List.pairwise_singleton _ item, ?_⟩
    intro present member appended equal equalPair
    rw [List.mem_singleton] at equal
    exact fresh (equal ▸ equalPair ▸ member)
  · rw [List.mem_append, List.mem_singleton, lists.mem_iff, Set.mem_insert_iff, or_comm]

theorem remove [DecidableEq Item] (lists : Lists items members) {item : Item}
    {remaining : List Item} (erased : remaining.Perm (items.erase item)) :
    Lists remaining (members \ {item}) := by
  refine ⟨erased.nodup_iff.mpr (lists.nodup.erase item), fun other => ?_⟩
  rw [erased.mem_iff, lists.nodup.mem_erase_iff, lists.mem_iff, Set.mem_sdiff,
    Set.mem_singleton_iff, and_comm]

end Lists

/-! ### Sweeping -/

section Sweep

open Revert

variable {Item : Type} [DecidableEq Item] (keeps : Item → Prop) [DecidablePred keeps]

/-- A loop that removes each item failing the test leaves, of an array without duplicates, what
passes it and what the loop does not visit. -/
theorem foldlM_sweep (step : List Item → Item → Outcome (List Item))
    (removes : ∀ items item next, step items item = .ok next →
      if keeps item then next = items else next.Perm (items.erase item))
    (visited : List Item) :
    ∀ items swept : List Item, items.Nodup → visited.foldlM step items = .ok swept →
      swept.Perm (items.filter fun item => keeps item ∨ item ∉ visited) := by
  induction visited with
  | nil =>
    intro items swept _ returned
    obtain rfl := (pure_eq_ok _ _).mp returned
    simp
  | cons item rest inductionHypothesis =>
    intro items swept nodup returned
    rw [List.foldlM_cons, bind_eq_ok] at returned
    obtain ⟨next, stepped, looped⟩ := returned
    have removed := removes items item next stepped
    split at removed
    · rename_i kept
      subst removed
      refine (inductionHypothesis next swept nodup looped).trans (List.Perm.of_eq ?_)
      refine List.filter_congr fun other _ => ?_
      by_cases same : other = item
      · simp [same, kept]
      · simp [same]
    · rename_i dropped
      have erased :=
        inductionHypothesis next swept (removed.nodup_iff.mpr (nodup.erase item)) looped
      refine (erased.trans (removed.filter _)).trans (List.Perm.of_eq ?_)
      rw [nodup.erase_eq_filter, List.filter_filter]
      refine List.filter_congr fun other _ => ?_
      by_cases same : other = item
      · simp [same, dropped]
      · simp [same]

end Sweep

/-! ### Arrays that mirror flags -/

/-- The array has exactly the items whose flag is set, each once. -/
def Mirrors {Item : Type} (items : List Item) (flags : Item → Bool) : Prop :=
  Lists items {item | flags item = true}

namespace Mirrors

variable {Item : Type} {items remaining : List Item} {flags : Item → Bool}

theorem nodup (mirrors : Mirrors items flags) : items.Nodup := Lists.nodup mirrors

theorem mem_iff (mirrors : Mirrors items flags) (item : Item) :
    item ∈ items ↔ flags item = true :=
  Lists.mem_iff mirrors item

theorem notMem_iff (mirrors : Mirrors items flags) (item : Item) :
    item ∉ items ↔ flags item = false := by
  rw [mirrors.mem_iff, Bool.not_eq_true]

theorem empty : Mirrors ([] : List Item) fun _ => false :=
  ⟨List.nodup_nil, fun _ => iff_of_false List.not_mem_nil Bool.false_ne_true⟩

variable [DecidableEq Item]

/-- A fresh item enters the array and its flag is set. -/
theorem push (mirrors : Mirrors items flags) {item : Item} (fresh : item ∉ items) :
    Mirrors (items ++ [item]) (Function.update flags item true) := by
  refine (Lists.push mirrors fresh).congr fun other => ?_
  rw [Set.mem_insert_iff, Set.mem_ofPred_eq, Set.mem_ofPred_eq]
  rcases eq_or_ne other item with rfl | different
  · rw [Function.update_self]
    exact iff_of_true (Or.inl rfl) rfl
  · rw [Function.update_of_ne different]
    exact or_iff_right different

/-- A loop that flags items, each of which must be fresh, lists them. -/
theorem foldlM_push {step : (Item → Bool) → Item → Revert.Outcome (Item → Bool)}
    {flagged : Item → Bool} (items : List Item)
    (flags : ∀ before item after, step before item = .ok after →
      before item = false ∧ after = Function.update before item true)
    (returned : items.foldlM step (fun _ => false) = .ok flagged) : Mirrors items flagged := by
  refine Revert.foldlM_seen step Mirrors items .empty ?_ returned
  intro seen item rest before after _ mirrors stepped
  obtain ⟨fresh, rfl⟩ := flags before item after stepped
  exact mirrors.push ((mirrors.notMem_iff item).mpr fresh)

/-- An item leaves the array and its flag is cleared. -/
theorem remove (mirrors : Mirrors items flags) {item : Item}
    (erased : remaining.Perm (items.erase item)) :
    Mirrors remaining (Function.update flags item false) := by
  refine (Lists.remove mirrors erased).congr fun other => ?_
  rw [Set.mem_sdiff, Set.mem_singleton_iff, Set.mem_ofPred_eq, Set.mem_ofPred_eq]
  rcases eq_or_ne other item with rfl | different
  · rw [Function.update_self]
    exact iff_of_false (fun both => both.2 rfl) Bool.false_ne_true
  · rw [Function.update_of_ne different]
    exact and_iff_left different

/-- Setting a flag that has the value already changes nothing. -/
theorem update_same (mirrors : Mirrors items flags) {item : Item} {status : Bool}
    (same : item ∈ items ↔ status = true) : Mirrors items (Function.update flags item status) := by
  refine Lists.congr mirrors fun other => ?_
  rw [Set.mem_ofPred_eq, Set.mem_ofPred_eq]
  rcases eq_or_ne other item with rfl | different
  · rw [Function.update_self, ← mirrors.mem_iff]
    exact same
  · rw [Function.update_of_ne different]

/-- Clearing one by one the flags of a list that contains every flagged item clears all of
them. -/
theorem foldl_update_false (items : List Item) :
    ∀ flags : Item → Bool, (∀ item, flags item = true → item ∈ items) →
      items.foldl (fun flags item => Function.update flags item false) flags = fun _ => false := by
  induction items with
  | nil =>
    intro flags listed
    exact funext fun item =>
      Bool.eq_false_iff.mpr fun flagged => List.not_mem_nil (listed item flagged)
  | cons first rest inductionHypothesis =>
    intro flags listed
    refine inductionHypothesis _ fun item flagged => ?_
    have still : Function.update flags first false item = true := flagged
    rcases eq_or_ne item first with rfl | different
    · rw [Function.update_self] at still
      exact absurd still Bool.false_ne_true
    · rw [Function.update_of_ne different] at still
      exact (List.mem_cons.mp (listed item still)).resolve_left different

theorem clear (mirrors : Mirrors items flags) :
    items.foldl (fun flags item => Function.update flags item false) flags = fun _ => false :=
  foldl_update_false items flags fun item => (mirrors.mem_iff item).mpr

end Mirrors

end Registry

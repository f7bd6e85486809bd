/-
This file proves when the splitter keeps clear of pools that do not exist. The
size of a missing pool is read as a balance of the zero address, so the exchange
that lacks the pool gets a share of the trade as soon as the zero address holds
enough of the measured token. Both sizes always add up to the whole trade.
-/

import IndexProtocol.Product.AMMSplitter

namespace IndexProtocol

open Revert PreciseUnitMath Rounding AMMSplitter

/-! ### The sizes by the length of the path -/

/-- The ratio of both exchanges over two hops, with the rounding of each step. -/
def twoHopRatio (uniLiqPoolA uniLiqPoolB sushiLiqPoolA sushiLiqPoolB : Nat) : Nat :=
  (sushiLiqPoolA + sushiLiqPoolB) * preciseUnit / (uniLiqPoolA + uniLiqPoolB) *
    (uniLiqPoolA * preciseUnit / sushiLiqPoolA) / preciseUnit *
      (uniLiqPoolB * preciseUnit / sushiLiqPoolB) / preciseUnit

theorem calculateTwoHopRatio_eq_ok {uniLiqPoolA uniLiqPoolB sushiLiqPoolA sushiLiqPoolB : Nat}
    {ratio : Nat}
    (returned : calculateTwoHopRatio uniLiqPoolA uniLiqPoolB sushiLiqPoolA sushiLiqPoolB =
      .ok ratio) :
    ratio = twoHopRatio uniLiqPoolA uniLiqPoolB sushiLiqPoolA sushiLiqPoolB := by
  simp only [calculateTwoHopRatio, bind_eq_ok, SafeMath.add_eq_ok, preciseDiv_eq_ok,
    preciseMul_eq_ok] at returned
  obtain ⟨_, ⟨_, rfl⟩, _, ⟨_, rfl⟩, _, ⟨_, _, rfl⟩, _, ⟨_, _, rfl⟩, _, ⟨_, _, rfl⟩, _,
    ⟨_, rfl⟩, _, rfl⟩ := returned
  rfl

/-- The first exchange gets the part of the whole, as a percentage that is rounded down. -/
structure SplitBy (size part whole : Nat) (tradeInfo : SplitTradeInfo) : Prop where
  wholePositive : 0 < whole
  uniSize : tradeInfo.uniSize = size * (part * preciseUnit / whole) / preciseUnit
  adds : tradeInfo.uniSize + tradeInfo.sushiSize = size

theorem SplitBy.of_returned {size part whole uniPercentage : Nat} {tradeInfo : SplitTradeInfo}
    (percentage : preciseDiv part whole = .ok uniPercentage)
    (returned : splitSize size uniPercentage = .ok tradeInfo) :
    SplitBy size part whole tradeInfo := by
  obtain ⟨_, positive, rfl⟩ := (preciseDiv_eq_ok _ _ _).mp percentage
  obtain ⟨uniSize, adds⟩ := splitSize_eq_ok returned
  exact ⟨positive, uniSize, adds⟩

namespace SplitBy

variable {size part whole : Nat} {tradeInfo : SplitTradeInfo}

theorem uniSize_eq_zero_iff (split : SplitBy size part whole tradeInfo) :
    tradeInfo.uniSize = 0 ↔
      size = 0 ∨ part * preciseUnit < preciseUnit ⌈/⌉ size * whole := by
  rw [split.uniSize]
  exact mul_div_div_eq_zero_iff preciseUnit_pos split.wholePositive

theorem sushiSize_eq_zero_iff (split : SplitBy size part whole tradeInfo)
    (bounded : part ≤ whole) : tradeInfo.sushiSize = 0 ↔ size = 0 ∨ part = whole := by
  have adds := split.adds
  have rate : part * preciseUnit / whole ≤ preciseUnit :=
    Nat.div_le_of_le_mul (Nat.mul_le_mul_right _ bounded)
  have all : tradeInfo.sushiSize = 0 ↔ tradeInfo.uniSize = size := by omega
  rw [all, split.uniSize, mul_div_eq_self_iff preciseUnit_pos rate]
  refine or_congr_right ⟨fun full => bounded.antisymm ?_, ?_⟩
  · have covers := (Nat.le_div_iff_mul_le split.wholePositive).mp full.ge
    rw [mul_comm] at covers
    exact Nat.le_of_mul_le_mul_right covers preciseUnit_pos
  · rintro rfl
    exact Nat.mul_div_cancel_left _ split.wholePositive

end SplitBy

section Sizes

variable {State : Type} {splitter : AMMSplitter State} {size : Nat} {state : State}
variable {tradeInfo : SplitTradeInfo} {first second third : Address}

theorem getTradeSizes_two
    (returned : splitter.getTradeSizes [first, second] size state = .ok tradeInfo) :
    SplitBy size (splitter.getTokenBalanceInPair splitter.uni first second state)
      (splitter.getTokenBalanceInPair splitter.uni first second state +
        splitter.getTokenBalanceInPair splitter.sushi first second state) tradeInfo := by
  simp only [getTradeSizes, bind_eq_ok, readAt_eq_ok, List.length_cons, List.length_nil,
    List.getElem?_cons_zero, List.getElem?_cons_succ, Option.some.injEq, exists_eq_left',
    if_true, SafeMath.add_eq_ok] at returned
  obtain ⟨_, ⟨_, rfl⟩, _, percentage, split⟩ := returned
  exact .of_returned percentage split

/-- Over two hops, empty pools on an exchange give the whole trade to the other one, the
first exchange being looked at first. -/
theorem getTradeSizes_three
    (returned : splitter.getTradeSizes [first, second, third] size state = .ok tradeInfo) :
    let uniLiqPoolA := splitter.getTokenBalanceInPair splitter.uni first second state
    let uniLiqPoolB := splitter.getTokenBalanceInPair splitter.uni third second state
    let sushiLiqPoolA := splitter.getTokenBalanceInPair splitter.sushi first second state
    let sushiLiqPoolB := splitter.getTokenBalanceInPair splitter.sushi third second state
    let ratio := twoHopRatio uniLiqPoolA uniLiqPoolB sushiLiqPoolA sushiLiqPoolB
    ((uniLiqPoolA = 0 ∨ uniLiqPoolB = 0) ∧ tradeInfo = ⟨0, size⟩) ∨
      (¬(uniLiqPoolA = 0 ∨ uniLiqPoolB = 0) ∧ (sushiLiqPoolA = 0 ∨ sushiLiqPoolB = 0) ∧
        tradeInfo = ⟨size, 0⟩) ∨
      (¬(uniLiqPoolA = 0 ∨ uniLiqPoolB = 0) ∧ ¬(sushiLiqPoolA = 0 ∨ sushiLiqPoolB = 0) ∧
        SplitBy size ratio (ratio + preciseUnit) tradeInfo) := by
  intro uniLiqPoolA uniLiqPoolB sushiLiqPoolA sushiLiqPoolB ratio
  have hops : ¬[first, second, third].length = 2 := by simp
  simp only [getTradeSizes, bind_eq_ok, readAt_eq_ok, List.getElem?_cons_zero,
    List.getElem?_cons_succ, Option.some.injEq, exists_eq_left', if_neg hops] at returned
  by_cases uniEmpty : uniLiqPoolA = 0 ∨ uniLiqPoolB = 0
  · rw [if_pos uniEmpty, pure_eq_ok] at returned
    exact Or.inl ⟨uniEmpty, returned.symm⟩
  · rw [if_neg uniEmpty] at returned
    by_cases sushiEmpty : sushiLiqPoolA = 0 ∨ sushiLiqPoolB = 0
    · rw [if_pos sushiEmpty, pure_eq_ok] at returned
      exact Or.inr (Or.inl ⟨uniEmpty, sushiEmpty, returned.symm⟩)
    · rw [if_neg sushiEmpty] at returned
      simp only [bind_eq_ok, SafeMath.add_eq_ok] at returned
      obtain ⟨_, ratioReturned, _, ⟨_, rfl⟩, _, percentage, shares⟩ := returned
      obtain rfl := calculateTwoHopRatio_eq_ok ratioReturned
      exact Or.inr (Or.inr ⟨uniEmpty, sushiEmpty, .of_returned percentage shares⟩)

end Sizes

/-! ### Missing pairs -/

/-- The tokens whose pairs with the second token a path needs. -/
def pairedTokens : List Address → List Address
  | [first, _] => [first]
  | [first, _, third] => [first, third]
  | _ => []

section Pools

variable {State : Type} (splitter : AMMSplitter State) (exchange : Exchange State)
variable (path : List Address) (state : State)

/-- The pools that a path needs on an exchange, measured in its second token. -/
def poolSizes : List Nat :=
  path[1]?.elim [] fun measured =>
    (pairedTokens path).map fun paired =>
      splitter.getTokenBalanceInPair exchange paired measured state

def Lacks : Prop :=
  ∃ measured ∈ path[1]?, ∃ paired ∈ pairedTokens path, exchange.getPair state paired measured = 0

def Complete : Prop :=
  (∀ measured ∈ path[1]?, ∀ paired ∈ pairedTokens path,
    exchange.getPair state paired measured ≠ 0) ∧
    ∀ pool ∈ poolSizes splitter exchange path state, 0 < pool

end Pools

/-- What the first exchange gets, as a part of a whole, when no pool is empty. -/
def uniPart : List Nat → List Nat → Nat × Nat
  | [uniLiqPool], [sushiLiqPool] => (uniLiqPool, uniLiqPool + sushiLiqPool)
  | [uniLiqPoolA, uniLiqPoolB], [sushiLiqPoolA, sushiLiqPoolB] =>
    (twoHopRatio uniLiqPoolA uniLiqPoolB sushiLiqPoolA sushiLiqPoolB,
      twoHopRatio uniLiqPoolA uniLiqPoolB sushiLiqPoolA sushiLiqPoolB + preciseUnit)
  | _, _ => (0, 0)

/-- The sizes add up, and an exchange that lacks a pair gets nothing while the other exchange
has all its pairs. -/
structure KeepsClear {State : Type} (splitter : AMMSplitter State) (path : List Address)
    (size : Nat) (state : State) (tradeInfo : SplitTradeInfo) : Prop where
  adds : tradeInfo.uniSize + tradeInfo.sushiSize = size
  uni : Lacks splitter.uni path state → Complete splitter splitter.sushi path state →
    tradeInfo.uniSize = 0
  sushi : Lacks splitter.sushi path state → Complete splitter splitter.uni path state →
    tradeInfo.sushiSize = 0

/-- What is read in place of a missing pair is nothing, or too little for the size. -/
structure MissingReadsNothing {State : Type} (splitter : AMMSplitter State)
    (path : List Address) (size : Nat) (state : State) : Prop where
  uni : Lacks splitter.uni path state → Complete splitter splitter.sushi path state →
    0 ∈ poolSizes splitter splitter.uni path state ∨ size = 0 ∨
      (uniPart (poolSizes splitter splitter.uni path state)
        (poolSizes splitter splitter.sushi path state)).1 * preciseUnit <
      preciseUnit ⌈/⌉ size * (uniPart (poolSizes splitter splitter.uni path state)
        (poolSizes splitter splitter.sushi path state)).2
  sushi : Lacks splitter.sushi path state → Complete splitter splitter.uni path state →
    0 ∈ poolSizes splitter splitter.sushi path state ∨ size = 0

/-- What the sizes are, in terms of the pools alone. -/
structure SizesOfPools (size : Nat) (uniPools sushiPools : List Nat) (tradeInfo : SplitTradeInfo) :
    Prop where
  adds : tradeInfo.uniSize + tradeInfo.sushiSize = size
  uni : (∀ pool ∈ sushiPools, 0 < pool) → (tradeInfo.uniSize = 0 ↔ 0 ∈ uniPools ∨ size = 0 ∨
    (uniPart uniPools sushiPools).1 * preciseUnit <
      preciseUnit ⌈/⌉ size * (uniPart uniPools sushiPools).2)
  sushi : (∀ pool ∈ uniPools, 0 < pool) →
    (tradeInfo.sushiSize = 0 ↔ 0 ∈ sushiPools ∨ size = 0)

theorem sizesOfPools {State : Type} {splitter : AMMSplitter State} {path : List Address}
    {size : Nat} {state : State} {tradeInfo : SplitTradeInfo} (done : Unit)
    (checked : checkPath path = .ok done)
    (returned : splitter.getTradeSizes path size state = .ok tradeInfo) :
    SizesOfPools size (poolSizes splitter splitter.uni path state)
      (poolSizes splitter splitter.sushi path state) tradeInfo := by
  rcases (require_eq_ok _ _ _).mp checked with two | three
  · obtain ⟨first, second, rfl⟩ := List.length_eq_two.mp two
    have split := getTradeSizes_two returned
    refine ⟨split.adds, fun _ => ?_, fun positive => ?_⟩
    · refine split.uniSize_eq_zero_iff.trans ⟨Or.inr, ?_⟩
      rintro (empty | small)
      · have none : 0 = splitter.getTokenBalanceInPair splitter.uni first second state :=
          List.mem_singleton.mp empty
        rw [← split.uniSize_eq_zero_iff, split.uniSize, ← none]
        simp
      · exact small
    · rw [split.sushiSize_eq_zero_iff (Nat.le_add_right _ _), or_comm]
      refine or_congr_left ?_
      rw [poolSizes]
      simp [pairedTokens, eq_comm]
  · obtain ⟨first, second, third, rfl⟩ := List.length_eq_three.mp three
    have uniPools : poolSizes splitter splitter.uni [first, second, third] state =
        [splitter.getTokenBalanceInPair splitter.uni first second state,
          splitter.getTokenBalanceInPair splitter.uni third second state] := rfl
    have sushiPools : poolSizes splitter splitter.sushi [first, second, third] state =
        [splitter.getTokenBalanceInPair splitter.sushi first second state,
          splitter.getTokenBalanceInPair splitter.sushi third second state] := rfl
    have zeroOf (first second : Nat) : 0 ∈ [first, second] ↔ first = 0 ∨ second = 0 := by
      simp [eq_comm]
    rw [uniPools, sushiPools]
    rcases getTradeSizes_three returned with
      ⟨uniEmpty, rfl⟩ | ⟨uniFull, sushiEmpty, rfl⟩ | ⟨uniFull, sushiFull, split⟩
    · refine ⟨Nat.zero_add _, fun _ => iff_of_true rfl (Or.inl ((zeroOf _ _).mpr uniEmpty)),
        fun positive => ?_⟩
      exact absurd (positive 0 ((zeroOf _ _).mpr uniEmpty)) (lt_irrefl 0)
    · refine ⟨Nat.add_zero _, fun positive => ?_,
        fun _ => iff_of_true rfl (Or.inl ((zeroOf _ _).mpr sushiEmpty))⟩
      exact absurd (positive 0 ((zeroOf _ _).mpr sushiEmpty)) (lt_irrefl 0)
    · refine ⟨split.adds, fun _ => ?_, fun _ => ?_⟩
      · rw [split.uniSize_eq_zero_iff, zeroOf, or_iff_right uniFull]
        rfl
      · rw [split.sushiSize_eq_zero_iff (Nat.le_add_right _ _), zeroOf, or_iff_right sushiFull]
        exact or_iff_left (by have unit := preciseUnit_pos; omega)

theorem keeps_clear_of_missing_pools_iff {State : Type} (splitter : AMMSplitter State)
    (path : List Address) (size : Nat) (state : State) (tradeInfo : SplitTradeInfo) (done : Unit)
    (checked : checkPath path = .ok done)
    (returned : splitter.getTradeSizes path size state = .ok tradeInfo) :
    KeepsClear splitter path size state tradeInfo ↔
      MissingReadsNothing splitter path size state := by
  have sizes := sizesOfPools done checked returned
  constructor
  · rintro ⟨_, uni, sushi⟩
    exact ⟨fun lacks complete => (sizes.uni complete.2).mp (uni lacks complete),
      fun lacks complete => (sizes.sushi complete.2).mp (sushi lacks complete)⟩
  · rintro ⟨uni, sushi⟩
    exact ⟨sizes.adds, fun lacks complete => (sizes.uni complete.2).mpr (uni lacks complete),
      fun lacks complete => (sizes.sushi complete.2).mpr (sushi lacks complete)⟩

/-- An exchange with the same pair for every two tokens. -/
def sampleExchange (pair : Address) : Exchange Unit where
  router := 90
  getPair := fun _ _ _ => pair
  getAmountsOut := fun _ size path => pure (path.map fun _ => size)
  getAmountsIn := fun _ size path => pure (path.map fun _ => size)
  swapExactTokensForTokens := fun size _ path _ _ state => pure (path.map fun _ => size, state)
  swapTokensForExactTokens := fun size _ path _ _ state => pure (path.map fun _ => size, state)

/-- The first exchange lacks every pair, and the zero address holds an amount of every token. -/
def sampleSplitter (lost : Nat) : AMMSplitter Unit where
  address := 91
  uni := sampleExchange 0
  sushi := sampleExchange 50
  tokens := {
    balanceOf := fun _ account _ => if account = 0 then lost else 100
    allowance := fun _ _ _ _ => 0
    approve := fun _ _ _ _ state => pure state
    transferFrom := fun _ _ _ _ state => pure state }

theorem sampleSplitter_sushi_pair (lost : Nat) (first second : Address) :
    (sampleSplitter lost).sushi.getPair () first second ≠ 0 :=
  show (50 : Address) ≠ 0 by decide

/-- No token was ever sent to the zero address. -/
theorem keeps_clear_of_missing_pools_sample :
    KeepsClear (sampleSplitter 0) [1, 2] 10 () ⟨0, 10⟩ := by
  have returned : (sampleSplitter 0).getTradeSizes [1, 2] 10 () = .ok ⟨0, 10⟩ := by
    decide +kernel
  refine (keeps_clear_of_missing_pools_iff (sampleSplitter 0) [1, 2] 10 () ⟨0, 10⟩ () rfl
    returned).mpr ⟨fun _ _ => Or.inl (by decide), ?_⟩
  rintro ⟨measured, _, paired, _, missing⟩
  exact absurd missing (sampleSplitter_sushi_pair 0 paired measured)

/-- Tokens at the zero address pass for a pool, and the missing pair gets half of the trade. -/
theorem routes_to_missing_pool :
    (sampleSplitter 100).getTradeSizes [1, 2] 10 () = .ok ⟨5, 5⟩ ∧
      ¬KeepsClear (sampleSplitter 100) [1, 2] 10 () ⟨5, 5⟩ := by
  refine ⟨by decide +kernel, fun keeps => ?_⟩
  have lacks : Lacks (sampleSplitter 100).uni [1, 2] () := ⟨2, rfl, 1, by decide, rfl⟩
  have complete : Complete (sampleSplitter 100) (sampleSplitter 100).sushi [1, 2] () :=
    ⟨fun measured _ paired _ => sampleSplitter_sushi_pair 100 paired measured, by decide⟩
  exact absurd (keeps.uni lacks complete) (by decide)

end IndexProtocol

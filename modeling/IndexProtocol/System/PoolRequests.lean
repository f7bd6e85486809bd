/-
This file compares what the Uniswap V2 adapter promises with what router and
pair do on the same reserves. The minimum amounts that the adapter computes
always pass the checks of the router, and liquidity that is removed always pays
the requested amounts. The liquidity minted can fall short of the requested
minimum: the router rounds the amount of the other token down before the pair
rounds the liquidity down. The guards of the pair against zero amounts refuse
requests that mint nothing, or that pay nothing of a token.
-/

import IndexProtocol.Integration.UniswapV2AmmAdapter
import IndexProtocol.Library.Rounding

namespace IndexProtocol

open Revert Rounding UniswapV2AmmAdapter

/-! ### Requests to add liquidity -/

/-- What a returned request to add liquidity establishes. -/
structure ProvideRequest (pair : UniswapV2Pair) (reserves : Nat × Nat) (minLiquidity : Nat)
    (params : AddLiquidityParams) : Prop where
  limitPositive : 0 < params.amountADesired ∧ 0 < params.amountBDesired
  reservePositive : 0 < reserves.1 ∧ 0 < reserves.2
  supplyPositive : 0 < pair.totalSupply
  expected : minLiquidity ≤ UniswapV2Pair.liquidityOf reserves
    (params.amountADesired, params.amountBDesired) pair.totalSupply
  amountAMin : params.amountAMin =
    UniswapV2Pair.liquidityOf reserves (params.amountADesired, params.amountBDesired)
      pair.totalSupply * reserves.1 / pair.totalSupply
  amountBMin : params.amountBMin =
    UniswapV2Pair.liquidityOf reserves (params.amountADesired, params.amountBDesired)
      pair.totalSupply * reserves.2 / pair.totalSupply

theorem provideRequest {adapter : UniswapV2AmmAdapter} {timestamp : Nat} {setToken : Address}
    {pair : UniswapV2Pair} {components : List Address} {maxTokensIn : List Nat}
    {minLiquidity : Nat} {call : TradeCall RouterCall}
    (returned : adapter.getProvideLiquidityCalldata timestamp setToken pair components
      maxTokensIn minLiquidity = .ok call) :
    ∃ params, call = ⟨adapter.router, 0, .addLiquidity params⟩ ∧
      components[0]? = some params.tokenA ∧ components[1]? = some params.tokenB ∧
      maxTokensIn[0]? = some params.amountADesired ∧
      maxTokensIn[1]? = some params.amountBDesired ∧
      ProvideRequest pair (pair.getReserves params.tokenA) minLiquidity params := by
  simp only [getProvideLiquidityCalldata, bind_eq_ok, require_eq_ok, exists_const, readAt_eq_ok,
    SafeMath.mul_eq_ok, SafeMath.div_eq_ok, pure_eq_ok] at returned
  obtain ⟨maxTokenA, limitA, maxTokenB, limitB, limits, tokenA, first, _, ⟨_, rfl⟩, _,
    ⟨reserveA, rfl⟩, _, ⟨_, rfl⟩, _, ⟨reserveB, rfl⟩, expected, _, ⟨_, rfl⟩, _, ⟨supply, rfl⟩, _,
    ⟨_, rfl⟩, _, ⟨_, rfl⟩, tokenB, second, rfl⟩ := returned
  exact ⟨_, rfl, first, second, limitA, limitB, limits, ⟨reserveA, reserveB⟩, supply, expected,
    rfl, rfl⟩

/-- The router's checks pass, and the amounts it adds are worth at least the requested
liquidity. -/
def MintsAtLeast (pair : UniswapV2Pair) (reserves : Nat × Nat) (minLiquidity : Nat)
    (params : AddLiquidityParams) : Prop :=
  ∃ amounts, UniswapV2Router02.amountsToAdd reserves params = .ok amounts ∧
    minLiquidity ≤ UniswapV2Pair.liquidityOf reserves amounts pair.totalSupply

/-- Router and pair carry the request out, and at least the requested liquidity is minted. -/
def AddsAtLeast (pair : UniswapV2Pair) (reserves : Nat × Nat) (minLiquidity : Nat)
    (params : AddLiquidityParams) : Prop :=
  ∃ amountA amountB liquidity,
    UniswapV2Router02.addLiquidity reserves pair.totalSupply params =
      .ok (amountA, amountB, liquidity) ∧ minLiquidity ≤ liquidity

/-- The limit that the router takes whole covers the least amount of the other token that is
worth the requested liquidity. -/
def LimitCovers (reserves : Nat × Nat) (totalSupply maxTokenA maxTokenB minLiquidity : Nat) :
    Prop :=
  if maxTokenA * reserves.2 / reserves.1 ≤ maxTokenB then
    (minLiquidity * reserves.2) ⌈/⌉ totalSupply * reserves.1 ≤ maxTokenA * reserves.2
  else (minLiquidity * reserves.1) ⌈/⌉ totalSupply * reserves.2 ≤ maxTokenB * reserves.1

/-- One limit whole, and as much of the other token as goes with it. -/
def proportionalAmounts (reserves : Nat × Nat) (maxTokenA maxTokenB : Nat) : Nat × Nat :=
  if maxTokenA * reserves.2 / reserves.1 ≤ maxTokenB then
    (maxTokenA, maxTokenA * reserves.2 / reserves.1)
  else (maxTokenB * reserves.1 / reserves.2, maxTokenB)

namespace ProvideRequest

variable {pair : UniswapV2Pair} {reserves : Nat × Nat} {minLiquidity : Nat}
variable {params : AddLiquidityParams}

/-- The minimum amounts of a request never make the router revert. -/
theorem amountsToAdd_eq_ok (request : ProvideRequest pair reserves minLiquidity params) :
    UniswapV2Router02.amountsToAdd reserves params =
      .ok (proportionalAmounts reserves params.amountADesired params.amountBDesired) := by
  obtain ⟨firstPositive, secondPositive⟩ := request.reservePositive
  unfold UniswapV2Router02.amountsToAdd proportionalAmounts
  simp only [UniswapV2Router02.quote, bind_eq_ok, require_eq_ok, exists_const, pure_eq_ok]
  refine ⟨_, ⟨request.limitPositive.1, request.reservePositive, rfl⟩, ?_⟩
  by_cases fits : params.amountADesired * reserves.2 / reserves.1 ≤ params.amountBDesired
  · have minimum : params.amountBMin ≤ params.amountADesired * reserves.2 / reserves.1 := by
      rw [request.amountBMin]
      exact share_mul_div_le request.supplyPositive firstPositive (Nat.min_le_left _ _)
    simp only [fits, if_true, bind_eq_ok, require_eq_ok, exists_const, pure_eq_ok]
    exact ⟨minimum, trivial⟩
  · have minimum : params.amountAMin ≤ params.amountBDesired * reserves.1 / reserves.2 := by
      rw [request.amountAMin]
      exact share_mul_div_le request.supplyPositive secondPositive (Nat.min_le_right _ _)
    simp only [fits, if_false, bind_eq_ok, require_eq_ok, exists_const, pure_eq_ok]
    exact ⟨_, ⟨request.limitPositive.2, ⟨secondPositive, firstPositive⟩, rfl⟩,
      proportion_le_of_lt firstPositive secondPositive (not_le.mp fits), minimum, rfl⟩

/-- The amounts that the router adds are worth some liquidity exactly when the limit that it takes
whole covers it: the token that is taken whole is worth no less. -/
theorem le_liquidityOf_iff (request : ProvideRequest pair reserves minLiquidity params)
    (liquidity : Nat) :
    liquidity ≤ UniswapV2Pair.liquidityOf reserves
        (proportionalAmounts reserves params.amountADesired params.amountBDesired)
        pair.totalSupply ↔
      LimitCovers reserves pair.totalSupply params.amountADesired params.amountBDesired
        liquidity := by
  obtain ⟨firstPositive, secondPositive⟩ := request.reservePositive
  unfold proportionalAmounts LimitCovers UniswapV2Pair.liquidityOf
  split_ifs
  · rw [← share_le_div_mul_div_iff request.supplyPositive firstPositive secondPositive,
      min_eq_right (proportion_share_le firstPositive secondPositive)]
  · rw [← share_le_div_mul_div_iff request.supplyPositive secondPositive firstPositive,
      min_eq_left (proportion_share_le secondPositive firstPositive)]

theorem mintsAtLeast_iff (request : ProvideRequest pair reserves minLiquidity params) :
    MintsAtLeast pair reserves minLiquidity params ↔
      LimitCovers reserves pair.totalSupply params.amountADesired params.amountBDesired
        minLiquidity := by
  unfold MintsAtLeast
  rw [request.amountsToAdd_eq_ok, ← request.le_liquidityOf_iff]
  simp only [Except.ok.injEq, exists_eq_left']

/-- The pair mints a first unit at least, or refuses. -/
theorem addsAtLeast_iff (request : ProvideRequest pair reserves minLiquidity params) :
    AddsAtLeast pair reserves minLiquidity params ↔
      LimitCovers reserves pair.totalSupply params.amountADesired params.amountBDesired
        (max minLiquidity 1) := by
  unfold AddsAtLeast UniswapV2Router02.addLiquidity UniswapV2Pair.mint
  rw [request.amountsToAdd_eq_ok, ← request.le_liquidityOf_iff, max_le_iff]
  simp only [bind_eq_ok, require_eq_ok, exists_const, pure_eq_ok, Except.ok.injEq, Prod.mk.injEq,
    exists_eq_left']
  constructor
  · rintro ⟨_, _, _, ⟨_, ⟨positive, rfl⟩, _, _, rfl⟩, enough⟩
    exact ⟨enough, positive⟩
  · rintro ⟨enough, positive⟩
    exact ⟨_, _, _, ⟨_, ⟨positive, rfl⟩, rfl, rfl, rfl⟩, enough⟩

end ProvideRequest

/-! ### Requests to remove liquidity -/

/-- The share that the liquidity stands for is at least the requested amounts. -/
def PaysAtLeast (pair : UniswapV2Pair) (reserves : Nat × Nat) (params : RemoveLiquidityParams) :
    Prop :=
  params.amountAMin ≤ (UniswapV2Pair.shareOf reserves params.liquidity pair.totalSupply).1 ∧
    params.amountBMin ≤ (UniswapV2Pair.shareOf reserves params.liquidity pair.totalSupply).2

/-- Router and pair carry the request out, and pay at least the requested amounts. -/
def RemovesAtLeast (pair : UniswapV2Pair) (reserves : Nat × Nat)
    (params : RemoveLiquidityParams) : Prop :=
  ∃ amounts, UniswapV2Router02.removeLiquidity reserves pair.totalSupply params = .ok amounts ∧
    params.amountAMin ≤ amounts.1 ∧ params.amountBMin ≤ amounts.2

/-- The pair pays something of both tokens, or refuses. -/
theorem PaysAtLeast.removesAtLeast_iff {pair : UniswapV2Pair} {reserves : Nat × Nat}
    {params : RemoveLiquidityParams} (pays : PaysAtLeast pair reserves params) :
    RemovesAtLeast pair reserves params ↔
      0 < (UniswapV2Pair.shareOf reserves params.liquidity pair.totalSupply).1 ∧
        0 < (UniswapV2Pair.shareOf reserves params.liquidity pair.totalSupply).2 := by
  unfold RemovesAtLeast UniswapV2Router02.removeLiquidity UniswapV2Pair.burn
  simp only [bind_eq_ok, require_eq_ok, exists_const, pure_eq_ok]
  constructor
  · rintro ⟨_, ⟨_, ⟨positive, _⟩, _⟩, _⟩
    exact positive
  · intro positive
    exact ⟨_, ⟨_, ⟨positive, rfl⟩, pays.1, pays.2, rfl⟩, pays⟩

theorem removeRequest {adapter : UniswapV2AmmAdapter} {timestamp : Nat} {setToken : Address}
    {pair : UniswapV2Pair} {components : List Address} {minTokensOut : List Nat}
    {liquidity : Nat} {call : TradeCall RouterCall}
    (returned : adapter.getRemoveLiquidityCalldata timestamp setToken pair components
      minTokensOut liquidity = .ok call) :
    ∃ params, call = ⟨adapter.router, 0, .removeLiquidity params⟩ ∧
      params.liquidity = liquidity ∧ components[0]? = some params.tokenA ∧
      components[1]? = some params.tokenB ∧ minTokensOut[0]? = some params.amountAMin ∧
      minTokensOut[1]? = some params.amountBMin ∧
      PaysAtLeast pair (pair.getReserves params.tokenA) params := by
  simp only [getRemoveLiquidityCalldata, bind_eq_ok, require_eq_ok, exists_const, readAt_eq_ok,
    SafeMath.mul_eq_ok, SafeMath.div_eq_ok, pure_eq_ok] at returned
  obtain ⟨_, tokenA, first, _, ⟨_, rfl⟩, _, ⟨_, rfl⟩, _, ⟨_, rfl⟩, _, ⟨_, rfl⟩, minTokenA, limitA,
    minTokenB, limitB, ⟨enoughA, enoughB⟩, tokenB, second, rfl⟩ := returned
  rw [mul_comm] at enoughA enoughB
  exact ⟨_, rfl, rfl, first, second, limitA, limitB, enoughA, enoughB⟩

/-! ### The requests of the adapter -/

/-- By the formulas, a request to add is honoured exactly when the limit that the router takes
whole covers it, and a request to remove always is. With the pair's guards against zero amounts a
request to add has to mint something, and a request to remove has to pay something of both
tokens. -/
theorem requests_honoured_iff (adapter : UniswapV2AmmAdapter) (timestamp : Nat)
    (setToken : Address) (pair : UniswapV2Pair) (components : List Address) :
    (∀ maxTokensIn minLiquidity call,
      adapter.getProvideLiquidityCalldata timestamp setToken pair components maxTokensIn
        minLiquidity = .ok call →
      ∃ params, call = ⟨adapter.router, 0, .addLiquidity params⟩ ∧
        maxTokensIn[0]? = some params.amountADesired ∧
        maxTokensIn[1]? = some params.amountBDesired ∧
        (MintsAtLeast pair (pair.getReserves params.tokenA) minLiquidity params ↔
          LimitCovers (pair.getReserves params.tokenA) pair.totalSupply params.amountADesired
            params.amountBDesired minLiquidity) ∧
        (AddsAtLeast pair (pair.getReserves params.tokenA) minLiquidity params ↔
          LimitCovers (pair.getReserves params.tokenA) pair.totalSupply params.amountADesired
            params.amountBDesired (max minLiquidity 1))) ∧
    ∀ minTokensOut liquidity call,
      adapter.getRemoveLiquidityCalldata timestamp setToken pair components minTokensOut
        liquidity = .ok call →
      ∃ params, call = ⟨adapter.router, 0, .removeLiquidity params⟩ ∧
        params.liquidity = liquidity ∧ minTokensOut[0]? = some params.amountAMin ∧
        minTokensOut[1]? = some params.amountBMin ∧
        PaysAtLeast pair (pair.getReserves params.tokenA) params ∧
        let share :=
          UniswapV2Pair.shareOf (pair.getReserves params.tokenA) liquidity pair.totalSupply
        (RemovesAtLeast pair (pair.getReserves params.tokenA) params ↔
          0 < share.1 ∧ 0 < share.2) := by
  constructor
  · intro maxTokensIn minLiquidity call returned
    obtain ⟨params, rfl, _, _, limitA, limitB, request⟩ := provideRequest returned
    exact ⟨params, rfl, limitA, limitB, request.mintsAtLeast_iff, request.addsAtLeast_iff⟩
  · intro minTokensOut liquidity call returned
    obtain ⟨params, rfl, rfl, _, _, limitA, limitB, pays⟩ := removeRequest returned
    exact ⟨params, rfl, rfl, limitA, limitB, pays, pays.removesAtLeast_iff⟩

/-- A pool with its first token at address one. -/
def samplePair (reserve0 reserve1 totalSupply : Nat) : UniswapV2Pair where
  token0 := 1
  reserve0 := reserve0
  reserve1 := reserve1
  totalSupply := totalSupply
  balanceOf := fun _ => 50
  factory := some 8

/-- A tenth of a pool that holds a hundred times as much of one token is added, up to an odd
remainder, and a hundredth is removed. -/
theorem requests_honoured_uneven :
    (∃ params, getProvideLiquidityCalldata ⟨9, 8⟩ 77 5 (samplePair 1000000 10000 100000) [1, 2]
        [100099, 1000] 10000 = .ok ⟨9, 0, .addLiquidity params⟩ ∧
      AddsAtLeast (samplePair 1000000 10000 100000) (1000000, 10000) 10000 params) ∧
    ∃ params, getRemoveLiquidityCalldata ⟨9, 8⟩ 77 5 (samplePair 1000000 10000 100000) [1, 2]
        [490, 4] 49 = .ok ⟨9, 0, .removeLiquidity params⟩ ∧
      RemovesAtLeast (samplePair 1000000 10000 100000) (1000000, 10000) params := by
  have honoured := requests_honoured_iff ⟨9, 8⟩ 77 5 (samplePair 1000000 10000 100000) [1, 2]
  have provided : getProvideLiquidityCalldata ⟨9, 8⟩ 77 5 (samplePair 1000000 10000 100000) [1, 2]
      [100099, 1000] 10000 =
        .ok ⟨9, 0, .addLiquidity ⟨1, 2, 100099, 1000, 100000, 1000, 5, 77⟩⟩ := rfl
  have removed : getRemoveLiquidityCalldata ⟨9, 8⟩ 77 5 (samplePair 1000000 10000 100000) [1, 2]
      [490, 4] 49 = .ok ⟨9, 0, .removeLiquidity ⟨1, 2, 49, 490, 4, 5, 77⟩⟩ := rfl
  have covers : LimitCovers (1000000, 10000) 100000 100099 1000 10000 := by
    unfold LimitCovers
    decide
  obtain ⟨_, sameAdd, _, _, _, adds⟩ := honoured.1 _ _ _ provided
  obtain ⟨_, sameRemove, _, _, _, _, removes⟩ := honoured.2 _ _ _ removed
  obtain rfl := RouterCall.addLiquidity.inj (TradeCall.mk.inj sameAdd).2.2
  obtain rfl := RouterCall.removeLiquidity.inj (TradeCall.mk.inj sameRemove).2.2
  exact ⟨⟨_, provided, adds.mpr covers⟩, _, removed, removes.mpr (by decide)⟩

/-- The first limit goes with less than two units of the second token, which the router rounds
down to one. -/
theorem requests_not_honoured :
    ∃ params, getProvideLiquidityCalldata ⟨9, 8⟩ 77 5 (samplePair 1000000 10000 100000) [1, 2]
        [199, 2] 19 = .ok ⟨9, 0, .addLiquidity params⟩ ∧
      UniswapV2Router02.addLiquidity (1000000, 10000) 100000 params = .ok (199, 1, 10) ∧
      ¬MintsAtLeast (samplePair 1000000 10000 100000) (1000000, 10000) 19 params := by
  refine ⟨_, rfl, rfl, ?_⟩
  rintro ⟨amounts, added, minted⟩
  obtain rfl : (199, 1) = amounts := Except.ok.inj added
  exact absurd minted (by decide)

end IndexProtocol

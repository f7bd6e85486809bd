/-
This file models the adapter `UniswapV2AmmAdapter`, which prepares the calls of
the Uniswap V2 router that add and remove liquidity, and how router and pair
carry them out on a pool that has liquidity. The adapter predicts the liquidity
from the limits of both tokens and derives the minimum amounts from it; the
router takes one limit whole and rounds the other amount down. The fee of the
pair's factory and the bounds of the pair's integers are left out.
-/

import IndexProtocol.Integration.UniswapV3ExchangeAdapterV2

namespace IndexProtocol

open Revert

/-! ### The pair and the router -/

/-- A pool of two tokens, with the state the adapter reads from it. The factory is missing at an
address that is no pair. -/
structure UniswapV2Pair where
  token0 : Address
  reserve0 : Nat
  reserve1 : Nat
  totalSupply : Nat
  balanceOf : Address → Nat
  factory : Option Address

structure AddLiquidityParams where
  tokenA : Address
  tokenB : Address
  amountADesired : Nat
  amountBDesired : Nat
  amountAMin : Nat
  amountBMin : Nat
  recipient : Address
  deadline : Nat
  deriving DecidableEq

structure RemoveLiquidityParams where
  tokenA : Address
  tokenB : Address
  liquidity : Nat
  amountAMin : Nat
  amountBMin : Nat
  recipient : Address
  deadline : Nat
  deriving DecidableEq

inductive RouterCall
  | addLiquidity (params : AddLiquidityParams)
  | removeLiquidity (params : RemoveLiquidityParams)
  deriving DecidableEq

namespace UniswapV2Pair

/-- The reserves in the order of the tokens of a call. -/
def getReserves (pair : UniswapV2Pair) (tokenA : Address) : Nat × Nat :=
  if tokenA = pair.token0 then (pair.reserve0, pair.reserve1) else (pair.reserve1, pair.reserve0)

/-- The liquidity that amounts are worth when they are added to the reserves. -/
def liquidityOf (reserves amounts : Nat × Nat) (totalSupply : Nat) : Nat :=
  min (amounts.1 * totalSupply / reserves.1) (amounts.2 * totalSupply / reserves.2)

/-- The share of the reserves that liquidity stands for. -/
def shareOf (reserves : Nat × Nat) (liquidity totalSupply : Nat) : Nat × Nat :=
  (liquidity * reserves.1 / totalSupply, liquidity * reserves.2 / totalSupply)

def mint (reserves amounts : Nat × Nat) (totalSupply : Nat) : Outcome Nat := do
  let liquidity := liquidityOf reserves amounts totalSupply
  require (0 < liquidity) "UniswapV2: INSUFFICIENT_LIQUIDITY_MINTED"
  pure liquidity

def burn (reserves : Nat × Nat) (liquidity totalSupply : Nat) : Outcome (Nat × Nat) := do
  let amounts := shareOf reserves liquidity totalSupply
  require (0 < amounts.1 ∧ 0 < amounts.2) "UniswapV2: INSUFFICIENT_LIQUIDITY_BURNED"
  pure amounts

end UniswapV2Pair

namespace UniswapV2Router02

def quote (amountA reserveA reserveB : Nat) : Outcome Nat := do
  require (0 < amountA) "UniswapV2Library: INSUFFICIENT_AMOUNT"
  require (0 < reserveA ∧ 0 < reserveB) "UniswapV2Library: INSUFFICIENT_LIQUIDITY"
  pure (amountA * reserveB / reserveA)

/-- The amounts that are added to the pool, computed by `_addLiquidity`. -/
def amountsToAdd (reserves : Nat × Nat) (params : AddLiquidityParams) : Outcome (Nat × Nat) := do
  let amountBOptimal ← quote params.amountADesired reserves.1 reserves.2
  if amountBOptimal ≤ params.amountBDesired then do
    require (params.amountBMin ≤ amountBOptimal) "UniswapV2Router: INSUFFICIENT_B_AMOUNT"
    pure (params.amountADesired, amountBOptimal)
  else do
    let amountAOptimal ← quote params.amountBDesired reserves.2 reserves.1
    require (amountAOptimal ≤ params.amountADesired) "invalid opcode"
    require (params.amountAMin ≤ amountAOptimal) "UniswapV2Router: INSUFFICIENT_A_AMOUNT"
    pure (amountAOptimal, params.amountBDesired)

/-- Returns the amounts that are added to the pool and the liquidity that is minted. -/
def addLiquidity (reserves : Nat × Nat) (totalSupply : Nat) (params : AddLiquidityParams) :
    Outcome (Nat × Nat × Nat) := do
  let (amountA, amountB) ← amountsToAdd reserves params
  let liquidity ← UniswapV2Pair.mint reserves (amountA, amountB) totalSupply
  pure (amountA, amountB, liquidity)

/-- The amounts that are paid out of the pool. -/
def removeLiquidity (reserves : Nat × Nat) (totalSupply : Nat) (params : RemoveLiquidityParams) :
    Outcome (Nat × Nat) := do
  let amounts ← UniswapV2Pair.burn reserves params.liquidity totalSupply
  require (params.amountAMin ≤ amounts.1) "UniswapV2Router: INSUFFICIENT_A_AMOUNT"
  require (params.amountBMin ≤ amounts.2) "UniswapV2Router: INSUFFICIENT_B_AMOUNT"
  pure amounts

end UniswapV2Router02

/-! ### The adapter -/

structure UniswapV2AmmAdapter where
  router : Address
  factory : Address

namespace UniswapV2AmmAdapter

def getProvideLiquidityCalldata (adapter : UniswapV2AmmAdapter) (timestamp : Nat)
    (setToken : Address) (pair : UniswapV2Pair) (components : List Address)
    (maxTokensIn : List Nat) (minLiquidity : Nat) : Outcome (TradeCall RouterCall) := do
  let maxTokenA ← readAt maxTokensIn 0
  let maxTokenB ← readAt maxTokensIn 1
  require (0 < maxTokenA ∧ 0 < maxTokenB) "Component quantity must be nonzero"
  let tokenA ← readAt components 0
  let (reserveA, reserveB) := pair.getReserves tokenA
  let suppliedA ← SafeMath.mul maxTokenA pair.totalSupply
  let liquidityA ← SafeMath.div suppliedA reserveA
  let suppliedB ← SafeMath.mul maxTokenB pair.totalSupply
  let liquidityB ← SafeMath.div suppliedB reserveB
  let liquidityExpectedFromSuppliedTokens := min liquidityA liquidityB
  require (minLiquidity ≤ liquidityExpectedFromSuppliedTokens)
    "_minLiquidity is too high for input token limit"
  let ownedA ← SafeMath.mul liquidityExpectedFromSuppliedTokens reserveA
  let amountAMin ← SafeMath.div ownedA pair.totalSupply
  let ownedB ← SafeMath.mul liquidityExpectedFromSuppliedTokens reserveB
  let amountBMin ← SafeMath.div ownedB pair.totalSupply
  let tokenB ← readAt components 1
  pure {
    target := adapter.router
    value := 0
    callData := .addLiquidity {
      tokenA := tokenA
      tokenB := tokenB
      amountADesired := maxTokenA
      amountBDesired := maxTokenB
      amountAMin := amountAMin
      amountBMin := amountBMin
      recipient := setToken
      deadline := timestamp } }

def getProvideLiquiditySingleAssetCalldata (_adapter : UniswapV2AmmAdapter) :
    Outcome (TradeCall RouterCall) :=
  .error "Uniswap V2 single asset addition is not supported"

def getRemoveLiquidityCalldata (adapter : UniswapV2AmmAdapter) (timestamp : Nat)
    (setToken : Address) (pair : UniswapV2Pair) (components : List Address)
    (minTokensOut : List Nat) (liquidity : Nat) : Outcome (TradeCall RouterCall) := do
  require (liquidity ≤ pair.balanceOf setToken) "_liquidity must be <= to current balance"
  let tokenA ← readAt components 0
  let (reserveA, reserveB) := pair.getReserves tokenA
  let shareA ← SafeMath.mul reserveA liquidity
  let reservesOwnedByLiquidityA ← SafeMath.div shareA pair.totalSupply
  let shareB ← SafeMath.mul reserveB liquidity
  let reservesOwnedByLiquidityB ← SafeMath.div shareB pair.totalSupply
  let minTokenA ← readAt minTokensOut 0
  let minTokenB ← readAt minTokensOut 1
  require (minTokenA ≤ reservesOwnedByLiquidityA ∧ minTokenB ≤ reservesOwnedByLiquidityB)
    "amounts must be <= ownedTokens"
  let tokenB ← readAt components 1
  pure {
    target := adapter.router
    value := 0
    callData := .removeLiquidity {
      tokenA := tokenA
      tokenB := tokenB
      liquidity := liquidity
      amountAMin := minTokenA
      amountBMin := minTokenB
      recipient := setToken
      deadline := timestamp } }

def getRemoveLiquiditySingleAssetCalldata (_adapter : UniswapV2AmmAdapter) :
    Outcome (TradeCall RouterCall) :=
  .error "Uniswap V2 single asset removal is not supported"

def getSpenderAddress (adapter : UniswapV2AmmAdapter) (_pool : Address) : Address :=
  adapter.router

/-- A pool is valid when its factory is the one of the router and knows it as the pair of the
two components. -/
def isValidPool (adapter : UniswapV2AmmAdapter) (getPair : Address → Address → Address)
    (pool : Address) (pair : UniswapV2Pair) (components : List Address) : Bool :=
  match pair.factory, components with
  | some poolFactory, [tokenA, tokenB] =>
    decide (adapter.factory = poolFactory ∧ getPair tokenA tokenB = pool)
  | _, _ => false

end UniswapV2AmmAdapter

end IndexProtocol

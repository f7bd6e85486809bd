/-
This file models the contract `AMMSplitter`, which splits a trade between two
exchanges in proportion to the size of their pools. The size of a pool is the
balance of one token at the address of the pair; a factory returns the zero
address for a pair that does not exist. The exchanges and the tokens are outside
contracts over a state the model leaves open.
-/

import IndexProtocol.Lib.PreciseUnitMath

namespace IndexProtocol

open Revert PreciseUnitMath

/-! ### Outside contracts -/

/-- An exchange: its factory and its router. -/
structure Exchange (State : Type) where
  router : Address
  getPair : State → Address → Address → Address
  getAmountsOut : State → Nat → List Address → Outcome (List Nat)
  getAmountsIn : State → Nat → List Address → Outcome (List Nat)
  swapExactTokensForTokens (amountIn amountOutMin : Nat) (path : List Address)
    (recipient : Address) (deadline : Nat) : State → Outcome (List Nat × State)
  swapTokensForExactTokens (amountOut amountInMax : Nat) (path : List Address)
    (recipient : Address) (deadline : Nat) : State → Outcome (List Nat × State)

structure Tokens (State : Type) where
  balanceOf (token account : Address) : State → Nat
  allowance (token owner spender : Address) : State → Nat
  approve (token owner spender : Address) (amount : Nat) : State → Outcome State
  transferFrom (token sender recipient : Address) (amount : Nat) : State → Outcome State

/-- `TradeInfo`: the size of the trade on each exchange. -/
structure SplitTradeInfo where
  uniSize : Nat
  sushiSize : Nat
  deriving DecidableEq

/-! ### The splitter -/

structure AMMSplitter (State : Type) where
  address : Address
  uni : Exchange State
  sushi : Exchange State
  tokens : Tokens State

namespace AMMSplitter

variable {State : Type} (splitter : AMMSplitter State)

def checkPath (path : List Address) : Outcome Unit :=
  require (path.length = 2 ∨ path.length = 3) "AMMSplitter: incorrect path length"

def getTokenBalanceInPair (exchange : Exchange State) (pairedToken balanceToken : Address)
    (state : State) : Nat :=
  let pair := exchange.getPair state pairedToken balanceToken
  splitter.tokens.balanceOf balanceToken pair state

def calculateTwoHopRatio (uniLiqPoolA uniLiqPoolB sushiLiqPoolA sushiLiqPoolB : Nat) :
    Outcome Nat := do
  let sushiLiqPools ← SafeMath.add sushiLiqPoolA sushiLiqPoolB
  let uniLiqPools ← SafeMath.add uniLiqPoolA uniLiqPoolB
  let a ← preciseDiv sushiLiqPools uniLiqPools
  let b ← preciseDiv uniLiqPoolA sushiLiqPoolA
  let c ← preciseDiv uniLiqPoolB sushiLiqPoolB
  let product ← preciseMul a b
  preciseMul product c

/-- The sizes for the percentage of the trade that goes to the first exchange. -/
def splitSize (size uniPercentage : Nat) : Outcome SplitTradeInfo := do
  let uniSize ← preciseMul size uniPercentage
  let sushiSize ← SafeMath.sub size uniSize
  pure ⟨uniSize, sushiSize⟩

def getTradeSizes (path : List Address) (size : Nat) (state : State) : Outcome SplitTradeInfo := do
  let first ← readAt path 0
  let second ← readAt path 1
  if path.length = 2 then do
    let uniLiqPool := splitter.getTokenBalanceInPair splitter.uni first second state
    let sushiLiqPool := splitter.getTokenBalanceInPair splitter.sushi first second state
    let liqPools ← SafeMath.add uniLiqPool sushiLiqPool
    let uniPercentage ← preciseDiv uniLiqPool liqPools
    splitSize size uniPercentage
  else do
    let third ← readAt path 2
    let uniLiqPoolA := splitter.getTokenBalanceInPair splitter.uni first second state
    let uniLiqPoolB := splitter.getTokenBalanceInPair splitter.uni third second state
    if uniLiqPoolA = 0 ∨ uniLiqPoolB = 0 then pure ⟨0, size⟩
    else do
      let sushiLiqPoolA := splitter.getTokenBalanceInPair splitter.sushi first second state
      let sushiLiqPoolB := splitter.getTokenBalanceInPair splitter.sushi third second state
      if sushiLiqPoolA = 0 ∨ sushiLiqPoolB = 0 then pure ⟨size, 0⟩
      else do
        let ratio ← calculateTwoHopRatio uniLiqPoolA uniLiqPoolB sushiLiqPoolA sushiLiqPoolB
        let whole ← SafeMath.add ratio preciseUnit
        let uniPercentage ← preciseDiv ratio whole
        splitSize size uniPercentage

/-! ### Quotes -/

def getTradeInputOrOutput (exchange : Exchange State) (size : Nat) (path : List Address)
    (isExactInput : Bool) (state : State) : Outcome (List Nat) :=
  -- A trade of nothing is quoted as zeros, as the router would revert.
  if size = 0 then pure (List.replicate path.length 0)
  else if isExactInput then exchange.getAmountsOut state size path
  else exchange.getAmountsIn state size path

def getAmounts (size : Nat) (path : List Address) (isExactInput : Bool) (state : State) :
    Outcome (List Nat) := do
  checkPath path
  let tradeInfo ← splitter.getTradeSizes path size state
  let uniTradeResults ←
    getTradeInputOrOutput splitter.uni tradeInfo.uniSize path isExactInput state
  let sushiTradeResults ←
    getTradeInputOrOutput splitter.sushi tradeInfo.sushiSize path isExactInput state
  (List.range path.length).mapM fun i => do
    let uniAmount ← readAt uniTradeResults i
    let sushiAmount ← readAt sushiTradeResults i
    SafeMath.add uniAmount sushiAmount

def getAmountsOut (amountIn : Nat) (path : List Address) (state : State) : Outcome (List Nat) :=
  splitter.getAmounts amountIn path true state

def getAmountsIn (amountOut : Nat) (path : List Address) (state : State) : Outcome (List Nat) :=
  splitter.getAmounts amountOut path false state

/-! ### Trades -/

def checkApproval (exchange : Exchange State) (amount : Nat) (token : Address) (state : State) :
    Outcome State :=
  if splitter.tokens.allowance token splitter.address exchange.router state < amount then
    splitter.tokens.approve token splitter.address exchange.router (2 ^ 256 - 1) state
  else pure state

def checkApprovals (uniAmount sushiAmount : Nat) (token : Address) (state : State) :
    Outcome State := do
  let approved ← splitter.checkApproval splitter.uni uniAmount token state
  splitter.checkApproval splitter.sushi sushiAmount token approved

def executeTrade (exchange : Exchange State) (size : Nat) (path : List Address)
    (recipient : Address) (deadline : Nat) (isExactInput : Bool) (state : State) :
    Outcome (Nat × State) := do
  if size = 0 then pure (0, state)
  else if isExactInput then do
    let (amounts, next) ←
      exchange.swapExactTokensForTokens size 0 path recipient deadline state
    let amount ← readAt amounts (path.length - 1)
    pure (amount, next)
  else do
    let (amounts, next) ←
      exchange.swapTokensForExactTokens size (2 ^ 256 - 1) path recipient deadline state
    let amount ← readAt amounts 0
    pure (amount, next)

def swapExactTokensForTokens (msgSender : Address) (amountIn amountOutMin : Nat)
    (path : List Address) (recipient : Address) (deadline : Nat) (state : State) :
    Outcome (Nat × State) := do
  checkPath path
  let inputToken ← readAt path 0
  let paid ← splitter.tokens.transferFrom inputToken msgSender splitter.address amountIn state
  let tradeInfo ← splitter.getTradeSizes path amountIn paid
  let approved ←
    splitter.checkApprovals tradeInfo.uniSize tradeInfo.sushiSize inputToken paid
  let (uniOutput, traded) ←
    executeTrade splitter.uni tradeInfo.uniSize path recipient deadline true approved
  let (sushiOutput, next) ←
    executeTrade splitter.sushi tradeInfo.sushiSize path recipient deadline true traded
  let totalOutput ← SafeMath.add uniOutput sushiOutput
  require (amountOutMin ≤ totalOutput) "AMMSplitter: INSUFFICIENT_OUTPUT_AMOUNT"
  pure (totalOutput, next)

def swapTokensForExactTokens (msgSender : Address) (amountOut amountInMax : Nat)
    (path : List Address) (recipient : Address) (deadline : Nat) (state : State) :
    Outcome (Nat × State) := do
  checkPath path
  let tradeInfo ← splitter.getTradeSizes path amountOut state
  let uniInputs ← getTradeInputOrOutput splitter.uni tradeInfo.uniSize path false state
  let expectedUniInput ← readAt uniInputs 0
  let sushiInputs ← getTradeInputOrOutput splitter.sushi tradeInfo.sushiSize path false state
  let expectedSushiInput ← readAt sushiInputs 0
  let totalInput ← SafeMath.add expectedUniInput expectedSushiInput
  require (totalInput ≤ amountInMax) "AMMSplitter: INSUFFICIENT_INPUT_AMOUNT"
  let inputToken ← readAt path 0
  let paid ← splitter.tokens.transferFrom inputToken msgSender splitter.address totalInput state
  let approved ← splitter.checkApprovals expectedUniInput expectedSushiInput inputToken paid
  let (_, traded) ←
    executeTrade splitter.uni tradeInfo.uniSize path recipient deadline false approved
  let (_, next) ←
    executeTrade splitter.sushi tradeInfo.sushiSize path recipient deadline false traded
  pure (totalInput, next)

/-! ### The split -/

/-- The two sizes add up to the size that is split. -/
theorem splitSize_eq_ok {size uniPercentage : Nat} {tradeInfo : SplitTradeInfo}
    (returned : splitSize size uniPercentage = .ok tradeInfo) :
    tradeInfo.uniSize = size * uniPercentage / preciseUnit ∧
      tradeInfo.uniSize + tradeInfo.sushiSize = size := by
  simp only [splitSize, bind_eq_ok, preciseMul_eq_ok, SafeMath.sub_eq_ok, pure_eq_ok] at returned
  obtain ⟨_, ⟨_, rfl⟩, _, ⟨small, rfl⟩, rfl⟩ := returned
  exact ⟨rfl, Nat.add_sub_cancel' small⟩

end AMMSplitter

end IndexProtocol

/-
This file models the exchange adapter `UniswapV3ExchangeAdapterV2`. The data of
a trade is a path of tokens with the fee of the pool between each two of them,
packed without lengths, and a last byte that says whether the input of the trade
is fixed. The adapter reads the two ends of the path by their offsets and passes
the path on to the swap router. A path is read from the token that is received
when the output is fixed.
-/

import IndexProtocol.Lib.BytesLib

namespace IndexProtocol

open Revert

/-! ### Calls of the swap router -/

structure ExactInputParams where
  path : Bytes
  recipient : Address
  deadline : Nat
  amountIn : Nat
  amountOutMinimum : Nat
  deriving DecidableEq

structure ExactOutputParams where
  path : Bytes
  recipient : Address
  deadline : Nat
  amountOut : Nat
  amountInMaximum : Nat
  deriving DecidableEq

inductive SwapRouterCall
  | exactInput (params : ExactInputParams)
  | exactOutput (params : ExactOutputParams)
  deriving DecidableEq

/-- A call that an exchange adapter returns: its target, its value and its data. -/
structure TradeCall (Data : Type) where
  target : Address
  value : Nat
  callData : Data
  deriving DecidableEq

/-! ### The adapter -/

structure UniswapV3ExchangeAdapterV2 where
  swapRouter : Address

namespace UniswapV3ExchangeAdapterV2

def getTradeCalldata (adapter : UniswapV3ExchangeAdapterV2) (timestamp : Nat)
    (sourceToken destinationToken destinationAddress : Address)
    (sourceQuantity destinationQuantity : Nat) (data : Bytes) :
    Outcome (TradeCall SwapRouterCall) := do
  require (44 ≤ data.length) "Invalid data"
  let fixInput ← BytesArrayUtils.toBool data (data.length - 1)
  let sourceFromPath ←
    if fixInput then BytesLib.toAddress data 0 else BytesLib.toAddress data (data.length - 21)
  let destinationFromPath ←
    if fixInput then BytesLib.toAddress data (data.length - 21) else BytesLib.toAddress data 0
  require (sourceToken = sourceFromPath) "Source token path mismatch"
  require (destinationToken = destinationFromPath) "Destination token path mismatch"
  let pathData ← BytesLib.slice data 0 (data.length - 1)
  let callData :=
    if fixInput then
      SwapRouterCall.exactInput
        ⟨pathData, destinationAddress, timestamp, sourceQuantity, destinationQuantity⟩
    else
      SwapRouterCall.exactOutput
        ⟨pathData, destinationAddress, timestamp, destinationQuantity, sourceQuantity⟩
  pure ⟨adapter.swapRouter, 0, callData⟩

def getSpender (adapter : UniswapV3ExchangeAdapterV2) : Address := adapter.swapRouter

/-- Append the token at an index and the fee of the pool that follows it. -/
def packHop (path : List Address) (fees : List (BitVec 24)) (data : Bytes) (i : Nat) :
    Outcome Bytes := do
  let token ← readAt path i
  let fee ← readAt fees i
  pure (data ++ packAddress token ++ packUint24 fee)

def generateDataParam (path : List Address) (fees : List (BitVec 24)) (fixIn : Bool) :
    Outcome Bytes := do
  -- The length of an empty path wraps around to an index that the first read exceeds.
  let data ← (List.range (path.length - 1)).foldlM (packHop path fees) []
  let last ← readAt path (path.length - 1)
  pure (data ++ packAddress last ++ packBool fixIn)

end UniswapV3ExchangeAdapterV2

end IndexProtocol

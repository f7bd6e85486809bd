/-
This file models the exchange adapter `ZeroExApiAdapter`, which checks the call
data that the 0x API produced before a Set passes it on. The function is told by
its selector, and what it buys and sells is read from its arguments: for a batch
of orders the tokens are those of the first order, and the amounts are summed in
256-bit arithmetic that wraps around.
-/

import IndexProtocol.Integration.UniswapV3ExchangeAdapterV2

namespace IndexProtocol

open Revert

/-! ### Call data -/

structure RfqOrder where
  makerToken : Address
  takerToken : Address
  makerAmount : BitVec 128
  takerAmount : BitVec 128
  maker : Address
  taker : Address
  txOrigin : Address
  pool : BitVec 256
  expiry : BitVec 64
  salt : BitVec 256
  deriving DecidableEq

structure Signature where
  signatureType : BitVec 8
  v : BitVec 8
  r : BitVec 256
  s : BitVec 256
  deriving DecidableEq

/-- Call data of the 0x contract: a selector the adapter knows, with the arguments that are
decoded behind it, or data that cannot be decoded. The decoder of `batchFillRfqOrders` skips the
signatures, and the ones of the last two functions skip the offset of the calls. -/
inductive ZeroExData
  | short (data : Bytes)
  | unsupported (selector : BitVec 32) (arguments : Bytes)
  | malformed (selector : BitVec 32) (arguments : Bytes)
  | transformERC20 (inputToken outputToken : Address) (inputTokenAmount minOutputTokenAmount : Nat)
  | transformERC20Staging (inputToken outputToken : Address)
      (inputTokenAmount minOutputTokenAmount : Nat)
  | sellToLiquidityProvider (inputToken outputToken provider recipient : Address)
      (inputTokenAmount minOutputTokenAmount : Nat)
  | sellToUniswap (path : List Address) (inputTokenAmount minOutputTokenAmount : Nat)
  | fillRfqOrder (order : RfqOrder) (signature : Signature) (takerTokenFillAmount : BitVec 128)
  | batchFillRfqOrders (orders : List RfqOrder) (signatures : Nat)
      (takerTokenFillAmounts : List (BitVec 128)) (revertIfIncomplete : Bool)
  | sellTokenForTokenToUniswapV3 (encodedPath : Bytes)
      (inputTokenAmount minOutputTokenAmount : Nat) (recipient : Address)
  | multiplexBatchSellTokenForToken (inputToken outputToken : Address) (calls : Nat)
      (inputTokenAmount minOutputTokenAmount : Nat)
  | multiplexMultiHopSellTokenForToken (tokens : List Address) (calls : Nat)
      (inputTokenAmount minOutputTokenAmount : Nat)
  deriving DecidableEq

/-- What the adapter reads from the arguments. -/
structure ZeroExTrade where
  inputToken : Address
  outputToken : Address
  inputTokenAmount : Nat
  minOutputTokenAmount : Nat
  recipient : Address := 0
  supportsRecipient : Bool := false

/-! ### The adapter -/

structure ZeroExApiAdapter where
  zeroExAddress : Address
  wethAddress : Address

namespace ZeroExApiAdapter

/-- The pseudo-token address that the 0x API uses for ether. -/
def ETH_ADDRESS : Address := 0xEeeeeEeeeEeEeeEeEeEeeEEEeeeeEeeeeeeeEEeE

def getSpender (adapter : ZeroExApiAdapter) : Address := adapter.zeroExAddress

def getRfqOrderMakerFillAmount (order : RfqOrder) (takerTokenFillAmount : Nat) : Nat :=
  if order.takerAmount = 0 ∨ order.makerAmount = 0 ∨ takerTokenFillAmount = 0 then 0
  else order.makerAmount.toNat * takerTokenFillAmount % 2 ^ 256 / order.takerAmount.toNat

/-- The first and the last token of a packed path. -/
def decodeTokensFromUniswapV3EncodedPath (encodedPath : Bytes) : Outcome (Address × Address) := do
  require (43 ≤ encodedPath.length) "UniswapV3 token path too short"
  let numHops := (encodedPath.length - 20) / 23
  let inputToken ← BytesLib.toAddress encodedPath 0
  let outputToken ← BytesLib.toAddress encodedPath (numHops * 23)
  pure (inputToken, outputToken)

/-- The two ends of a list of tokens. -/
def endsOfPath (path : List Address) (reason : String) : Outcome (Address × Address) := do
  require (1 < path.length) reason
  let inputToken ← readAt path 0
  let outputToken ← readAt path (path.length - 1)
  pure (inputToken, outputToken)

/-- Add the fill of the order at an index to the amounts sold and bought. -/
def addFill (orders : List RfqOrder) (takerTokenFillAmounts : List (BitVec 128))
    (amounts : Nat × Nat) (i : Nat) : Outcome (Nat × Nat) := do
  let fill ← readAt takerTokenFillAmounts i
  let order ← readAt orders i
  pure ((amounts.1 + fill.toNat) % 2 ^ 256,
    (amounts.2 + getRfqOrderMakerFillAmount order fill.toNat) % 2 ^ 256)

def recipientOrDefault (recipient destinationAddress : Address) : Address :=
  if recipient = 0 then destinationAddress else recipient

def decodeTrade (destinationAddress : Address) : ZeroExData → Outcome ZeroExTrade
  | .short _ => .error "Invalid calldata"
  | .unsupported _ _ => .error "Unsupported 0xAPI function selector"
  | .malformed _ _ => .error "abi decode"
  | .transformERC20 inputToken outputToken inputTokenAmount minOutputTokenAmount
  | .transformERC20Staging inputToken outputToken inputTokenAmount minOutputTokenAmount
  | .multiplexBatchSellTokenForToken inputToken outputToken _ inputTokenAmount
      minOutputTokenAmount =>
    pure { inputToken, outputToken, inputTokenAmount, minOutputTokenAmount }
  | .sellToLiquidityProvider inputToken outputToken _ recipient inputTokenAmount
      minOutputTokenAmount =>
    pure { inputToken, outputToken, inputTokenAmount, minOutputTokenAmount
           recipient := recipientOrDefault recipient destinationAddress
           supportsRecipient := true }
  | .sellToUniswap path inputTokenAmount minOutputTokenAmount => do
    let (inputToken, outputToken) ← endsOfPath path "Uniswap token path too short"
    pure { inputToken, outputToken, inputTokenAmount, minOutputTokenAmount }
  | .fillRfqOrder order _ takerTokenFillAmount =>
    pure {
      inputToken := order.takerToken
      outputToken := order.makerToken
      inputTokenAmount := takerTokenFillAmount.toNat
      minOutputTokenAmount := getRfqOrderMakerFillAmount order takerTokenFillAmount.toNat }
  | .batchFillRfqOrders orders _ takerTokenFillAmounts revertIfIncomplete => do
    require (0 < orders.length) "Empty RFQ orders"
    require (revertIfIncomplete = true) "batchFillRfqOrder must be all or nothing"
    let first ← readAt orders 0
    let (inputTokenAmount, minOutputTokenAmount) ←
      (List.range orders.length).foldlM (addFill orders takerTokenFillAmounts) (0, 0)
    pure {
      inputToken := first.takerToken
      outputToken := first.makerToken
      inputTokenAmount
      minOutputTokenAmount }
  | .sellTokenForTokenToUniswapV3 encodedPath inputTokenAmount minOutputTokenAmount
      recipient => do
    let (inputToken, outputToken) ← decodeTokensFromUniswapV3EncodedPath encodedPath
    pure { inputToken, outputToken, inputTokenAmount, minOutputTokenAmount
           recipient := recipientOrDefault recipient destinationAddress
           supportsRecipient := true }
  | .multiplexMultiHopSellTokenForToken tokens _ inputTokenAmount minOutputTokenAmount => do
    let (inputToken, outputToken) ← endsOfPath tokens "Multihop token path too short"
    pure { inputToken, outputToken, inputTokenAmount, minOutputTokenAmount }

def getTradeCalldata (adapter : ZeroExApiAdapter)
    (sourceToken destinationToken destinationAddress : Address)
    (sourceQuantity minDestinationQuantity : Nat) (data : ZeroExData) :
    Outcome (TradeCall ZeroExData) := do
  let trade ← decodeTrade destinationAddress data
  require (trade.inputToken ≠ ETH_ADDRESS ∧ trade.outputToken ≠ ETH_ADDRESS) "ETH not supported"
  require (trade.inputToken = sourceToken) "Mismatched input token"
  require (trade.outputToken = destinationToken) "Mismatched output token"
  require (trade.supportsRecipient = false ∨ trade.recipient = destinationAddress)
    "Mismatched recipient"
  require (trade.inputTokenAmount = sourceQuantity) "Mismatched input token quantity"
  require (minDestinationQuantity ≤ trade.minOutputTokenAmount)
    "Mismatched output token quantity"
  pure ⟨adapter.zeroExAddress, 0, data⟩

/-- Accepted call data agrees with the request in every value the adapter reads, and is passed
on as it is. -/
theorem getTradeCalldata_eq_ok {adapter : ZeroExApiAdapter}
    {sourceToken destinationToken destinationAddress : Address}
    {sourceQuantity minDestinationQuantity : Nat} {data : ZeroExData}
    {call : TradeCall ZeroExData}
    (accepted : adapter.getTradeCalldata sourceToken destinationToken destinationAddress
      sourceQuantity minDestinationQuantity data = .ok call) :
    ∃ trade, decodeTrade destinationAddress data = .ok trade ∧
      trade.inputToken = sourceToken ∧ trade.outputToken = destinationToken ∧
      (trade.supportsRecipient = true → trade.recipient = destinationAddress) ∧
      trade.inputTokenAmount = sourceQuantity ∧
      minDestinationQuantity ≤ trade.minOutputTokenAmount ∧
      call = ⟨adapter.zeroExAddress, 0, data⟩ := by
  simp only [getTradeCalldata, bind_eq_ok, require_eq_ok, pure_eq_ok, exists_const] at accepted
  obtain ⟨trade, decoded, _, input, output, recipient, sold, bought, rfl⟩ := accepted
  refine ⟨trade, decoded, input, output, fun supports => ?_, sold, bought, rfl⟩
  exact recipient.resolve_left (by rw [supports]; exact Bool.noConfusion)

end ZeroExApiAdapter

end IndexProtocol

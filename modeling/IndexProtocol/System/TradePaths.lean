/-
This file proves that the trade data of the Uniswap V3 adapter round-trips. A
route is a list of hops, each a token with the fee of the pool behind it, and
the token it ends with. The hops are records of one width, so a packed route is
told apart from every other one, and its two ends stand at offsets that depend
on the length of the data alone.
-/

import IndexProtocol.Integration.UniswapV3ExchangeAdapterV2

namespace IndexProtocol

open Revert UniswapV3ExchangeAdapterV2

/-! ### Routes -/

/-- A path with at least one hop. -/
structure Route where
  hops : List (Address × BitVec 24)
  last : Address
  nonempty : hops ≠ []

/-- The token of a hop followed by its fee. -/
def packRecord (hop : Address × BitVec 24) : Bytes := packAddress hop.1 ++ packUint24 hop.2

theorem length_packRecord (hop : Address × BitVec 24) : (packRecord hop).length = 23 := by
  unfold packRecord
  rw [List.length_append, length_packAddress, length_packUint24]

theorem packRecord_injective : Function.Injective packRecord := by
  rintro ⟨token, fee⟩ ⟨otherToken, otherFee⟩ same
  obtain ⟨tokens, fees⟩ := List.append_inj same (by simp)
  exact Prod.ext (packAddress_injective tokens) (packUint24_injective fees)

namespace Route

def path (route : Route) : List Address := route.hops.map Prod.fst ++ [route.last]

def fees (route : Route) : List (BitVec 24) := route.hops.map Prod.snd

def packed (route : Route) : Bytes :=
  route.hops.flatMap packRecord ++ packAddress route.last

/-- The data of a trade along the route. -/
def data (route : Route) (fixIn : Bool) : Bytes := route.packed ++ packBool fixIn

variable (route : Route) (fixIn : Bool)

theorem length_packed : route.packed.length = 23 * route.hops.length + 20 := by
  unfold packed
  rw [List.length_append, Words.length_flatMap_of_width length_packRecord, length_packAddress]

theorem length_data : (route.data fixIn).length = route.packed.length + 1 := by
  unfold data
  rw [List.length_append, length_packBool]

theorem length_hops_pos : 0 < route.hops.length := List.length_pos_iff.mpr route.nonempty

/-- A path of at least two tokens with a fee for each hop is the path of a route. -/
theorem exists_of_lengths {path : List Address} {fees : List (BitVec 24)}
    (long : 2 ≤ path.length) (feeOfHop : fees.length = path.length - 1) :
    ∃ route : Route, route.path = path ∧ route.fees = fees := by
  have some : path ≠ [] := List.ne_nil_of_length_pos (by omega)
  have lengths : path.dropLast.length = fees.length := by rw [List.length_dropLast, feeOfHop]
  refine ⟨⟨path.dropLast.zip fees, path.getLast some, ?_⟩, ?_, ?_⟩
  · refine List.ne_nil_of_length_pos ?_
    rw [List.length_zip, lengths, Nat.min_self]
    omega
  · unfold Route.path
    rw [List.map_fst_zip lengths.le, List.dropLast_concat_getLast]
  · exact List.map_snd_zip lengths.ge

/-! ### Reading the data -/

/-- Two routes with the same data are the same, and so are their directions. -/
theorem data_injective {route other : Route} {fixIn otherFixIn : Bool}
    (same : route.data fixIn = other.data otherFixIn) :
    route.path = other.path ∧ route.fees = other.fees ∧ fixIn = otherFixIn := by
  obtain ⟨packs, flags⟩ := List.append_inj' same rfl
  obtain ⟨records, lasts⟩ := List.append_inj' packs (by simp)
  have hops : route.hops = other.hops :=
    Words.flatMap_injective_of_width (by decide) length_packRecord packRecord_injective records
  have flag : fixIn = otherFixIn := by
    cases fixIn <;> cases otherFixIn <;> simp_all [packBool]
  refine ⟨?_, ?_, flag⟩
  · unfold path
    rw [hops, packAddress_injective lasts]
  · unfold fees
    rw [hops]

theorem toBool_data :
    BytesArrayUtils.toBool (route.data fixIn) ((route.data fixIn).length - 1) = .ok fixIn := by
  rw [length_data, Nat.add_sub_cancel]
  exact BytesArrayUtils.toBool_packed route.packed fixIn

theorem slice_data :
    BytesLib.slice (route.data fixIn) 0 ((route.data fixIn).length - 1) = .ok route.packed := by
  rw [length_data, Nat.add_sub_cancel]
  exact BytesLib.slice_prefix route.packed (packBool fixIn)

/-- The first token stands at the start of the data. -/
theorem toAddress_first (first : Address) (starts : route.path.head? = some first) :
    BytesLib.toAddress (route.data fixIn) 0 = .ok first := by
  obtain ⟨hop, rest, hops⟩ := List.exists_cons_of_ne_nil route.nonempty
  have head : hop.1 = first := by simpa [path, hops] using starts
  have split : route.data fixIn =
      [] ++ (packAddress first ++
        (packUint24 hop.2 ++ rest.flatMap packRecord ++ packAddress route.last ++
          packBool fixIn)) := by
    simp only [data, packed, hops, List.flatMap_cons, packRecord, head, List.nil_append,
      List.append_assoc]
  rw [split]
  exact BytesLib.toAddress_packed [] _ first

/-- The last token stands in front of the flag. -/
theorem toAddress_last :
    BytesLib.toAddress (route.data fixIn) ((route.data fixIn).length - 21) = .ok route.last := by
  have offset : (route.data fixIn).length - 21 = (route.hops.flatMap packRecord).length := by
    rw [length_data, length_packed, Words.length_flatMap_of_width length_packRecord]
    omega
  rw [offset]
  unfold data packed
  rw [List.append_assoc]
  exact BytesLib.toAddress_packed _ (packBool fixIn) route.last

/-! ### Writing the data -/

/-- After some iterations the loop has packed as many hops. -/
theorem packHop_loop (count : Nat) (within : count ≤ route.hops.length) :
    (List.range count).foldlM (packHop route.path route.fees) [] =
      .ok ((route.hops.take count).flatMap packRecord) := by
  induction count with
  | zero => rfl
  | succ count inductionHypothesis =>
    have inside : count < route.hops.length := within
    have token : route.path[count]? = some (route.hops[count]).1 := by
      simp [path, List.getElem?_append_left, inside]
    have fee : route.fees[count]? = some (route.hops[count]).2 := by
      simp [fees, inside]
    rw [List.range_succ, List.foldlM_append, inductionHypothesis inside.le, ok_bind,
      List.foldlM_cons, List.take_succ_eq_append_getElem inside, List.flatMap_append,
      List.flatMap_singleton]
    unfold packHop
    rw [(readAt_eq_ok _ _ _).mpr token, ok_bind, (readAt_eq_ok _ _ _).mpr fee, ok_bind]
    unfold packRecord
    rw [List.append_assoc]
    rfl

theorem generateDataParam_path :
    generateDataParam route.path route.fees fixIn = .ok (route.data fixIn) := by
  have hops : route.path.length - 1 = route.hops.length := by simp [path]
  have last : route.path[route.hops.length]? = some route.last := by simp [path]
  unfold generateDataParam
  rw [hops, packHop_loop route _ le_rfl, ok_bind, (readAt_eq_ok _ _ _).mpr last, ok_bind,
    List.take_length]
  rfl

end Route

/-! ### The round trip -/

/-- A path packed with the fee of the pool behind each token but the last. -/
def packedPath : List Address → List (BitVec 24) → Bytes
  | token :: next :: rest, fee :: fees =>
    packAddress token ++ packUint24 fee ++ packedPath (next :: rest) fees
  | [token], _ => packAddress token
  | _, _ => []

theorem packedPath_hops (hops : List (Address × BitVec 24)) (last : Address) :
    packedPath (hops.map Prod.fst ++ [last]) (hops.map Prod.snd) =
      hops.flatMap packRecord ++ packAddress last := by
  induction hops with
  | nil => simp only [List.map_nil, List.nil_append, List.flatMap_nil, packedPath]
  | cons hop rest inductionHypothesis =>
    rw [List.flatMap_cons, List.append_assoc, ← inductionHypothesis]
    cases rest with
    | nil => simp only [List.map_cons, List.map_nil, List.cons_append, List.nil_append,
        packedPath, packRecord]
    | cons next others => simp only [List.map_cons, List.cons_append, packedPath, packRecord]

/-- The call that the adapter returns for a packed path. -/
def UniswapV3ExchangeAdapterV2.swap (adapter : UniswapV3ExchangeAdapterV2) (timestamp : Nat)
    (pathData : Bytes) (fixIn : Bool) (destinationAddress : Address)
    (sourceQuantity destinationQuantity : Nat) : TradeCall SwapRouterCall where
  target := adapter.swapRouter
  value := 0
  callData :=
    if fixIn then
      .exactInput {
        path := pathData
        recipient := destinationAddress
        deadline := timestamp
        amountIn := sourceQuantity
        amountOutMinimum := destinationQuantity }
    else
      .exactOutput {
        path := pathData
        recipient := destinationAddress
        deadline := timestamp
        amountOut := destinationQuantity
        amountInMaximum := sourceQuantity }

/-- The tokens between which a path trades. -/
def TradesBetween (path : List Address) (fixIn : Bool) (sourceToken destinationToken : Address) :
    Prop :=
  if fixIn then path.head? = some sourceToken ∧ path.getLast? = some destinationToken
  else path.getLast? = some sourceToken ∧ path.head? = some destinationToken

theorem Route.getTradeCalldata_eq_ok (route : Route) (fixIn : Bool)
    (adapter : UniswapV3ExchangeAdapterV2) (timestamp : Nat)
    (sourceToken destinationToken destinationAddress : Address)
    (sourceQuantity destinationQuantity : Nat) (call : TradeCall SwapRouterCall) :
    adapter.getTradeCalldata timestamp sourceToken destinationToken destinationAddress
        sourceQuantity destinationQuantity (route.data fixIn) = .ok call ↔
      TradesBetween route.path fixIn sourceToken destinationToken ∧
        call = adapter.swap timestamp route.packed fixIn destinationAddress sourceQuantity
          destinationQuantity := by
  obtain ⟨hop, rest, hops⟩ := List.exists_cons_of_ne_nil route.nonempty
  have head : route.path.head? = some hop.1 := by simp [path, hops]
  have final : route.path.getLast? = some route.last := by simp [path]
  have long : 44 ≤ (route.data fixIn).length := by
    have positive := route.length_hops_pos
    rw [length_data, length_packed]
    omega
  unfold getTradeCalldata TradesBetween swap
  rw [route.toBool_data fixIn, route.toAddress_first fixIn _ head, route.toAddress_last fixIn,
    route.slice_data fixIn, head, final]
  cases fixIn
  · simp only [ok_bind, Bool.false_eq_true, if_false, bind_eq_ok, require_eq_ok, pure_eq_ok,
      exists_const]
    constructor
    · rintro ⟨_, rfl, rfl, rfl⟩
      exact ⟨⟨rfl, rfl⟩, rfl⟩
    · rintro ⟨⟨source, destination⟩, rfl⟩
      exact ⟨long, (Option.some.inj source).symm, (Option.some.inj destination).symm, rfl⟩
  · simp only [ok_bind, if_true, bind_eq_ok, require_eq_ok, pure_eq_ok, exists_const]
    constructor
    · rintro ⟨_, rfl, rfl, rfl⟩
      exact ⟨⟨rfl, rfl⟩, rfl⟩
    · rintro ⟨⟨source, destination⟩, rfl⟩
      exact ⟨long, (Option.some.inj source).symm, (Option.some.inj destination).symm, rfl⟩

theorem trade_data_round_trips (adapter : UniswapV3ExchangeAdapterV2) (path : List Address)
    (fees : List (BitVec 24)) (fixIn : Bool) (long : 2 ≤ path.length)
    (feeOfHop : fees.length = path.length - 1) :
    ∃ data, generateDataParam path fees fixIn = .ok data ∧
      data = packedPath path fees ++ packBool fixIn ∧
      (∀ timestamp sourceToken destinationToken destinationAddress sourceQuantity
        destinationQuantity call,
        adapter.getTradeCalldata timestamp sourceToken destinationToken destinationAddress
            sourceQuantity destinationQuantity data = .ok call ↔
          TradesBetween path fixIn sourceToken destinationToken ∧
            call = adapter.swap timestamp (packedPath path fees) fixIn destinationAddress
              sourceQuantity destinationQuantity) ∧
      ∀ otherPath otherFees otherFixIn, 2 ≤ otherPath.length →
        otherFees.length = otherPath.length - 1 →
        generateDataParam otherPath otherFees otherFixIn = .ok data →
        otherPath = path ∧ otherFees = fees ∧ otherFixIn = fixIn := by
  obtain ⟨route, rfl, rfl⟩ := Route.exists_of_lengths long feeOfHop
  have packed : packedPath route.path route.fees = route.packed :=
    packedPath_hops route.hops route.last
  refine ⟨route.data fixIn, route.generateDataParam_path fixIn, ?_, ?_, ?_⟩
  · rw [packed]
    rfl
  · intro timestamp sourceToken destinationToken destinationAddress sourceQuantity
      destinationQuantity call
    rw [packed]
    exact route.getTradeCalldata_eq_ok fixIn adapter timestamp sourceToken destinationToken
      destinationAddress sourceQuantity destinationQuantity call
  · intro otherPath otherFees otherFixIn otherLong otherFeeOfHop generated
    obtain ⟨other, rfl, rfl⟩ := Route.exists_of_lengths otherLong otherFeeOfHop
    rw [other.generateDataParam_path] at generated
    exact Route.data_injective (Except.ok.inj generated)

/-- A path over two pools, for a fixed input. -/
theorem trade_data_round_trips_two_hops :
    ∃ data, generateDataParam [1, 2, 3] [500, 3000] true = .ok data ∧
      UniswapV3ExchangeAdapterV2.getTradeCalldata ⟨9⟩ 50 1 3 7 100 90 data =
        .ok (UniswapV3ExchangeAdapterV2.swap ⟨9⟩ 50 (packedPath [1, 2, 3] [500, 3000]) true 7
          100 90) := by
  obtain ⟨data, generated, _, traded, _⟩ :=
    trade_data_round_trips ⟨9⟩ [1, 2, 3] [500, 3000] true (by decide) (by decide)
  exact ⟨data, generated, (traded 50 1 3 7 100 90 _).mpr ⟨⟨rfl, rfl⟩, rfl⟩⟩

end IndexProtocol

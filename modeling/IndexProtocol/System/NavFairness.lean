/-
This file proves at what price Set tokens change hands at net asset value. An
issuance mints no more than the net flow is worth at the valuation that the
valuer reports, and a redemption pays no more than the burned Set tokens are
worth, up to the rounding of the total value of the Set. So what the Set holds
of the reserve, less the worth of its supply, never falls by a redemption, and
falls by less than one unit by an issuance that does not double the supply. Over
a run of calls at one valuation these losses add up, and nothing else is lost.
Where the protocol's own valuer reports the valuation of a Set without debts, a
redemption pays no more than the exact worth at the oracle prices.
-/

import IndexProtocol.System.NavBacking
import IndexProtocol.System.RedeemValidity
import IndexProtocol.System.Valuation

namespace IndexProtocol

open Revert PreciseUnitMath

namespace CustomOracleNAVIssuanceModule

variable {module : CustomOracleNAVIssuanceModule} {contracts : NAVContracts}
  {world hooked burned paid after : World} {msgSender reserveAsset recipient : Address}
  {info : ActionInfo} {quantity least valuation : Nat}

/-! ### What is minted and what is paid -/

/-- What the valuer reports for a Set token in the reserve asset. -/
def Valued (module : CustomOracleNAVIssuanceModule) (contracts : NAVContracts)
    (reserveAsset : Address) (world : World) (valuation : Nat) : Prop :=
  contracts.calculateSetTokenValuation (module.setValuer contracts) reserveAsset world =
    .ok valuation

/-- The minted Set tokens, valued with the whole supply, are worth no more than the net flow. The
denominator is not below the value of the supply, since the premium only takes from the flow. -/
theorem getSetTokenMintQuantity_worth {flow supply minted : Nat}
    (returned : module.getSetTokenMintQuantity contracts reserveAsset flow supply world =
      .ok minted) :
    ∃ valuation, module.Valued contracts reserveAsset world valuation ∧
      minted * Rounding.mulFloor preciseUnit supply valuation *
          decimalScale contracts reserveAsset ≤ flow * preciseUnit * supply := by
  simp only [getSetTokenMintQuantity, bind_eq_ok, preciseMul_eq_ok, preciseDiv_eq_ok,
    SafeMath.sub_eq_ok, SafeMath.add_eq_ok] at returned
  obtain ⟨premium, _, valuation, valued, whole, ⟨_, _, wholeEq⟩, rest, ⟨premiumLe, rfl⟩, net,
    ⟨_, scalePositive, netEq⟩, setValue, ⟨_, valueEq⟩, _, ⟨_, rfl⟩, _, ⟨_, rfl⟩, shared,
    ⟨_, sharedEq⟩, _, _, mintedEq⟩ := returned
  refine ⟨valuation, valued, ?_⟩
  have netLe : net ≤ whole := by
    rw [← netEq, ← wholeEq]
    exact Nat.div_le_div_right (Nat.mul_le_mul_right _ (Nat.sub_le _ _))
  have spread : minted * (setValue + whole - net) ≤ net * supply := by
    calc minted * (setValue + whole - net) ≤ shared * preciseUnit := by
          rw [← mintedEq]
          exact Nat.div_mul_le_self _ _
      _ ≤ net * supply := by
          rw [← sharedEq]
          exact Rounding.mulFloor_mul_le _ _ _
  have normalized : net * decimalScale contracts reserveAsset ≤ flow * preciseUnit := by
    calc net * decimalScale contracts reserveAsset ≤ (flow - premium) * preciseUnit := by
          rw [← netEq]
          exact Nat.div_mul_le_self _ _
      _ ≤ flow * preciseUnit := Nat.mul_le_mul_right _ (Nat.sub_le _ _)
  calc minted * Rounding.mulFloor preciseUnit supply valuation *
        decimalScale contracts reserveAsset
      ≤ minted * (setValue + whole - net) * decimalScale contracts reserveAsset := by
        refine Nat.mul_le_mul_right _ (Nat.mul_le_mul_left _ ?_)
        rw [valueEq]
        omega
    _ ≤ net * supply * decimalScale contracts reserveAsset := Nat.mul_le_mul_right _ spread
    _ = net * decimalScale contracts reserveAsset * supply := by ring
    _ ≤ flow * preciseUnit * supply := Nat.mul_le_mul_right _ normalized

/-- What a redemption pays, fees included, is worth no more than the burned Set tokens. -/
theorem getRedeemReserveQuantity_worth {gross : Nat}
    (returned : module.getRedeemReserveQuantity contracts reserveAsset quantity world =
      .ok gross) :
    ∃ valuation, module.Valued contracts reserveAsset world valuation ∧
      gross * preciseUnit ^ 2 ≤
        valuation * decimalScale contracts reserveAsset * quantity := by
  simp only [getRedeemReserveQuantity, bind_eq_ok, preciseMul_eq_ok, SafeMath.sub_eq_ok]
    at returned
  obtain ⟨valuation, valued, value, ⟨_, valueEq⟩, reserve, ⟨_, reserveEq⟩, premium, _, _, rfl⟩ :=
    returned
  refine ⟨valuation, valued, ?_⟩
  calc (reserve - premium) * preciseUnit ^ 2 ≤ reserve * preciseUnit ^ 2 :=
        Nat.mul_le_mul_right _ (Nat.sub_le _ _)
    _ = reserve * preciseUnit * preciseUnit := by ring
    _ ≤ value * decimalScale contracts reserveAsset * preciseUnit := by
        refine Nat.mul_le_mul_right _ ?_
        rw [← reserveEq]
        exact Rounding.mulFloor_mul_le _ _ _
    _ = value * preciseUnit * decimalScale contracts reserveAsset := by ring
    _ ≤ quantity * valuation * decimalScale contracts reserveAsset := by
        refine Nat.mul_le_mul_right _ ?_
        rw [← valueEq]
        exact Rounding.mulFloor_mul_le _ _ _
    _ = valuation * decimalScale contracts reserveAsset * quantity := by ring

/-! ### The margin of the Set -/

/-- What the Set holds of the reserve asset, less what its supply is worth at a valuation. The
reserve is counted in its own decimals, and both in units of `10 ^ -36`. -/
def margin (contracts : NAVContracts) (reserveAsset : Address) (valuation : Nat)
    (world : World) : Int :=
  world.held reserveAsset * preciseUnit ^ 2 -
    valuation * decimalScale contracts reserveAsset * world.setToken.totalSupply

/-- A call that trades Set tokens at a fair price: the margin of the Set falls by no more than the
rounding of an issuance, which is one unit for an issuance as large as the supply, and does not
fall at all when nothing is minted. -/
structure TradesFairly (contracts : NAVContracts) (reserveAsset : Address) (valuation : Nat)
    (world after : World) : Prop where
  rounding : (margin contracts reserveAsset valuation world -
      margin contracts reserveAsset valuation after) * world.setToken.totalSupply ≤
    ((after.setToken.totalSupply - world.setToken.totalSupply : Nat) : Int) *
      (preciseUnit * decimalScale contracts reserveAsset)
  redeeming : after.setToken.totalSupply ≤ world.setToken.totalSupply →
    margin contracts reserveAsset valuation world ≤ margin contracts reserveAsset valuation after

/-- What leaves the Set alone can only add to the margin. -/
theorem margin_mono (leaves : World.LeavesSetToken world hooked) :
    margin contracts reserveAsset valuation world ≤
      margin contracts reserveAsset valuation hooked := by
  unfold margin
  rw [leaves.setToken]
  have held : (world.held reserveAsset : Int) ≤ hooked.held reserveAsset := by
    exact_mod_cast leaves.held reserveAsset
  exact sub_le_sub_right (mul_le_mul_of_nonneg_right held (sq_nonneg _)) _

theorem TradesFairly.before (leaves : World.LeavesSetToken world hooked)
    (fair : TradesFairly contracts reserveAsset valuation hooked after) :
    TradesFairly contracts reserveAsset valuation world after := by
  have less : margin contracts reserveAsset valuation world ≤
      margin contracts reserveAsset valuation hooked := margin_mono leaves
  constructor
  · rw [← leaves.setToken]
    refine le_trans ?_ fair.rounding
    exact mul_le_mul_of_nonneg_right (sub_le_sub_right less _) (Int.natCast_nonneg _)
  · intro shrinks
    exact less.trans (fair.redeeming (leaves.setToken ▸ shrinks))

/-- An issuance at a fair price whose flow arrives. The floor of the total value is short of it
by less than one, which each minted Set token may gain. -/
theorem TradesFairly.of_issuance {minted flow : Nat}
    (worth : minted * Rounding.mulFloor preciseUnit world.setToken.totalSupply valuation *
      decimalScale contracts reserveAsset ≤ flow * preciseUnit * world.setToken.totalSupply)
    (supply : after.setToken.totalSupply = world.setToken.totalSupply + minted)
    (received : world.held reserveAsset + flow ≤ after.held reserveAsset) :
    TradesFairly contracts reserveAsset valuation world after := by
  have floor : world.setToken.totalSupply * valuation ≤
      (Rounding.mulFloor preciseUnit world.setToken.totalSupply valuation + 1) * preciseUnit := by
    have strict := Nat.lt_mul_div_succ (world.setToken.totalSupply * valuation) preciseUnit_pos
    rw [mul_comm preciseUnit] at strict
    exact strict.le
  have priced : valuation * decimalScale contracts reserveAsset * minted *
        world.setToken.totalSupply ≤
      flow * preciseUnit ^ 2 * world.setToken.totalSupply +
        minted * (preciseUnit * decimalScale contracts reserveAsset) := by
    calc valuation * decimalScale contracts reserveAsset * minted * world.setToken.totalSupply
        = world.setToken.totalSupply * valuation *
            (minted * decimalScale contracts reserveAsset) := by ring
      _ ≤ (Rounding.mulFloor preciseUnit world.setToken.totalSupply valuation + 1) *
            preciseUnit * (minted * decimalScale contracts reserveAsset) :=
          Nat.mul_le_mul_right _ floor
      _ = minted * Rounding.mulFloor preciseUnit world.setToken.totalSupply valuation *
            decimalScale contracts reserveAsset * preciseUnit +
            minted * (preciseUnit * decimalScale contracts reserveAsset) := by ring
      _ ≤ flow * preciseUnit * world.setToken.totalSupply * preciseUnit +
            minted * (preciseUnit * decimalScale contracts reserveAsset) :=
          Nat.add_le_add_right (Nat.mul_le_mul_right _ worth) _
      _ = flow * preciseUnit ^ 2 * world.setToken.totalSupply +
            minted * (preciseUnit * decimalScale contracts reserveAsset) := by ring
  have arrived : (world.held reserveAsset + flow : Int) ≤ after.held reserveAsset := by
    exact_mod_cast received
  have gained : margin contracts reserveAsset valuation world -
        margin contracts reserveAsset valuation after ≤
      valuation * decimalScale contracts reserveAsset * minted - flow * preciseUnit ^ 2 := by
    unfold margin
    rw [supply]
    push_cast
    have scaled := mul_le_mul_of_nonneg_right arrived (sq_nonneg (preciseUnit : Int))
    linarith
  constructor
  · rw [supply, Nat.add_sub_cancel_left]
    have spread := mul_le_mul_of_nonneg_right gained
      (Int.natCast_nonneg world.setToken.totalSupply)
    have pricedInt : (valuation * decimalScale contracts reserveAsset * minted *
          world.setToken.totalSupply : Int) ≤
        flow * preciseUnit ^ 2 * world.setToken.totalSupply +
          minted * (preciseUnit * decimalScale contracts reserveAsset) := by
      exact_mod_cast priced
    linarith
  · intro shrinks
    have none : minted = 0 := by omega
    subst none
    have nonneg : (0 : Int) ≤ flow * preciseUnit ^ 2 := by positivity
    push_cast at gained
    linarith

/-- A redemption at a fair price that takes no more than it pays. -/
theorem TradesFairly.of_redemption {gross : Nat}
    (worth : gross * preciseUnit ^ 2 ≤
      valuation * decimalScale contracts reserveAsset * quantity)
    (supply : world.setToken.totalSupply = after.setToken.totalSupply + quantity)
    (sent : world.held reserveAsset ≤ after.held reserveAsset + gross) :
    TradesFairly contracts reserveAsset valuation world after := by
  have left : (world.held reserveAsset : Int) ≤ after.held reserveAsset + gross := by
    exact_mod_cast sent
  have worthInt : (gross * preciseUnit ^ 2 : Int) ≤
      valuation * decimalScale contracts reserveAsset * quantity := by exact_mod_cast worth
  have kept : margin contracts reserveAsset valuation world ≤
      margin contracts reserveAsset valuation after := by
    unfold margin
    rw [supply]
    push_cast
    have scaled := mul_le_mul_of_nonneg_right left (sq_nonneg (preciseUnit : Int))
    linarith
  refine ⟨?_, fun _ => kept⟩
  have none : after.setToken.totalSupply - world.setToken.totalSupply = 0 := by omega
  rw [none, Nat.cast_zero, zero_mul]
  exact mul_nonpos_of_nonpos_of_nonneg (sub_nonpos.mpr kept) (Int.natCast_nonneg _)

/-! ### The calls -/

/-- The state in which a call asks for the valuation: the ether it is sent is wrapped, and the
hook of the manager has run. -/
def NAVCall.runHook (module : CustomOracleNAVIssuanceModule) (contracts : NAVContracts)
    (msgSender : Address) (world : World) : NAVCall → Outcome World
  | .issue reserveAsset quantity _ recipient =>
    module.callPreIssueHooks contracts reserveAsset quantity msgSender recipient world
  | .issueWithEther msgValue _ recipient => do
    let wrapped ← world.callToken module.weth (WETH9.deposit module.address msgValue)
    module.callPreIssueHooks contracts module.weth msgValue msgSender recipient wrapped
  | .redeem _ quantity _ recipient =>
    module.callPreRedeemHooks contracts quantity msgSender recipient world
  | .redeemIntoEther quantity _ recipient =>
    module.callPreRedeemHooks contracts quantity msgSender recipient world

/-- What a call did after the hook: it issued, which is counted, or it redeemed. -/
inductive Executed (module : CustomOracleNAVIssuanceModule) (contracts : NAVContracts)
    (reserveAsset : Address) (world hooked after : World) : Nat → Prop
  | issued {paid : World} {info : ActionInfo} {quantity : Nat} {recipient : Address}
      (leaves : World.LeavesSetToken world hooked)
      (computed : module.createIssuanceInfo contracts reserveAsset quantity hooked = .ok info)
      (only : World.OnlyBalances hooked paid)
      (received : hooked.held reserveAsset + info.netFlowQuantity ≤ paid.held reserveAsset)
      (updating : module.handleIssueStateUpdates reserveAsset recipient info paid = .ok after) :
      Executed module contracts reserveAsset world hooked after 1
  | redeemed {burned paid : World} {info : ActionInfo} {quantity : Nat}
      {msgSender : Address} (leaves : World.LeavesSetToken world hooked)
      (other : msgSender ≠ hooked.setToken.address)
      (computed : module.createRedemptionInfo contracts reserveAsset quantity hooked = .ok info)
      (burning : hooked.callSetToken
        (SetToken.burn ⟨hooked.controller, module.address⟩ msgSender quantity) = .ok burned)
      (only : World.OnlyBalances burned paid)
      (sent : burned.held reserveAsset ≤ paid.held reserveAsset +
        (info.netFlowQuantity + info.protocolFees + info.managerFee))
      (updating : module.handleRedeemStateUpdates reserveAsset info paid = .ok after) :
      Executed module contracts reserveAsset world hooked after 0

/-- The number of issuances of a call. -/
def NAVCall.issuances : NAVCall → Nat
  | .issue _ _ _ _ => 1
  | .issueWithEther _ _ _ => 1
  | .redeem _ _ _ _ => 0
  | .redeemIntoEther _ _ _ => 0

theorem issue_executed (quiet : contracts.HooksLeaveSetToken)
    (other : msgSender ≠ world.setToken.address)
    (returned : module.issue contracts msgSender reserveAsset quantity least recipient world =
      .ok after) :
    ∃ hooked, module.callPreIssueHooks contracts reserveAsset quantity msgSender recipient
        world = .ok hooked ∧
      module.Executed contracts reserveAsset world hooked after 1 := by
  simp only [issue, bind_eq_ok] at returned
  obtain ⟨_, _, _, _, hooked, hooking, info, computed, _, _, paid, paying, updating⟩ := returned
  have leaves := callPreIssueHooks_eq_ok quiet hooking
  have apart : msgSender ≠ hooked.setToken.address := leaves.setToken ▸ other
  obtain ⟨only, received⟩ := transferCollateralAndHandleFees_eq_ok apart paying
  exact ⟨hooked, hooking, .issued leaves computed only received updating⟩

theorem issueWithEther_executed (quiet : contracts.HooksLeaveSetToken)
    (apart : module.Apart world)
    (returned : module.issueWithEther contracts msgSender quantity least recipient world =
      .ok after) :
    ∃ hooked, (NAVCall.issueWithEther quantity least recipient).runHook module contracts
        msgSender world = .ok hooked ∧
      module.Executed contracts module.weth world hooked after 1 := by
  simp only [issueWithEther, bind_eq_ok] at returned
  obtain ⟨_, _, wrapped, wrapping, _, _, hooked, hooking, info, computed, _, _, paid, paying,
    updating⟩ := returned
  have wraps : World.LeavesSetToken world wrapped := World.LeavesSetToken.callToken apart.weth
    (fun _ => WETH9.deposit_balanceOf apart.address.symm) wrapping
  have leaves := wraps.trans (callPreIssueHooks_eq_ok quiet hooking)
  have payer : module.address ≠ hooked.setToken.address := leaves.setToken ▸ apart.address
  obtain ⟨only, received⟩ := transferWETHAndHandleFees_eq_ok payer paying
  refine ⟨hooked, ?_, .issued leaves computed only received updating⟩
  rw [NAVCall.runHook, wrapping, ok_bind, hooking]

theorem redeem_executed (quiet : contracts.HooksLeaveSetToken)
    (other : msgSender ≠ world.setToken.address)
    (returned : module.redeem contracts msgSender reserveAsset quantity least recipient world =
      .ok after) :
    ∃ hooked, module.callPreRedeemHooks contracts quantity msgSender recipient world =
        .ok hooked ∧
      module.Executed contracts reserveAsset world hooked after 0 := by
  simp only [redeem, bind_eq_ok, Prod.exists] at returned
  obtain ⟨info, burned, preparing, sent, sending, paid, paying, updating⟩ := returned
  obtain ⟨hooked, hooking, computed, burning⟩ := prepareRedeem_eq_ok preparing
  have leaves := callPreRedeemHooks_eq_ok quiet hooking
  obtain ⟨sentOnly, enough, sentHeld⟩ := World.strictInvokeTransfer_eq_ok sending
  obtain ⟨paidOnly, paidHeld⟩ := handleRedemptionFees_eq_ok paying
  have flows : burned.held reserveAsset ≤ paid.held reserveAsset +
      (info.netFlowQuantity + info.protocolFees + info.managerFee) := by
    have left : sent.held reserveAsset = burned.held reserveAsset - info.netFlowQuantity := by
      rw [sentHeld, Function.update_self]
    omega
  exact ⟨hooked, hooking, .redeemed leaves (leaves.setToken ▸ other) computed burning
    (sentOnly.trans paidOnly) flows updating⟩

theorem redeemIntoEther_executed (quiet : contracts.HooksLeaveSetToken)
    (apart : module.Apart world) (other : msgSender ≠ world.setToken.address)
    (returned : module.redeemIntoEther contracts msgSender quantity least recipient world =
      .ok after) :
    ∃ hooked, module.callPreRedeemHooks contracts quantity msgSender recipient world =
        .ok hooked ∧
      module.Executed contracts module.weth world hooked after 0 := by
  simp only [redeemIntoEther, bind_eq_ok, Prod.exists] at returned
  obtain ⟨info, burned, preparing, sent, sending, unwrapped, unwrapping, paid, paying,
    updating⟩ := returned
  obtain ⟨hooked, hooking, computed, burning⟩ := prepareRedeem_eq_ok preparing
  have leaves := callPreRedeemHooks_eq_ok quiet hooking
  obtain ⟨sentOnly, enough, sentHeld⟩ := World.strictInvokeTransfer_eq_ok sending
  obtain ⟨_, _, debited⟩ := SetToken.burn_eq_ok (World.callSetToken_eq_ok burning).1
  have address : sent.setToken.address = world.setToken.address := by
    rw [sentOnly.address, debited, leaves.setToken]
  have unwraps : World.LeavesSetToken sent unwrapped :=
    World.LeavesSetToken.callToken (address ▸ apart.weth)
      (fun _ => WETH9.withdraw_balanceOf (address ▸ apart.address.symm)) unwrapping
  obtain ⟨paidOnly, paidHeld⟩ := handleRedemptionFees_eq_ok paying
  have flows : burned.held module.weth ≤ paid.held module.weth +
      (info.netFlowQuantity + info.protocolFees + info.managerFee) := by
    have left : sent.held module.weth = burned.held module.weth - info.netFlowQuantity := by
      rw [sentHeld, Function.update_self]
    have freed := unwraps.held module.weth
    omega
  have only : World.OnlyBalances burned unwrapped :=
    sentOnly.trans (World.callToken_onlyBalances_of_ne (address ▸ apart.weth) unwrapping)
  exact ⟨hooked, hooking, .redeemed leaves (leaves.setToken ▸ other) computed burning
    (only.trans paidOnly) flows updating⟩

theorem NAVCall.executed (quiet : contracts.HooksLeaveSetToken) (apart : module.Apart world)
    (other : msgSender ≠ world.setToken.address) (call : NAVCall)
    (returned : call.apply module contracts msgSender world = .ok after) :
    ∃ hooked, call.runHook module contracts msgSender world = .ok hooked ∧
      module.Executed contracts (call.reserveAsset module) world hooked after
        call.issuances := by
  cases call with
  | issue reserveAsset quantity least recipient => exact issue_executed quiet other returned
  | issueWithEther msgValue least recipient => exact issueWithEther_executed quiet apart returned
  | redeem reserveAsset quantity least recipient => exact redeem_executed quiet other returned
  | redeemIntoEther quantity least recipient =>
    exact redeemIntoEther_executed quiet apart other returned

/-- An issuance that was computed and paid for is fair. -/
theorem fair_of_issuance
    (computed : module.createIssuanceInfo contracts reserveAsset quantity hooked = .ok info)
    (only : World.OnlyBalances hooked paid)
    (received : hooked.held reserveAsset + info.netFlowQuantity ≤ paid.held reserveAsset)
    (updating : module.handleIssueStateUpdates reserveAsset recipient info paid = .ok after) :
    ∃ valuation, module.Valued contracts reserveAsset hooked valuation ∧
      TradesFairly contracts reserveAsset valuation hooked after := by
  simp only [handleIssueStateUpdates, bind_eq_ok] at updating
  obtain ⟨written, writing, minting⟩ := updating
  obtain ⟨supply, held, _, _⟩ := writeReservePosition_eq_ok writing
  obtain ⟨minted, stored⟩ := World.callSetToken_eq_ok minting
  obtain ⟨_, credited⟩ := SetToken.mint_eq_ok minted
  have newSupply : after.setToken.totalSupply =
      hooked.setToken.totalSupply + info.setTokenQuantity := by
    rw [← only.totalSupply, ← supply, credited]
  have holdings : paid.held reserveAsset ≤ after.held reserveAsset := by
    rw [stored, ← held]
    exact World.held_le_of_mint minted reserveAsset
  simp only [createIssuanceInfo, bind_eq_ok, Prod.exists, pure_eq_ok] at computed
  obtain ⟨_, _, _, _, _, mintable, _, _, _, _, _, rfl⟩ := computed
  obtain ⟨valuation, valued, worth⟩ := getSetTokenMintQuantity_worth mintable
  exact ⟨valuation, valued,
    TradesFairly.of_issuance worth newSupply (received.trans holdings)⟩

/-- A redemption that was computed and paid out is fair. -/
theorem fair_of_redemption (other : msgSender ≠ hooked.setToken.address)
    (computed : module.createRedemptionInfo contracts reserveAsset quantity hooked = .ok info)
    (burning : hooked.callSetToken
      (SetToken.burn ⟨hooked.controller, module.address⟩ msgSender quantity) = .ok burned)
    (only : World.OnlyBalances burned paid)
    (sent : burned.held reserveAsset ≤ paid.held reserveAsset +
      (info.netFlowQuantity + info.protocolFees + info.managerFee))
    (updating : module.handleRedeemStateUpdates reserveAsset info paid = .ok after) :
    hooked.setToken.totalSupply = after.setToken.totalSupply + quantity ∧
      ∃ valuation, module.Valued contracts reserveAsset hooked valuation ∧
        TradesFairly contracts reserveAsset valuation hooked after := by
  obtain ⟨supply, held, _, _⟩ := writeReservePosition_eq_ok updating
  obtain ⟨burn, stored⟩ := World.callSetToken_eq_ok burning
  obtain ⟨_, enough, debited⟩ := SetToken.burn_eq_ok burn
  have holdings : burned.held reserveAsset = hooked.held reserveAsset := by
    rw [stored]
    exact World.held_of_burn other burn reserveAsset
  have newSupply : hooked.setToken.totalSupply = after.setToken.totalSupply + quantity := by
    rw [supply, only.totalSupply, debited]
    exact (Nat.sub_add_cancel enough).symm
  simp only [createRedemptionInfo, bind_eq_ok, Prod.exists, pure_eq_ok] at computed
  obtain ⟨gross, grossing, protocolFees, managerFee, net, fees, _, _, _, _, _, rfl⟩ := computed
  obtain ⟨valuation, valued, worth⟩ := getRedeemReserveQuantity_worth grossing
  refine ⟨newSupply, valuation, valued, TradesFairly.of_redemption worth newSupply ?_⟩
  rw [held, ← holdings, ← getFees_sum fees]
  exact sent

/-- What a call did was fair at the valuation reported after the hook, and what was not counted
as an issuance minted nothing. -/
theorem Executed.fair {issuances : Nat}
    (executed : module.Executed contracts reserveAsset world hooked after issuances) :
    (issuances = 0 → after.setToken.totalSupply ≤ world.setToken.totalSupply) ∧
      World.LeavesSetToken world hooked ∧ ∃ valuation,
        module.Valued contracts reserveAsset hooked valuation ∧
        TradesFairly contracts reserveAsset valuation world after := by
  cases executed with
  | issued leaves computed only received updating =>
    obtain ⟨valuation, valued, fair⟩ := fair_of_issuance computed only received updating
    exact ⟨fun none => absurd none Nat.one_ne_zero, leaves, valuation, valued,
      fair.before leaves⟩
  | redeemed leaves other computed burning only sent updating =>
    obtain ⟨supply, valuation, valued, fair⟩ :=
      fair_of_redemption other computed burning only sent updating
    refine ⟨fun _ => ?_, leaves, valuation, valued, fair.before leaves⟩
    rw [← leaves.setToken, supply]
    exact Nat.le_add_right _ _

/-- Whatever the valuer reports after the hook of the manager, the fees and the premium are, every
call trades Set tokens at a fair price: it leaves the other holders at least the margin they had,
up to the rounding of an issuance. -/
theorem calls_trade_fairly (quiet : contracts.HooksLeaveSetToken) (apart : module.Apart world)
    (other : msgSender ≠ world.setToken.address) (call : NAVCall)
    (returned : call.apply module contracts msgSender world = .ok after) :
    ∃ hooked valuation, call.runHook module contracts msgSender world = .ok hooked ∧
      World.LeavesSetToken world hooked ∧
      module.Valued contracts (call.reserveAsset module) hooked valuation ∧
      TradesFairly contracts (call.reserveAsset module) valuation world after := by
  obtain ⟨hooked, hooking, executed⟩ := call.executed quiet apart other returned
  obtain ⟨_, leaves, valuation, valued, fair⟩ := executed.fair
  exact ⟨hooked, valuation, hooking, leaves, valued, fair⟩

/-- An issuance whose rounding leaves a gap. -/
theorem calls_trade_fairly_sample :
    ∃ after, (NAVCall.issue 3 (15 * 10 ^ 17 + 1) 0 7).apply sampleNAVModule sampleContracts 7
        sampleReserveWorld = .ok after ∧
      TradesFairly sampleContracts 3 (15 * 10 ^ 17) sampleReserveWorld after := by
  have succeeds : returns ((NAVCall.issue 3 (15 * 10 ^ 17 + 1) 0 7).apply sampleNAVModule
      sampleContracts 7 sampleReserveWorld) (fun _ => true) = true := by
    decide
  obtain ⟨after, returned, _⟩ := exists_of_returns succeeds
  have apart : sampleNAVModule.Apart sampleReserveWorld := by constructor <;> decide
  obtain ⟨_, _, _, _, valued, fair⟩ := calls_trade_fairly sampleContracts_quiet apart (by decide)
    (NAVCall.issue 3 (15 * 10 ^ 17 + 1) 0 7) returned
  obtain rfl := Except.ok.inj valued
  exact ⟨after, returned, fair⟩

/-! ### Runs -/

/-- Calls of anybody against one reserve asset, at each of which the valuer reports one valuation,
with changes in between that leave the Set alone, and the number of issuances. No issuance is
larger than the supply it adds to. -/
inductive NAVRun (module : CustomOracleNAVIssuanceModule) (contracts : NAVContracts)
    (reserveAsset : Address) (valuation : Nat) (start : World) : Nat → World → Prop
  | start : NAVRun module contracts reserveAsset valuation start 0 start
  | outside {issuances : Nat} {world next : World}
      (run : NAVRun module contracts reserveAsset valuation start issuances world)
      (leaves : World.LeavesSetToken world next) :
      NAVRun module contracts reserveAsset valuation start issuances next
  | call {issuances : Nat} {world next : World}
      (run : NAVRun module contracts reserveAsset valuation start issuances world)
      (msgSender : Address) (call : NAVCall) (asset : call.reserveAsset module = reserveAsset)
      (apart : module.Apart world) (other : msgSender ≠ world.setToken.address)
      (steady : ∀ hooked, call.runHook module contracts msgSender world = .ok hooked →
        module.Valued contracts reserveAsset hooked valuation)
      (returned : call.apply module contracts msgSender world = .ok next)
      (bounded : next.setToken.totalSupply ≤ 2 * world.setToken.totalSupply) :
      NAVRun module contracts reserveAsset valuation start (issuances + call.issuances) next

/-- The margin falls by at most one unit for an issuance that does not double the supply. -/
theorem TradesFairly.margin_le {issuances : Nat}
    (fair : TradesFairly contracts reserveAsset valuation world after)
    (counted : issuances = 0 → after.setToken.totalSupply ≤ world.setToken.totalSupply)
    (bounded : after.setToken.totalSupply ≤ 2 * world.setToken.totalSupply) :
    margin contracts reserveAsset valuation world ≤
      margin contracts reserveAsset valuation after +
        issuances * (preciseUnit * decimalScale contracts reserveAsset) := by
  have unit : (0 : Int) ≤ preciseUnit * decimalScale contracts reserveAsset := by positivity
  by_cases shrinks : after.setToken.totalSupply ≤ world.setToken.totalSupply
  · have kept := fair.redeeming shrinks
    have spare : (0 : Int) ≤ issuances * (preciseUnit * decimalScale contracts reserveAsset) :=
      mul_nonneg (Int.natCast_nonneg _) unit
    linarith
  · have supplyPositive : (0 : Int) < world.setToken.totalSupply := by
      have : 0 < world.setToken.totalSupply := by omega
      exact_mod_cast this
    have minted : ((after.setToken.totalSupply - world.setToken.totalSupply : Nat) : Int) ≤
        world.setToken.totalSupply := by
      have : after.setToken.totalSupply - world.setToken.totalSupply ≤
          world.setToken.totalSupply := by omega
      exact_mod_cast this
    have rounding := fair.rounding.trans (mul_le_mul_of_nonneg_right minted unit)
    rw [mul_comm (world.setToken.totalSupply : Int)] at rounding
    have single := le_of_mul_le_mul_right rounding supplyPositive
    have counts : (1 : Int) ≤ issuances := by
      have : issuances ≠ 0 := fun none => shrinks (counted none)
      exact_mod_cast Nat.one_le_iff_ne_zero.mpr this
    have several := mul_le_mul_of_nonneg_right counts unit
    linarith

/-- The margin falls by at most one unit for each issuance of a run. -/
theorem NAVRun.margin_le (quiet : contracts.HooksLeaveSetToken) {issuances : Nat}
    (run : NAVRun module contracts reserveAsset valuation world issuances after) :
    margin contracts reserveAsset valuation world ≤
      margin contracts reserveAsset valuation after +
        issuances * (preciseUnit * decimalScale contracts reserveAsset) := by
  induction run with
  | start => rw [Nat.cast_zero, zero_mul, add_zero]
  | outside run leaves kept =>
    exact kept.trans (add_le_add_left (margin_mono leaves) _)
  | call run msgSender call asset apart other steady returned bounded kept =>
    subst asset
    obtain ⟨hooked, hooking, executed⟩ := call.executed quiet apart other returned
    obtain ⟨counted, _, reported, valued, fair⟩ := executed.fair
    obtain rfl := Except.ok.inj (valued.symm.trans (steady hooked hooking))
    have step := fair.margin_le counted bounded
    push_cast
    linarith

/-- While the valuer reports one valuation at its calls, no run of issuances and redemptions of anybody takes
more out of the reserve than the Set tokens that it takes out of the supply are worth, but for
`10 ^ -18` of a reserve token for each issuance. When as much is redeemed as is issued, the reserve
loses at most one of its own units for each. -/
theorem reserve_after_calls (quiet : contracts.HooksLeaveSetToken) {issuances : Nat}
    (run : NAVRun module contracts reserveAsset valuation world issuances after) :
    world.held reserveAsset * preciseUnit ^ 2 +
          valuation * decimalScale contracts reserveAsset * after.setToken.totalSupply ≤
        after.held reserveAsset * preciseUnit ^ 2 +
          valuation * decimalScale contracts reserveAsset * world.setToken.totalSupply +
          issuances * (preciseUnit * decimalScale contracts reserveAsset) ∧
      (after.setToken.totalSupply = world.setToken.totalSupply →
        decimalScale contracts reserveAsset ≤ preciseUnit →
          world.held reserveAsset ≤ after.held reserveAsset + issuances) := by
  have kept := run.margin_le quiet
  have total : world.held reserveAsset * preciseUnit ^ 2 +
        valuation * decimalScale contracts reserveAsset * after.setToken.totalSupply ≤
      after.held reserveAsset * preciseUnit ^ 2 +
        valuation * decimalScale contracts reserveAsset * world.setToken.totalSupply +
        issuances * (preciseUnit * decimalScale contracts reserveAsset) := by
    unfold margin at kept
    zify
    linarith only [kept]
  refine ⟨total, fun supply small => ?_⟩
  rw [supply] at total
  have unit : preciseUnit * decimalScale contracts reserveAsset ≤ preciseUnit ^ 2 := by
    rw [sq]
    exact Nat.mul_le_mul_left _ small
  have spread := Nat.mul_le_mul_left issuances unit
  refine Nat.le_of_mul_le_mul_right ?_ (pow_pos preciseUnit_pos 2)
  rw [Nat.add_mul]
  omega

/-- An issuance against one and a half of the reserve asset, and a redemption of one Set token. -/
theorem reserve_after_calls_sample :
    ∃ after, NAVRun sampleNAVModule sampleContracts 3 (15 * 10 ^ 17) sampleReserveWorld 1 after ∧
      sampleReserveWorld.held 3 * preciseUnit ^ 2 + 15 * 10 ^ 17 *
          decimalScale sampleContracts 3 * after.setToken.totalSupply ≤
        after.held 3 * preciseUnit ^ 2 + 15 * 10 ^ 17 * decimalScale sampleContracts 3 *
          sampleReserveWorld.setToken.totalSupply +
          (1 : Nat) * (preciseUnit * decimalScale sampleContracts 3) := by
  have succeeds : returns ((NAVCall.issue 3 (15 * 10 ^ 17 + 1) 0 7).apply sampleNAVModule
      sampleContracts 7 sampleReserveWorld) (fun issued =>
        decide (sampleNAVModule.address ≠ issued.setToken.address ∧
          sampleNAVModule.weth ≠ issued.setToken.address ∧ 7 ≠ issued.setToken.address ∧
          issued.setToken.totalSupply ≤ 2 * sampleReserveWorld.setToken.totalSupply) &&
        returns ((NAVCall.redeem 3 (10 ^ 18) 0 7).apply sampleNAVModule sampleContracts 7 issued)
          fun redeemed => decide (redeemed.setToken.totalSupply ≤
            2 * issued.setToken.totalSupply)) = true := by
    decide
  obtain ⟨issued, issuing, followed⟩ := exists_of_returns succeeds
  obtain ⟨checked, redeems⟩ := (Bool.and_eq_true _ _).mp followed
  obtain ⟨module, weth, holder, doubled⟩ := of_decide_eq_true checked
  obtain ⟨redeemed, redeeming, bounded⟩ := exists_of_returns redeems
  have first : NAVRun sampleNAVModule sampleContracts 3 (15 * 10 ^ 17) sampleReserveWorld 1
      issued :=
    .call .start 7 (.issue 3 (15 * 10 ^ 17 + 1) 0 7) rfl (by constructor <;> decide) (by decide)
      (fun _ _ => rfl) issuing doubled
  have run : NAVRun sampleNAVModule sampleContracts 3 (15 * 10 ^ 17) sampleReserveWorld 1
      redeemed :=
    .call first 7 (.redeem 3 (10 ^ 18) 0 7) rfl ⟨module, weth⟩ holder (fun _ _ => rfl) redeeming
      (of_decide_eq_true bounded)
  exact ⟨redeemed, run, (reserve_after_calls sampleContracts_quiet run).1⟩

/-! ### The protocol's own valuer -/

/-- The valuer that the module asks is the protocol's. -/
def ValuedBy (module : CustomOracleNAVIssuanceModule) (contracts : NAVContracts)
    (valuers : ValuerContracts) : Prop :=
  contracts.decimals = valuers.decimals ∧ ∀ quoteAsset world,
    contracts.calculateSetTokenValuation (module.setValuer contracts) quoteAsset world =
      SetValuer.calculateSetTokenValuation valuers (module.setValuer contracts) world.setToken
        quoteAsset

/-- The worth of a Set token in a quote asset at the oracle prices, without any rounding. -/
def exactWorth (module : CustomOracleNAVIssuanceModule) (contracts : NAVContracts)
    (valuers : ValuerContracts) (setToken : SetToken) (quoteAsset : Address) : ℚ :=
  (setToken.components.map
    (SetValuer.exactValue valuers (module.setValuer contracts) setToken)).sum *
    SetValuer.quoteRate valuers (module.setValuer contracts) quoteAsset

/-- A redemption from a Set without debts takes no more of the reserve, fees included, than the
burned Set tokens are worth at the oracle prices. -/
theorem redemption_within_worth {valuers : ValuerContracts} (quiet : contracts.HooksLeaveSetToken)
    (apart : module.Apart world) (other : msgSender ≠ world.setToken.address) (call : NAVCall)
    (redeems : call.issuances = 0) (valuedBy : module.ValuedBy contracts valuers)
    (owned : ∀ component ∈ world.setToken.components,
      0 ≤ SetValuer.unitsOf world.setToken component)
    (returned : call.apply module contracts msgSender world = .ok after) :
    ((world.held (call.reserveAsset module) : ℚ) - after.held (call.reserveAsset module)) *
        preciseUnit ^ 2 ≤
      module.exactWorth contracts valuers world.setToken (call.reserveAsset module) *
        decimalScale contracts (call.reserveAsset module) *
        (world.setToken.totalSupply - after.setToken.totalSupply) := by
  obtain ⟨hooked, _, executed⟩ := call.executed quiet apart other returned
  obtain ⟨counted, leaves, valuation, valued, fair⟩ := executed.fair
  have shrinks := counted redeems
  unfold Valued at valued
  rw [valuedBy.2, leaves.setToken] at valued
  have worth : (valuation : ℚ) ≤
      module.exactWorth contracts valuers world.setToken (call.reserveAsset module) :=
    (SetValuer.valuation_accurate valued).2.1 owned
  have kept : ((margin contracts (call.reserveAsset module) valuation world : Int) : ℚ) ≤
      margin contracts (call.reserveAsset module) valuation after := by
    exact_mod_cast fair.redeeming shrinks
  unfold margin at kept
  push_cast at kept
  have burned : (0 : ℚ) ≤ decimalScale contracts (call.reserveAsset module) *
      ((world.setToken.totalSupply : ℚ) - after.setToken.totalSupply) := by
    have supplies : (after.setToken.totalSupply : ℚ) ≤ world.setToken.totalSupply := by
      exact_mod_cast shrinks
    exact mul_nonneg (Nat.cast_nonneg _) (sub_nonneg.mpr supplies)
  have scaled := mul_le_mul_of_nonneg_right worth burned
  linarith

/-- A valuer at account 8 in whose oracle token 6 is worth 0.7 of the reserve asset. -/
def sampleValuers : ValuerContracts where
  registry := { ControllerRegistry.construct 9 9 with isResource := fun account => account = 8 }
  controllerAddress := 1
  priceOracle :=
    { owner := 9
      oracles := fun asset quoteAsset => if quoteAsset = 3 then asset + 20 else 0
      masterQuoteAsset := 3
      adapters := [] }
  feeds :=
    { read := fun oracle => pure (if oracle = 23 then 10 ^ 18 else 7 * 10 ^ 17)
      adapterPrice := fun _ _ _ => pure (false, 0) }
  decimals := fun _ => 18

def sampleOracleContracts : NAVContracts :=
  { sampleContracts with
    calculateSetTokenValuation := fun valuer quoteAsset world =>
      SetValuer.calculateSetTokenValuation sampleValuers valuer world.setToken quoteAsset }

/-- A redemption of a third of a Set token. -/
theorem redemption_within_worth_sample :
    ∃ after, (NAVCall.redeem 3 (10 ^ 18 / 3) 0 7).apply sampleNAVModule sampleOracleContracts 7
        sampleReserveWorld = .ok after ∧
      ((sampleReserveWorld.held 3 : ℚ) - after.held 3) * preciseUnit ^ 2 ≤
        sampleNAVModule.exactWorth sampleOracleContracts sampleValuers
            sampleReserveWorld.setToken 3 * decimalScale sampleOracleContracts 3 *
          (sampleReserveWorld.setToken.totalSupply - after.setToken.totalSupply) := by
  have succeeds : returns ((NAVCall.redeem 3 (10 ^ 18 / 3) 0 7).apply sampleNAVModule
      sampleOracleContracts 7 sampleReserveWorld) (fun _ => true) = true := by
    decide
  obtain ⟨after, returned, _⟩ := exists_of_returns succeeds
  have quiet : sampleOracleContracts.HooksLeaveSetToken :=
    ⟨sampleContracts_quiet.issue, sampleContracts_quiet.redeem⟩
  have apart : sampleNAVModule.Apart sampleReserveWorld := by constructor <;> decide
  have owned : sampleReserveWorld.setToken.components.all (fun component =>
      decide (0 ≤ SetValuer.unitsOf sampleReserveWorld.setToken component)) = true := by decide
  exact ⟨after, returned, redemption_within_worth quiet apart (by decide)
    (NAVCall.redeem 3 (10 ^ 18 / 3) 0 7) rfl ⟨rfl, fun _ _ => rfl⟩
    (fun component listed => of_decide_eq_true (List.all_eq_true.mp owned component listed))
    returned⟩

end CustomOracleNAVIssuanceModule

end IndexProtocol

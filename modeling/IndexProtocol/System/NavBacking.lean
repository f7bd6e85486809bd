/-
This file proves that issuing and redeeming at net asset value keeps the reserve
position backed. The new reserve unit is the floor of what the position tracks
after the flow, spread over the predicted supply. The flow that is added to the
tracked amount arrives at the Set, the flow and the fees that are taken from it
leave the Set, and the supply becomes the predicted one. Storing the unit under
the new multiplier can only lower it, and no other stored unit is written.
-/

import IndexProtocol.Modules.CustomOracleNAVIssuanceModule
import IndexProtocol.Protocol.PositionBookkeeping

namespace IndexProtocol

open Revert PreciseUnitMath

/-! ### Backing -/

/-- The Set holds at least what its supply tracks of the reserve asset. -/
def World.ReserveBacked (world : World) (reserveAsset : Address) : Prop :=
  (world.setToken.totalSupply : Int) * world.setToken.defaultRealUnit reserveAsset ≤
    (world.held reserveAsset : Int) * preciseUnit

/-- No stored unit differs but that of the default position in the reserve asset. -/
structure SetToken.OtherUnitsKept (reserveAsset : Address) (setToken other : SetToken) :
    Prop where
  default : ∀ component, component ≠ reserveAsset →
    other.defaultPositionVirtualUnit component = setToken.defaultPositionVirtualUnit component
  external : ∀ component module,
    other.externalPositionVirtualUnit component module =
      setToken.externalPositionVirtualUnit component module

/-- The Set is the same, and nothing is taken from what it holds. -/
structure World.LeavesSetToken (world next : World) : Prop where
  setToken : next.setToken = world.setToken
  held : ∀ token, world.held token ≤ next.held token

namespace SetToken.OtherUnitsKept

variable {reserveAsset : Address} {setToken middle other : SetToken}

theorem trans (first : OtherUnitsKept reserveAsset setToken middle)
    (second : OtherUnitsKept reserveAsset middle other) :
    OtherUnitsKept reserveAsset setToken other where
  default := fun component different =>
    (second.default component different).trans (first.default component different)
  external := fun component module =>
    (second.external component module).trans (first.external component module)

theorem of_samePositions (same : SamePositions setToken other) :
    OtherUnitsKept reserveAsset setToken other := by
  constructor
  · intro component _
    unfold defaultPositionVirtualUnit
    rw [same.componentPositions]
  · intro component module
    unfold externalPositionVirtualUnit
    rw [same.componentPositions]

end SetToken.OtherUnitsKept

namespace World.LeavesSetToken

variable {world next : World}

theorem refl (world : World) : LeavesSetToken world world :=
  ⟨rfl, fun _ => le_rfl⟩

theorem trans {middle : World} (first : LeavesSetToken world middle)
    (second : LeavesSetToken middle next) : LeavesSetToken world next :=
  ⟨second.setToken.trans first.setToken, fun token => (first.held token).trans (second.held token)⟩

/-- A change of another token that takes nothing from the Set's balance leaves the Set alone. -/
theorem callToken {token : Address} {call : ERC20 → Outcome ERC20}
    (different : token ≠ world.setToken.address)
    (kept : ∀ changed, call (world.token token) = .ok changed →
      changed.balanceOf world.setToken.address =
        (world.token token).balanceOf world.setToken.address)
    (returned : world.callToken token call = .ok next) : LeavesSetToken world next := by
  obtain ⟨changed, called, rfl⟩ := callToken_eq_ok returned
  refine ⟨?_, fun held => ?_⟩
  · unfold storeToken
    rw [if_neg different]
  · rw [held_storeToken]
    by_cases same : held = token
    · subst same
      rw [Function.update_self, kept changed called]
      exact le_rfl
    · rw [Function.update_of_ne same]

/-- A Set left alone stays backed. -/
theorem backed {reserveAsset : Address} (leaves : LeavesSetToken world next)
    (backed : world.ReserveBacked reserveAsset) : next.ReserveBacked reserveAsset := by
  unfold World.ReserveBacked at backed ⊢
  rw [leaves.setToken]
  refine backed.trans (mul_le_mul_of_nonneg_right ?_ preciseUnit_int_pos.le)
  exact_mod_cast leaves.held reserveAsset

end World.LeavesSetToken

/-- The manager's hooks leave the Set alone. -/
structure NAVContracts.HooksLeaveSetToken (contracts : NAVContracts) : Prop where
  issue : ∀ hook reserveAsset quantity caller recipient world next,
    contracts.invokePreIssueHook hook reserveAsset quantity caller recipient world = .ok next →
      World.LeavesSetToken world next
  redeem : ∀ hook quantity caller recipient world next,
    contracts.invokePreRedeemHook hook quantity caller recipient world = .ok next →
      World.LeavesSetToken world next

namespace CustomOracleNAVIssuanceModule

variable {module : CustomOracleNAVIssuanceModule} {contracts : NAVContracts}
  {world hooked paid after : World} {msgSender reserveAsset recipient : Address}
  {info : ActionInfo} {quantity least : Nat}

/-! ### What an order computes -/

/-- The computed reserve unit of an issuance, times the new supply, is at most what was tracked
and the net flow. -/
theorem createIssuanceInfo_eq_ok
    (returned : module.createIssuanceInfo contracts reserveAsset quantity world = .ok info) :
    ∃ existing : Nat, world.setToken.defaultRealUnit reserveAsset = existing ∧
      info.newReservePositionUnit * (world.setToken.totalSupply + info.setTokenQuantity) ≤
        existing * world.setToken.totalSupply + info.netFlowQuantity * preciseUnit := by
  simp only [createIssuanceInfo, getIssuePositionMultiplier, getIssuePositionUnit, bind_eq_ok,
    Prod.exists, Prod.mk.injEq, SafeMath.add_eq_ok, SetToken.getDefaultPositionRealUnit_eq_ok,
    SafeCast.toUint256_eq_ok, preciseMul_eq_ok, preciseDiv_eq_ok, pure_eq_ok] at returned
  obtain ⟨_, _, net, _, minted, _, _, _, ⟨_, ⟨_, rfl⟩, _, _, rfl, rfl⟩, unit,
    ⟨_, ⟨_, rfl⟩, existing, read, _, ⟨_, rfl⟩, _, ⟨_, rfl⟩, _, _, quotient⟩, rfl⟩ := returned
  refine ⟨existing, read, ?_⟩
  show unit * (world.setToken.totalSupply + minted) ≤ _
  rw [← quotient, Nat.add_comm _ minted]
  refine (Nat.div_mul_le_self _ _).trans ?_
  rw [Nat.add_mul]
  exact Nat.add_le_add_right (Rounding.mulFloor_mul_le _ _ _) _

/-- The computed reserve unit of a redemption, times the new supply, together with everything
that flows out, is at most what was tracked. -/
theorem createRedemptionInfo_eq_ok
    (returned : module.createRedemptionInfo contracts reserveAsset quantity world = .ok info) :
    ∃ existing : Nat, world.setToken.defaultRealUnit reserveAsset = existing ∧
      info.newReservePositionUnit * (world.setToken.totalSupply - quantity) +
          (info.netFlowQuantity + info.protocolFees + info.managerFee) * preciseUnit ≤
        existing * world.setToken.totalSupply := by
  simp only [createRedemptionInfo, getRedeemPositionMultiplier, getRedeemPositionUnit,
    bind_eq_ok, Prod.exists, Prod.mk.injEq, SafeMath.add_eq_ok, SafeMath.sub_eq_ok,
    SetToken.getDefaultPositionRealUnit_eq_ok, SafeCast.toUint256_eq_ok, preciseMul_eq_ok,
    preciseDiv_eq_ok, pure_eq_ok] at returned
  obtain ⟨_, _, protocolFees, managerFee, net, _, _, _, ⟨_, ⟨_, rfl⟩, _, _, rfl, rfl⟩, unit,
    ⟨_, ⟨_, rfl⟩, existing, read, _, ⟨_, rfl⟩, _, ⟨_, rfl⟩, _, ⟨_, rfl⟩, _, _, _, ⟨enough, rfl⟩,
      _, _, quotient⟩, rfl⟩ := returned
  refine ⟨existing, read, ?_⟩
  have spread : unit * (world.setToken.totalSupply - quantity) ≤
      (Rounding.mulFloor preciseUnit existing world.setToken.totalSupply -
        (net + protocolFees + managerFee)) * preciseUnit := by
    rw [← quotient]
    exact Nat.div_mul_le_self _ _
  calc unit * (world.setToken.totalSupply - quantity) +
        (net + protocolFees + managerFee) * preciseUnit
      ≤ (Rounding.mulFloor preciseUnit existing world.setToken.totalSupply -
          (net + protocolFees + managerFee)) * preciseUnit +
          (net + protocolFees + managerFee) * preciseUnit := Nat.add_le_add_right spread _
    _ = Rounding.mulFloor preciseUnit existing world.setToken.totalSupply * preciseUnit := by
        rw [← Nat.add_mul, Nat.sub_add_cancel enough]
    _ ≤ existing * world.setToken.totalSupply := Rounding.mulFloor_mul_le _ _ _

/-! ### What the state updates write -/

/-- The reserve unit reads back as at most the computed one, and nothing else of the Set's
supply, balances and stored units changes. -/
theorem writeReservePosition_eq_ok
    (returned : module.writeReservePosition reserveAsset info world = .ok after) :
    after.setToken.totalSupply = world.setToken.totalSupply ∧ after.held = world.held ∧
      after.setToken.defaultRealUnit reserveAsset ≤ info.newReservePositionUnit ∧
      SetToken.OtherUnitsKept reserveAsset world.setToken after.setToken := by
  simp only [writeReservePosition, bind_eq_ok] at returned
  obtain ⟨rescaled, rescaling, rewriting⟩ := returned
  obtain ⟨edited, stored⟩ := World.callSetToken_eq_ok rescaling
  obtain ⟨_, valid, written⟩ := SetToken.editPositionMultiplier_eq_ok edited
  obtain ⟨_, _, _, positive⟩ := validateNewMultiplier_eq_ok valid
  have multiplier : 0 < rescaled.setToken.positionMultiplier := by rwa [written]
  obtain ⟨opened, rewritten⟩ := World.callSetToken_eq_ok rewriting
  obtain ⟨_, _, unit, _⟩ := Position.editDefaultPosition_unit multiplier opened
  obtain ⟨_, _, _, _, _, _, _, replaced⟩ := Position.editDefaultPosition_eq_ok opened
  refine ⟨?_, ?_, unit, ?_⟩
  · rw [replaced, written]
    rfl
  · rw [rewritten, replaced, stored, written]
    rfl
  · rw [replaced, written]
    constructor
    · intro component different
      unfold SetToken.defaultPositionVirtualUnit
      rw [SetToken.editComponent_other _ _ _ different]
    · intro component module
      unfold SetToken.externalPositionVirtualUnit
      by_cases same : component = reserveAsset
      · subst same
        rw [SetToken.editComponent_self]
      · rw [SetToken.editComponent_other _ _ _ same]

/-- A reserve unit that the holdings cover at the new supply is backed once it is stored. -/
theorem backed_of_covered {supply unit : Nat}
    (totalSupply : after.setToken.totalSupply = supply)
    (stored : after.setToken.defaultRealUnit reserveAsset ≤ unit)
    (covered : unit * supply ≤ after.held reserveAsset * preciseUnit) :
    after.ReserveBacked reserveAsset := by
  unfold World.ReserveBacked
  rw [totalSupply]
  calc (supply : Int) * after.setToken.defaultRealUnit reserveAsset ≤ supply * unit :=
        mul_le_mul_of_nonneg_left stored (Int.natCast_nonneg _)
    _ = ((unit * supply : Nat) : Int) := by push_cast; ring
    _ ≤ after.held reserveAsset * preciseUnit := by exact_mod_cast covered

/-- The backing of a Set with a natural reserve unit. -/
theorem tracked_le (backed : world.ReserveBacked reserveAsset) {existing : Nat}
    (read : world.setToken.defaultRealUnit reserveAsset = existing) :
    existing * world.setToken.totalSupply ≤ world.held reserveAsset * preciseUnit := by
  unfold World.ReserveBacked at backed
  rw [read, mul_comm] at backed
  exact_mod_cast backed

/-! ### What the payments move -/

/-- A fee is paid or there is none. -/
theorem payFee_cases {fee : Nat} {pay : Nat → World → Outcome World}
    (returned : payFee fee pay world = .ok after) :
    pay fee world = .ok after ∨ fee = 0 ∧ after = world := by
  unfold payFee at returned
  split at returned
  · exact Or.inl returned
  · rename_i none
    exact Or.inr ⟨Nat.eq_zero_of_not_pos none, ((pure_eq_ok _ _).mp returned).symm⟩

/-- Only balances change, and nothing is taken from what the Set holds. -/
def Gains (world next : World) : Prop :=
  World.OnlyBalances world next ∧ ∀ token, world.held token ≤ next.held token

theorem Gains.trans (first : Gains world hooked) (second : Gains hooked paid) :
    Gains world paid :=
  ⟨first.1.trans second.1, fun token => (first.2 token).trans (second.2 token)⟩

theorem payFee_gains {fee : Nat} {pay : Nat → World → Outcome World}
    (gains : ∀ next, pay fee world = .ok next → Gains world next)
    (returned : payFee fee pay world = .ok after) : Gains world after := by
  rcases payFee_cases returned with paying | ⟨_, rfl⟩
  · exact gains after paying
  · exact ⟨World.OnlyBalances.refl _, fun _ => le_rfl⟩

/-- The net flow arrives at the Set, whatever the fees. -/
theorem transferCollateralAndHandleFees_eq_ok (other : msgSender ≠ world.setToken.address)
    (returned : module.transferCollateralAndHandleFees msgSender reserveAsset info world =
      .ok paid) :
    World.OnlyBalances world paid ∧
      world.held reserveAsset + info.netFlowQuantity ≤ paid.held reserveAsset := by
  simp only [transferCollateralAndHandleFees, bind_eq_ok] at returned
  obtain ⟨collected, collecting, protocolPaid, protocolPaying, managerPaying⟩ := returned
  obtain ⟨only, held⟩ := World.explicitTransferFrom_eq_ok collecting
  have apart : msgSender ≠ collected.setToken.address := only.address.symm ▸ other
  have protocolGains : Gains collected protocolPaid := by
    refine payFee_gains (fun next collects => ?_) protocolPaying
    exact World.explicitTransferFrom_other apart collects
  have still : msgSender ≠ protocolPaid.setToken.address :=
    protocolGains.1.address.symm ▸ apart
  have managerGains : Gains protocolPaid paid := by
    refine payFee_gains (fun next collects => ?_) managerPaying
    exact World.explicitTransferFrom_other still collects
  have gains : Gains collected paid := protocolGains.trans managerGains
  refine ⟨only.trans gains.1, ?_⟩
  have received : collected.held reserveAsset =
      world.held reserveAsset + info.netFlowQuantity := by
    rw [held, Function.update_self]
  exact received ▸ gains.2 reserveAsset

theorem transferWETHAndHandleFees_eq_ok (other : module.address ≠ world.setToken.address)
    (returned : module.transferWETHAndHandleFees info world = .ok paid) :
    World.OnlyBalances world paid ∧
      world.held module.weth + info.netFlowQuantity ≤ paid.held module.weth := by
  simp only [transferWETHAndHandleFees, bind_eq_ok] at returned
  obtain ⟨collected, collecting, protocolPaid, protocolPaying, managerPaying⟩ := returned
  obtain ⟨only, _, received⟩ := World.callToken_move_eq_ok other collecting
  have gains : ∀ {before : World} {account : Address} {fee : Nat},
      World.OnlyBalances world before → ∀ next, module.transferWETH account fee before = .ok next →
        Gains before next := by
    intro before account fee unchanged next moving
    obtain ⟨balances, held, _⟩ :=
      World.callToken_move_eq_ok (unchanged.address ▸ other) moving
    exact ⟨balances, held⟩
  have protocolGains : Gains collected protocolPaid := payFee_gains (gains only) protocolPaying
  have both := protocolGains.trans
    (payFee_gains (gains (only.trans protocolGains.1)) managerPaying)
  exact ⟨only.trans both.1, received rfl ▸ both.2 module.weth⟩

/-- Both fees leave the Set. -/
theorem handleRedemptionFees_eq_ok
    (returned : module.handleRedemptionFees reserveAsset info world = .ok paid) :
    World.OnlyBalances world paid ∧ world.held reserveAsset =
      paid.held reserveAsset + (info.protocolFees + info.managerFee) := by
  simp only [handleRedemptionFees, bind_eq_ok] at returned
  obtain ⟨protocolPaid, protocolPaying, managerPaying⟩ := returned
  obtain ⟨only, enough, held⟩ := ModuleBase.payProtocolFeeFromSetToken_eq_ok protocolPaying
  have left : world.held reserveAsset =
      protocolPaid.held reserveAsset + info.protocolFees := by
    rw [held, Function.update_self, Nat.sub_add_cancel enough]
  rcases payFee_cases managerPaying with paying | ⟨none, rfl⟩
  · obtain ⟨managerOnly, managerEnough, managerHeld⟩ := World.strictInvokeTransfer_eq_ok paying
    refine ⟨only.trans managerOnly, ?_⟩
    rw [left, managerHeld, Function.update_self]
    omega
  · exact ⟨only, by rw [left, none, Nat.add_zero]⟩

/-! ### The calls -/

/-- The module and the wrapped ether token are other contracts than the Set. -/
structure Apart (module : CustomOracleNAVIssuanceModule) (world : World) : Prop where
  address : module.address ≠ world.setToken.address
  weth : module.weth ≠ world.setToken.address

/-- An issuance that is paid for as it was computed keeps the reserve backed. -/
theorem backed_of_issuance (backed : hooked.ReserveBacked reserveAsset)
    (computed : module.createIssuanceInfo contracts reserveAsset quantity hooked = .ok info)
    (only : World.OnlyBalances hooked paid)
    (received : hooked.held reserveAsset + info.netFlowQuantity ≤ paid.held reserveAsset)
    (returned : module.handleIssueStateUpdates reserveAsset recipient info paid = .ok after) :
    after.ReserveBacked reserveAsset ∧
      SetToken.OtherUnitsKept reserveAsset hooked.setToken after.setToken := by
  obtain ⟨existing, read, spread⟩ := createIssuanceInfo_eq_ok computed
  simp only [handleIssueStateUpdates, bind_eq_ok] at returned
  obtain ⟨written, writing, minting⟩ := returned
  obtain ⟨supply, held, unit, others⟩ := writeReservePosition_eq_ok writing
  obtain ⟨minted, stored⟩ := World.callSetToken_eq_ok minting
  obtain ⟨_, credited⟩ := SetToken.mint_eq_ok minted
  have kept : SetToken.SamePositions written.setToken after.setToken := by
    rw [credited]
    exact ⟨rfl, rfl, rfl⟩
  have holdings : paid.held reserveAsset ≤ after.held reserveAsset := by
    rw [stored, ← held]
    exact World.held_le_of_mint minted reserveAsset
  have newSupply : after.setToken.totalSupply =
      hooked.setToken.totalSupply + info.setTokenQuantity := by
    rw [← only.totalSupply, ← supply, credited]
  refine ⟨backed_of_covered newSupply (kept.defaultRealUnit _ ▸ unit) ?_,
    (SetToken.OtherUnitsKept.of_samePositions only.samePositions).trans
      (others.trans (SetToken.OtherUnitsKept.of_samePositions kept))⟩
  calc info.newReservePositionUnit * (hooked.setToken.totalSupply + info.setTokenQuantity)
      ≤ existing * hooked.setToken.totalSupply + info.netFlowQuantity * preciseUnit := spread
    _ ≤ hooked.held reserveAsset * preciseUnit + info.netFlowQuantity * preciseUnit :=
        Nat.add_le_add_right (tracked_le backed read) _
    _ = (hooked.held reserveAsset + info.netFlowQuantity) * preciseUnit := (Nat.add_mul _ _ _).symm
    _ ≤ after.held reserveAsset * preciseUnit :=
        Nat.mul_le_mul_right _ (received.trans holdings)

/-- A redemption that burns and pays out as it was computed keeps the reserve backed. -/
theorem backed_of_redemption {burned : World} (other : msgSender ≠ hooked.setToken.address)
    (backed : hooked.ReserveBacked reserveAsset)
    (computed : module.createRedemptionInfo contracts reserveAsset quantity hooked = .ok info)
    (burning : hooked.callSetToken
      (SetToken.burn ⟨hooked.controller, module.address⟩ msgSender quantity) = .ok burned)
    (only : World.OnlyBalances burned paid)
    (sent : burned.held reserveAsset ≤ paid.held reserveAsset +
      (info.netFlowQuantity + info.protocolFees + info.managerFee))
    (returned : module.handleRedeemStateUpdates reserveAsset info paid = .ok after) :
    after.ReserveBacked reserveAsset ∧
      SetToken.OtherUnitsKept reserveAsset hooked.setToken after.setToken := by
  obtain ⟨existing, read, spread⟩ := createRedemptionInfo_eq_ok computed
  obtain ⟨supply, held, unit, others⟩ := writeReservePosition_eq_ok returned
  obtain ⟨burn, stored⟩ := World.callSetToken_eq_ok burning
  obtain ⟨_, _, debited⟩ := SetToken.burn_eq_ok burn
  have kept : SetToken.SamePositions hooked.setToken burned.setToken := by
    rw [debited]
    exact ⟨rfl, rfl, rfl⟩
  have holdings : burned.held reserveAsset = hooked.held reserveAsset := by
    rw [stored]
    exact World.held_of_burn other burn reserveAsset
  have newSupply : after.setToken.totalSupply = hooked.setToken.totalSupply - quantity := by
    rw [supply, only.totalSupply, debited]
  refine ⟨backed_of_covered newSupply unit ?_,
    (SetToken.OtherUnitsKept.of_samePositions kept).trans
      ((SetToken.OtherUnitsKept.of_samePositions only.samePositions).trans others)⟩
  have tracked := tracked_le backed read
  rw [← holdings] at tracked
  have flowed := Nat.mul_le_mul_right preciseUnit sent
  rw [Nat.add_mul] at flowed
  rw [held]
  have covered := (spread.trans tracked).trans flowed
  exact Nat.add_le_add_iff_right.mp covered

theorem callPreIssueHooks_eq_ok (quiet : contracts.HooksLeaveSetToken)
    (returned : module.callPreIssueHooks contracts reserveAsset quantity msgSender recipient
      world = .ok hooked) : World.LeavesSetToken world hooked := by
  unfold callPreIssueHooks at returned
  dsimp only at returned
  split at returned
  · exact quiet.issue _ _ _ _ _ _ _ returned
  · obtain rfl := (pure_eq_ok _ _).mp returned
    exact World.LeavesSetToken.refl _

theorem callPreRedeemHooks_eq_ok (quiet : contracts.HooksLeaveSetToken)
    (returned : module.callPreRedeemHooks contracts quantity msgSender recipient world =
      .ok hooked) : World.LeavesSetToken world hooked := by
  unfold callPreRedeemHooks at returned
  dsimp only at returned
  split at returned
  · exact quiet.redeem _ _ _ _ _ _ returned
  · obtain rfl := (pure_eq_ok _ _).mp returned
    exact World.LeavesSetToken.refl _

/-- What a redemption starts from: the world the hook left, an order computed there, and the
burn. -/
theorem prepareRedeem_eq_ok {burned : World}
    (returned : module.prepareRedeem contracts msgSender reserveAsset quantity least recipient
      world = .ok (info, burned)) :
    ∃ hooked, module.callPreRedeemHooks contracts quantity msgSender recipient world =
        .ok hooked ∧
      module.createRedemptionInfo contracts reserveAsset quantity hooked = .ok info ∧
      hooked.callSetToken
        (SetToken.burn ⟨hooked.controller, module.address⟩ msgSender quantity) = .ok burned := by
  simp only [prepareRedeem, bind_eq_ok, pure_eq_ok, Prod.mk.injEq] at returned
  obtain ⟨_, _, _, _, hooked, hooking, _, computed, _, _, _, burning, rfl, rfl⟩ := returned
  exact ⟨hooked, hooking, computed, burning⟩

theorem issue_backed (quiet : contracts.HooksLeaveSetToken)
    (other : msgSender ≠ world.setToken.address) (backed : world.ReserveBacked reserveAsset)
    (returned : module.issue contracts msgSender reserveAsset quantity least recipient world =
      .ok after) :
    after.ReserveBacked reserveAsset ∧
      SetToken.OtherUnitsKept reserveAsset world.setToken after.setToken := by
  simp only [issue, bind_eq_ok] at returned
  obtain ⟨_, _, _, _, hooked, hooking, info, computed, _, _, paid, paying, updating⟩ := returned
  have leaves := callPreIssueHooks_eq_ok quiet hooking
  obtain ⟨only, received⟩ :=
    transferCollateralAndHandleFees_eq_ok (leaves.setToken ▸ other) paying
  have result := backed_of_issuance (leaves.backed backed) computed only received updating
  rwa [leaves.setToken] at result

theorem issueWithEther_backed (quiet : contracts.HooksLeaveSetToken)
    (apart : module.Apart world) (backed : world.ReserveBacked module.weth)
    (returned : module.issueWithEther contracts msgSender quantity least recipient world =
      .ok after) :
    after.ReserveBacked module.weth ∧
      SetToken.OtherUnitsKept module.weth world.setToken after.setToken := by
  simp only [issueWithEther, bind_eq_ok] at returned
  obtain ⟨_, _, wrapped, wrapping, _, _, hooked, hooking, info, computed, _, _, paid, paying,
    updating⟩ := returned
  have wraps : World.LeavesSetToken world wrapped := World.LeavesSetToken.callToken apart.weth
    (fun _ => WETH9.deposit_balanceOf apart.address.symm) wrapping
  have leaves := wraps.trans (callPreIssueHooks_eq_ok quiet hooking)
  obtain ⟨only, received⟩ :=
    transferWETHAndHandleFees_eq_ok (leaves.setToken ▸ apart.address) paying
  have result := backed_of_issuance (leaves.backed backed) computed only received updating
  rwa [leaves.setToken] at result

theorem redeem_backed (quiet : contracts.HooksLeaveSetToken)
    (other : msgSender ≠ world.setToken.address) (backed : world.ReserveBacked reserveAsset)
    (returned : module.redeem contracts msgSender reserveAsset quantity least recipient world =
      .ok after) :
    after.ReserveBacked reserveAsset ∧
      SetToken.OtherUnitsKept reserveAsset world.setToken after.setToken := by
  simp only [redeem, bind_eq_ok, Prod.exists] at returned
  obtain ⟨info, burned, preparing, sent, sending, paid, paying, updating⟩ := returned
  obtain ⟨hooked, hooking, computed, burning⟩ := prepareRedeem_eq_ok preparing
  have leaves := callPreRedeemHooks_eq_ok quiet hooking
  obtain ⟨sentOnly, enough, sentHeld⟩ := World.strictInvokeTransfer_eq_ok sending
  obtain ⟨paidOnly, paidHeld⟩ := handleRedemptionFees_eq_ok paying
  have flows : burned.held reserveAsset ≤ paid.held reserveAsset +
      (info.netFlowQuantity + info.protocolFees + info.managerFee) := by
    have left : sent.held reserveAsset = burned.held reserveAsset - info.netFlowQuantity := by
      rw [sentHeld, Function.update_self]
    omega
  have result := backed_of_redemption (leaves.setToken ▸ other) (leaves.backed backed) computed
    burning (sentOnly.trans paidOnly) flows updating
  rwa [leaves.setToken] at result

theorem redeemIntoEther_backed (quiet : contracts.HooksLeaveSetToken)
    (apart : module.Apart world) (other : msgSender ≠ world.setToken.address)
    (backed : world.ReserveBacked module.weth)
    (returned : module.redeemIntoEther contracts msgSender quantity least recipient world =
      .ok after) :
    after.ReserveBacked module.weth ∧
      SetToken.OtherUnitsKept module.weth world.setToken after.setToken := by
  simp only [redeemIntoEther, bind_eq_ok, Prod.exists] at returned
  obtain ⟨info, burned, preparing, sent, sending, unwrapped, unwrapping, paid, paying,
    updating⟩ := returned
  obtain ⟨hooked, hooking, computed, burning⟩ := prepareRedeem_eq_ok preparing
  have leaves := callPreRedeemHooks_eq_ok quiet hooking
  obtain ⟨sentOnly, enough, sentHeld⟩ := World.strictInvokeTransfer_eq_ok sending
  obtain ⟨_, _, debited⟩ := SetToken.burn_eq_ok (World.callSetToken_eq_ok burning).1
  have address : sent.setToken.address = world.setToken.address := by
    rw [sentOnly.address, debited, leaves.setToken]
  have unwraps : World.LeavesSetToken sent unwrapped :=
    World.LeavesSetToken.callToken (address ▸ apart.weth)
      (fun _ => WETH9.withdraw_balanceOf (address ▸ apart.address.symm)) unwrapping
  obtain ⟨paidOnly, paidHeld⟩ := handleRedemptionFees_eq_ok paying
  have flows : burned.held module.weth ≤ paid.held module.weth +
      (info.netFlowQuantity + info.protocolFees + info.managerFee) := by
    have left : sent.held module.weth = burned.held module.weth - info.netFlowQuantity := by
      rw [sentHeld, Function.update_self]
    have freed := unwraps.held module.weth
    omega
  have only : World.OnlyBalances burned unwrapped :=
    sentOnly.trans (World.callToken_onlyBalances_of_ne (address ▸ apart.weth) unwrapping)
  have result := backed_of_redemption (leaves.setToken ▸ other) (leaves.backed backed) computed
    burning (only.trans paidOnly) flows updating
  rwa [leaves.setToken] at result

/-- Whatever the valuer reports and the fees and the premium are, a call that issues or redeems
against a backed reserve asset leaves it backed, and writes no other unit. -/
theorem reserve_stays_backed (quiet : contracts.HooksLeaveSetToken)
    (apart : module.Apart world) (other : msgSender ≠ world.setToken.address) (call : NAVCall)
    (backed : world.ReserveBacked (call.reserveAsset module))
    (returned : call.apply module contracts msgSender world = .ok after) :
    after.ReserveBacked (call.reserveAsset module) ∧
      SetToken.OtherUnitsKept (call.reserveAsset module) world.setToken after.setToken := by
  cases call with
  | issue reserveAsset quantity least recipient =>
    exact issue_backed quiet other backed returned
  | issueWithEther msgValue least recipient =>
    exact issueWithEther_backed quiet apart backed returned
  | redeem reserveAsset quantity least recipient =>
    exact redeem_backed quiet other backed returned
  | redeemIntoEther quantity least recipient =>
    exact redeemIntoEther_backed quiet apart other backed returned

/-- A valuer that reports one and a half reserve tokens for a Set token, and no hooks. -/
def sampleContracts : NAVContracts where
  getSetValuer := 8
  calculateSetTokenValuation := fun _ _ _ => pure (15 * 10 ^ 17)
  decimals := fun _ => 18
  invokePreIssueHook := fun _ _ _ _ _ world => pure world
  invokePreRedeemHook := fun _ _ _ _ world => pure world

theorem sampleContracts_quiet : sampleContracts.HooksLeaveSetToken := by
  constructor
  · intro _ _ _ _ _ world next returned
    exact Except.ok.inj returned ▸ World.LeavesSetToken.refl world
  · intro _ _ _ _ world next returned
    exact Except.ok.inj returned ▸ World.LeavesSetToken.refl world

/-- Two Set tokens, both held by account 7, with one of token 3 and a half of token 6 each, and
an issuer with enough of token 3. -/
def sampleReserveWorld : World where
  timestamp := 0
  controller :=
    { isInitialized := true
      sets := [2]
      isSet := fun account => account = 2
      isFactory := fun _ => false
      isModule := fun account => account = 4
      fees := fun _ index => if index < 2 then 10 ^ 17 else 10 ^ 15
      feeRecipient := 9 }
  setToken :=
    { SetToken.construct 2 [3, 6] [10 ^ 18, 5 * 10 ^ 17] [4] 5 with
      totalSupply := 2 * 10 ^ 18
      balanceOf := fun account => if account = 7 then 2 * 10 ^ 18 else 0
      moduleStates := fun _ => .initialized }
  tokens := fun _ =>
    { totalSupply := 12 * 10 ^ 18
      balanceOf := fun account =>
        if account = 2 then 2 * 10 ^ 18 else if account = 7 then 10 ^ 19 else 0
      allowance := fun _ _ => 10 ^ 19 }

/-- A module at account 4 with a premium and fees of one percent for one reserve asset. -/
def sampleNAVModule : CustomOracleNAVIssuanceModule where
  address := 4
  weth := 3
  navIssuanceSettings :=
    { managerIssuanceHook := 0
      managerRedemptionHook := 0
      setValuer := 0
      reserveAssets := [3]
      feeRecipient := 10
      managerFees := fun _ => 10 ^ 16
      maxManagerFee := 10 ^ 17
      premiumPercentage := 10 ^ 16
      maxPremiumPercentage := 10 ^ 17
      minSetTokenSupply := 1 }
  isReserveAsset := fun asset => asset = 3

theorem sampleReserveWorld_backed : sampleReserveWorld.ReserveBacked 3 := by
  unfold World.ReserveBacked
  decide

/-- Issuing against one and a half of the reserve asset with an odd remainder. -/
theorem reserve_stays_backed_sample :
    ∃ after, (NAVCall.issue 3 (15 * 10 ^ 17 + 1) 0 7).apply sampleNAVModule sampleContracts 7
        sampleReserveWorld = .ok after ∧ after.ReserveBacked 3 := by
  have succeeds : returns ((NAVCall.issue 3 (15 * 10 ^ 17 + 1) 0 7).apply sampleNAVModule
      sampleContracts 7 sampleReserveWorld) (fun _ => true) = true := by
    decide
  obtain ⟨after, returned, _⟩ := exists_of_returns succeeds
  have apart : sampleNAVModule.Apart sampleReserveWorld := by constructor <;> decide
  exact ⟨after, returned, (reserve_stays_backed sampleContracts_quiet apart (by decide)
    (NAVCall.issue 3 (15 * 10 ^ 17 + 1) 0 7) sampleReserveWorld_backed returned).1⟩

end CustomOracleNAVIssuanceModule

end IndexProtocol

/-
This file models how the modules that trade update the positions of a Set: after
the trade, the default position of the token that was sent and then that of the
token that was received are edited from their balances. It says what the two
edits leave of each token, and that they leave everything else alone.
-/

import IndexProtocol.Protocol.World

namespace IndexProtocol

open Revert PreciseUnitMath

namespace World

/-- Returns the amounts sent and received. -/
def updatePositions (module sendToken receiveToken : Address)
    (preTradeSendTokenBalance preTradeReceiveTokenBalance : Nat) (world : World) :
    Outcome (World × Nat × Nat) := do
  let totalSupply := world.setToken.totalSupply
  let (sent, postTradeSendTokenBalance, _, _) ← world.calculateAndEditDefaultPosition module
    sendToken totalSupply preTradeSendTokenBalance
  let (received, postTradeReceiveTokenBalance, _, _) ← sent.calculateAndEditDefaultPosition
    module receiveToken totalSupply preTradeReceiveTokenBalance
  let sentAmount ← SafeMath.sub preTradeSendTokenBalance postTradeSendTokenBalance
  let receivedAmount ← SafeMath.sub postTradeReceiveTokenBalance preTradeReceiveTokenBalance
  pure (received, sentAmount, receivedAmount)

/-! ### What an update leaves of one token -/

/-- A default position was edited from the balance of its token, which was another one before
the trade. The unit that is written is zero without a balance. -/
structure EditedUnit (token : Address) (before : Nat) (world next : World) (newUnit : Nat) :
    Prop where
  multiplier : next.setToken.positionMultiplier = world.setToken.positionMultiplier
  empty : world.held token = 0 → newUnit = 0
  spread : 0 < world.held token → ∃ unit : Nat,
    world.setToken.defaultRealUnit token = unit ∧
      Position.calculateDefaultEditPositionUnit world.setToken.totalSupply before
        (world.held token) unit = .ok newUnit
  converted : world.setToken.convertRealToVirtualUnit newUnit =
    .ok (next.setToken.defaultPositionVirtualUnit token)

/-- Two worlds that differ at most in the positions of the components in a set and in whether
these are listed. -/
structure KeepsOthers (touched : Set Address) (world next : World) : Prop where
  edits : Position.EditsOnly touched world.setToken next.setToken
  stored : next = { world with setToken := next.setToken }

section Edits

variable {world start done next : World} {module token other : Address}
variable {supply before balance unit newUnit : Nat} {touched : Set Address}

theorem KeepsOthers.trans (first : KeepsOthers touched world start)
    (second : KeepsOthers touched start next) : KeepsOthers touched world next := by
  refine ⟨first.edits.trans second.edits, ?_⟩
  rw [second.stored, first.stored]

theorem KeepsOthers.mono {larger : Set Address} (contained : touched ⊆ larger)
    (kept : KeepsOthers touched world next) : KeepsOthers larger world next :=
  ⟨kept.edits.mono contained, kept.stored⟩

theorem KeepsOthers.held (kept : KeepsOthers touched world next) : next.held = world.held := by
  obtain ⟨⟨⟨_, _, edited⟩, _, _⟩, stored⟩ := kept
  rw [stored, edited]
  rfl

theorem KeepsOthers.totalSupply (kept : KeepsOthers touched world next) :
    next.setToken.totalSupply = world.setToken.totalSupply := by
  obtain ⟨_, _, edited⟩ := kept.edits.only
  rw [edited]

theorem KeepsOthers.timestamp (kept : KeepsOthers touched world next) :
    next.timestamp = world.timestamp := by
  rw [kept.stored]

theorem KeepsOthers.virtualUnit (kept : KeepsOthers touched world next)
    (apart : token ∉ touched) : next.setToken.defaultPositionVirtualUnit token =
      world.setToken.defaultPositionVirtualUnit token := by
  unfold SetToken.defaultPositionVirtualUnit
  rw [kept.edits.positions token apart]

theorem KeepsOthers.defaultRealUnit (kept : KeepsOthers touched world next)
    (apart : token ∉ touched) :
    next.setToken.defaultRealUnit token = world.setToken.defaultRealUnit token := by
  unfold SetToken.defaultRealUnit SetToken.realUnit
  rw [kept.virtualUnit apart, kept.edits.positionMultiplier]

theorem calculateAndEditDefaultPosition_keepsOthers
    (returned : world.calculateAndEditDefaultPosition module token supply before =
      .ok (next, balance, unit, newUnit)) : KeepsOthers {token} world next := by
  obtain ⟨_, edited, stored, _⟩ := calculateAndEditDefaultPosition_eq_ok returned
  exact ⟨Position.editDefaultPosition_editsOnly edited, stored⟩

theorem calculateAndEditDefaultPosition_editedUnit
    (returned : world.calculateAndEditDefaultPosition module token world.setToken.totalSupply
      before = .ok (next, balance, unit, newUnit)) :
    EditedUnit token before world next newUnit := by
  obtain ⟨read, edited, _, _, spread, empty⟩ := calculateAndEditDefaultPosition_eq_ok returned
  obtain ⟨multiplier, converted⟩ := Position.editDefaultPosition_converted edited
  exact ⟨multiplier, empty, fun some => ⟨unit, read, spread some⟩, converted⟩

/-- An edit that follows an edit of another token. -/
theorem EditedUnit.after_other (kept : KeepsOthers touched world start)
    (apart : token ∉ touched) (edit : EditedUnit token before start next newUnit) :
    EditedUnit token before world next newUnit := by
  have multiplier := kept.edits.positionMultiplier
  refine ⟨edit.multiplier.trans multiplier, ?_, ?_, ?_⟩
  · rw [← kept.held]
    exact edit.empty
  · rw [← kept.held, ← kept.defaultRealUnit apart, ← kept.totalSupply]
    exact edit.spread
  · rw [← edit.converted]
    unfold SetToken.convertRealToVirtualUnit SetToken.convertVirtualToRealUnit
    rw [multiplier]

/-- An edit that is followed by an edit of another token. -/
theorem EditedUnit.then_other (edit : EditedUnit token before world done newUnit)
    (kept : KeepsOthers touched done next) (apart : token ∉ touched) :
    EditedUnit token before world next newUnit where
  multiplier := kept.edits.positionMultiplier.trans edit.multiplier
  empty := edit.empty
  spread := edit.spread
  converted := (kept.virtualUnit apart).symm ▸ edit.converted

/-- The unit read back is the one that was written, divided by the multiplier and multiplied by
it again. -/
theorem EditedUnit.realUnit (positive : 0 < world.setToken.positionMultiplier)
    (edit : EditedUnit token before world next newUnit) :
    next.setToken.defaultRealUnit token =
      newUnit * preciseUnit / world.setToken.positionMultiplier *
        world.setToken.positionMultiplier / preciseUnit := by
  obtain ⟨_, quotient, _⟩ := SetToken.convertRealToVirtualUnit_eq_ok positive edit.converted
  unfold SetToken.defaultRealUnit SetToken.realUnit
  rw [edit.multiplier, quotient]

end Edits

section Update

variable {world next : World} {module sendToken receiveToken : Address}
  {preSend preReceive sentAmount receivedAmount : Nat}

/-- Both tokens are edited from their own balances, and no other component is touched. -/
theorem updatePositions_eq_ok (different : sendToken ≠ receiveToken)
    (returned : world.updatePositions module sendToken receiveToken preSend preReceive =
      .ok (next, sentAmount, receivedAmount)) :
    (∃ newUnit, EditedUnit sendToken preSend world next newUnit) ∧
      (∃ newUnit, EditedUnit receiveToken preReceive world next newUnit) ∧
      KeepsOthers {sendToken, receiveToken} world next := by
  simp only [updatePositions, bind_eq_ok, pure_eq_ok, Prod.exists, Prod.mk.injEq] at returned
  obtain ⟨edited, _, _, sendUnit, sendEdit, _, _, _, receiveUnit, receiveEdit, _, _, _, _, rfl,
    _, _⟩ := returned
  have sending := calculateAndEditDefaultPosition_keepsOthers sendEdit
  have receiving := calculateAndEditDefaultPosition_keepsOthers receiveEdit
  rw [← sending.totalSupply] at receiveEdit
  refine ⟨⟨sendUnit, ?_⟩, ⟨receiveUnit, ?_⟩, ?_⟩
  · exact (calculateAndEditDefaultPosition_editedUnit sendEdit).then_other receiving different
  · exact (calculateAndEditDefaultPosition_editedUnit receiveEdit).after_other sending
      different.symm
  · exact (sending.mono (Set.singleton_subset_iff.mpr (Set.mem_insert _ _))).trans
      (receiving.mono (Set.singleton_subset_iff.mpr (Set.mem_insert_of_mem _ rfl)))

end Update

end World

end IndexProtocol

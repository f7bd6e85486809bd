/-
This file says what every trading module does to a Set: contracts outside move
balances, and then the positions of some tokens are edited from the balances
that are left. Whatever was moved, the tokens whose positions were edited are
covered by what the Set holds afterwards, and the other positions are as before.
A call that takes no other component away is a step of the fund.
-/

import IndexProtocol.Protocol.PositionUpdates
import IndexProtocol.System.Solvency

namespace IndexProtocol

open Revert PreciseUnitMath

/-! ### Edits that settle tokens -/

/-- What the Set holds of a token covers the unit that its position promises. -/
def PositionCovered (world : World) (token : Address) : Prop :=
  Covers (preciseUnit : Int) world.setToken.totalSupply (world.setToken.defaultRealUnit token)
    (world.held token)

namespace World

/-- The positions of some tokens were edited to units that what the Set holds covers, and nothing
else changed. -/
structure Settles (touched : Set Address) (world next : World) : Prop where
  kept : KeepsOthers touched world next
  covered : 0 < world.setToken.positionMultiplier → ∀ token ∈ touched,
    PositionCovered next token

section Settling

variable {first second touched : Set Address} {world middle next : World}
  {module component : Address} {before balance unit newUnit : Nat} {controller : Controller}

/-- Without edits no token is settled. -/
theorem Settles.none (world : World) : Settles ∅ world world :=
  ⟨⟨Position.EditsOnly.refl _ _, rfl⟩, fun _ _ member => absurd member (Set.notMem_empty _)⟩

/-- The tokens of the second edits are settled by these, and the others by the first ones. -/
theorem Settles.trans (settled : Settles first world middle)
    (later : Settles second middle next) : Settles (first ∪ second) world next := by
  refine ⟨(settled.kept.mono Set.subset_union_left).trans
    (later.kept.mono Set.subset_union_right), fun positive token member => ?_⟩
  have multiplier : middle.setToken.positionMultiplier = world.setToken.positionMultiplier :=
    settled.kept.edits.positionMultiplier
  by_cases again : token ∈ second
  · exact later.covered (multiplier ▸ positive) token again
  · have covered := settled.covered positive token (member.resolve_right again)
    unfold PositionCovered at covered ⊢
    rwa [later.kept.totalSupply, later.kept.defaultRealUnit again, later.kept.held]

/-- An edit to a unit that the balance covers. -/
theorem editDefaultPosition_settles
    (returned : world.callSetToken
      (Position.editDefaultPosition ⟨controller, module⟩ component newUnit) = .ok next)
    (spread : newUnit * world.setToken.totalSupply ≤ world.held component * preciseUnit) :
    Settles {component} world next := by
  obtain ⟨edited, stored⟩ := callSetToken_eq_ok returned
  have kept : KeepsOthers {component} world next :=
    ⟨Position.editDefaultPosition_editsOnly edited, stored⟩
  refine ⟨kept, fun positive token member => ?_⟩
  obtain rfl := Set.mem_singleton_iff.mp member
  obtain ⟨_, nonneg, atMost, _⟩ := Position.editDefaultPosition_unit positive edited
  unfold PositionCovered
  rw [kept.totalSupply, kept.held]
  show (world.setToken.totalSupply : Int) * next.setToken.defaultRealUnit token ≤
    world.held token * preciseUnit
  calc (world.setToken.totalSupply : Int) * next.setToken.defaultRealUnit token
      ≤ world.setToken.totalSupply * newUnit :=
        mul_le_mul_of_nonneg_left atMost (Int.natCast_nonneg _)
    _ = ((newUnit * world.setToken.totalSupply : Nat) : Int) := by push_cast; ring
    _ ≤ world.held token * preciseUnit := by exact_mod_cast spread

theorem calculateAndEditDefaultPosition_settles {supply : Nat}
    (supplied : supply = world.setToken.totalSupply)
    (returned : world.calculateAndEditDefaultPosition module component supply before =
      .ok (next, balance, unit, newUnit)) : Settles {component} world next := by
  have kept := calculateAndEditDefaultPosition_keepsOthers returned
  refine ⟨kept, fun positive token member => ?_⟩
  obtain rfl := Set.mem_singleton_iff.mp member
  have covered := covers_of_calculateAndEdit positive returned
  unfold PositionCovered
  rwa [kept.totalSupply, ← supplied]

/-- Two tokens that are edited one after the other. -/
theorem settles_pair {supply firstBefore secondBefore firstBalance secondBalance firstUnit
      secondUnit firstNew secondNew : Nat} {sendToken receiveToken : Address}
    (supplied : supply = world.setToken.totalSupply)
    (sending : world.calculateAndEditDefaultPosition module sendToken supply firstBefore =
      .ok (middle, firstBalance, firstUnit, firstNew))
    (receiving : middle.calculateAndEditDefaultPosition module receiveToken supply secondBefore =
      .ok (next, secondBalance, secondUnit, secondNew)) :
    Settles {sendToken, receiveToken} world next := by
  have sent := calculateAndEditDefaultPosition_settles supplied sending
  have received := calculateAndEditDefaultPosition_settles
    (supplied.trans sent.kept.totalSupply.symm) receiving
  have both := sent.trans received
  rwa [Set.singleton_union] at both

theorem updatePositions_settles {sendToken receiveToken : Address}
    {preSend preReceive sentAmount receivedAmount : Nat}
    (returned : world.updatePositions module sendToken receiveToken preSend preReceive =
      .ok (next, sentAmount, receivedAmount)) :
    Settles {sendToken, receiveToken} world next := by
  simp only [updatePositions, bind_eq_ok, pure_eq_ok, Prod.exists, Prod.mk.injEq] at returned
  obtain ⟨_, _, _, _, sending, _, _, _, _, receiving, _, _, _, _, rfl, _⟩ := returned
  exact settles_pair rfl sending receiving

end Settling

/-! ### Exchanges -/

/-- Balances were moved, and then some tokens were settled. -/
def Exchanges (touched : Set Address) (world next : World) : Prop :=
  ∃ paid, OnlyBalances world paid ∧ Settles touched paid next

/-- No component outside the set was taken from the Set. -/
def Spares (touched : Set Address) (world next : World) : Prop :=
  ∀ component ∈ world.setToken.components, component ∉ touched →
    world.held component ≤ next.held component

section Exchanging

variable {touched : Set Address} {world paid next : World}

theorem Settles.exchanges (only : OnlyBalances world paid) (settled : Settles touched paid next) :
    Exchanges touched world next :=
  ⟨paid, only, settled⟩

theorem Exchanges.address (exchanges : Exchanges touched world next) :
    next.setToken.address = world.setToken.address := by
  obtain ⟨paid, only, settled⟩ := exchanges
  obtain ⟨_, _, edited⟩ := settled.kept.edits.only
  rw [edited, ← only.address]

theorem Exchanges.totalSupply (exchanges : Exchanges touched world next) :
    next.setToken.totalSupply = world.setToken.totalSupply := by
  obtain ⟨paid, only, settled⟩ := exchanges
  exact settled.kept.totalSupply.trans only.totalSupply

theorem Exchanges.positionMultiplier (exchanges : Exchanges touched world next) :
    next.setToken.positionMultiplier = world.setToken.positionMultiplier := by
  obtain ⟨paid, only, settled⟩ := exchanges
  exact settled.kept.edits.positionMultiplier.trans only.positionMultiplier

/-- Whatever was moved, the tokens that were settled are covered. -/
theorem Exchanges.covered (positive : 0 < world.setToken.positionMultiplier)
    (exchanges : Exchanges touched world next) {token : Address} (member : token ∈ touched) :
    PositionCovered next token := by
  obtain ⟨paid, only, settled⟩ := exchanges
  exact settled.covered (only.positionMultiplier ▸ positive) token member

theorem Exchanges.listed (exchanges : Exchanges touched world next) {token : Address}
    (apart : token ∉ touched) :
    token ∈ next.setToken.components ↔ token ∈ world.setToken.components := by
  obtain ⟨paid, only, settled⟩ := exchanges
  rw [settled.kept.edits.listed token apart, only.components]

theorem Exchanges.defaultRealUnit (exchanges : Exchanges touched world next) {token : Address}
    (apart : token ∉ touched) :
    next.setToken.defaultRealUnit token = world.setToken.defaultRealUnit token := by
  obtain ⟨paid, only, settled⟩ := exchanges
  exact (settled.kept.defaultRealUnit apart).trans (only.defaultRealUnit token)

/-- An exchange that takes no other component reallocates the fund. -/
theorem Exchanges.fundStep (positive : 0 < world.setToken.positionMultiplier)
    (exchanges : Exchanges touched world next) (spares : Spares touched world next) :
    Fund.Step (preciseUnit : Int) world.fund next.fund := by
  refine .reallocate (congrArg Int.ofNat exchanges.totalSupply) fun token member => ?_
  by_cases settled : token ∈ touched
  · exact Or.inl (exchanges.covered positive settled)
  · have before := (exchanges.listed settled).mp member
    exact Or.inr ⟨before, exchanges.defaultRealUnit settled,
      Int.ofNat_le.mpr (spares token before settled)⟩

end Exchanging

end World

end IndexProtocol

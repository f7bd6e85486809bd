/-
This file proves that issuance, redemption and auctions keep a Set solvent. The
Set is read as a fund whose shares are the Set's supply and whose assets are its
components, and every transaction is a step of that fund: issuance charges the
claims of the new shares rounded up, redemption pays them rounded down, and a
bid gives each of its two tokens a unit that its balance covers.
-/

import IndexProtocol.Library.Fund
import IndexProtocol.System.Impact

namespace IndexProtocol

open Revert

/-- The Set as a fund. -/
def World.fund (world : World) : Fund Address Int where
  supply := world.setToken.totalSupply
  assets := {component | component ∈ world.setToken.components}
  unit := world.setToken.defaultRealUnit
  balance := fun component => world.held component

/-- A change of the world that is made of steps of the fund, and that keeps the Set's address
and multiplier and lists no component twice. -/
structure Accounted (world next : World) : Prop where
  address : next.setToken.address = world.setToken.address
  multiplier : next.setToken.positionMultiplier = world.setToken.positionMultiplier
  nodup : world.setToken.components.Nodup → next.setToken.components.Nodup
  steps : Relation.ReflTransGen (Fund.Step (preciseUnit : Int)) world.fund next.fund

namespace Accounted

variable {world middle next : World}

theorem refl (world : World) : Accounted world world := ⟨rfl, rfl, id, .refl⟩

theorem trans (first : Accounted world middle) (second : Accounted middle next) :
    Accounted world next where
  address := second.address.trans first.address
  multiplier := second.multiplier.trans first.multiplier
  nodup := fun distinct => second.nodup (first.nodup distinct)
  steps := first.steps.trans second.steps

/-- A change that leaves the positions and the holdings alone. -/
theorem of_fund (positions : World.KeepsPositions world next) (held : next.held = world.held) :
    Accounted world next := by
  refine ⟨positions.address, positions.positionMultiplier,
    fun distinct => positions.components ▸ distinct, ?_⟩
  have fund : next.fund = world.fund := by
    unfold World.fund
    rw [positions.totalSupply, positions.components,
      funext positions.samePositions.defaultRealUnit, held]
  exact fund ▸ .refl

/-- Tokens moved without the Set losing any. -/
theorem of_balances (only : World.OnlyBalances world next)
    (more : ∀ token, world.held token ≤ next.held token) : Accounted world next where
  address := only.address
  multiplier := only.positionMultiplier
  nodup := fun distinct => only.components ▸ distinct
  steps := by
    refine .single (.reallocate ?_ fun component member => Or.inr ⟨?_, ?_, ?_⟩)
    · exact congrArg Int.ofNat only.totalSupply
    · exact (congrArg (component ∈ ·) only.components).mp member
    · exact only.defaultRealUnit component
    · exact Int.ofNat_le.mpr (more component)

end Accounted

/-! ### Bids -/

section Bid

variable {module : AuctionRebalanceModuleV1} {world next : World} {address component : Address}
  {supply before : Nat} {result : Nat × Nat × Nat}

/-- A position edited from its balance is covered by it. -/
theorem covers_of_calculateAndEdit (positive : 0 < world.setToken.positionMultiplier)
    (returned : world.calculateAndEditDefaultPosition address component supply before =
      .ok (next, result)) :
    Covers (preciseUnit : Int) supply (next.setToken.defaultRealUnit component)
      (next.held component) := by
  obtain ⟨stored, read, bound⟩ := World.calculateAndEditDefaultPosition_unit positive returned
  rw [read, World.calculateAndEditDefaultPosition_held returned]
  unfold Covers
  have covered : supply * stored ≤ world.held component * preciseUnit := by
    rw [mul_comm]
    exact bound.trans (Nat.mul_le_mul_right _ (Nat.sub_le _ _))
  exact_mod_cast covered

/-- A bid leaves both of its tokens with positions that are covered. -/
theorem covers_of_tokenEdit {amount fee : Nat} {info : BidInfo}
    {paid edited start done : World} {token : Address}
    (positive : 0 < world.setToken.positionMultiplier)
    (trade : module.BidTrade component amount world next info fee paid edited)
    (edit : module.TokenEdit token world paid next start done) :
    Covers (preciseUnit : Int) next.setToken.totalSupply (next.setToken.defaultRealUnit token)
      (next.held token) := by
  obtain ⟨_, returned⟩ := edit.edit
  have covers := covers_of_calculateAndEdit (edit.positive positive) returned
  rwa [World.calculateAndEditDefaultPosition_held returned, edit.held, ← trade.heldAfter,
    edit.totalSupply, ← trade.totalSupply, ← edit.unitAfter] at covers

theorem bid_accounted (positive : 0 < world.setToken.positionMultiplier) {msgSender : Address}
    {adapters : Adapters} {amount limit : Nat}
    (returned : module.bid msgSender adapters component amount limit world = .ok next) :
    Accounted world next := by
  obtain ⟨info, fee, paid, edited, trade⟩ := AuctionRebalanceModuleV1.bid_eq_ok returned
  have control := AuctionRebalanceModuleV1.bid_keepsControl returned
  obtain ⟨nodup, others⟩ := trade.frame positive
  refine ⟨control.address, trade.positionMultiplier, nodup,
    .single (.reallocate (congrArg Int.ofNat trade.totalSupply) fun asset member => ?_)⟩
  by_cases received : asset = info.receiveToken
  · exact Or.inl (received ▸ covers_of_tokenEdit positive trade (trade.receiving positive))
  by_cases sent : asset = info.sendToken
  · exact Or.inl (sent ▸ covers_of_tokenEdit positive trade (trade.sending positive))
  obtain ⟨listed, unit⟩ := others asset sent received
  refine Or.inr ⟨listed.mp member, unit, ?_⟩
  have same : next.held asset = world.held asset := by
    rw [trade.heldAfter, trade.held, Function.update_of_ne received, Function.update_of_ne sent]
  exact (congrArg Int.ofNat same).ge

end Bid

/-! ### Issuance and redemption -/

section Issuance

variable {module : BasicIssuanceModule} {world next : World} {msgSender recipient : Address}
  {quantity : Nat}

theorem completeIssue_accounted
    (returned : module.completeIssue msgSender quantity recipient world = .ok next) :
    Accounted world next := by
  obtain ⟨collected, only, charged, minting, stored⟩ :=
    BasicIssuanceModule.completeIssue_eq_ok returned
  obtain ⟨_, written⟩ := SetToken.mint_eq_ok minting
  have more : ∀ token, collected.held token ≤ next.held token := by
    rw [stored]
    exact World.held_le_of_mint minting
  have components : next.setToken.components = world.setToken.components := by
    rw [written]
    exact only.components
  refine ⟨?_, ?_, fun distinct => components ▸ distinct, .single (.issue quantity ?_ ?_ ?_ ?_)⟩
  · rw [written]
    exact only.address
  · rw [written]
    exact only.positionMultiplier
  · show ((next.setToken.totalSupply : Nat) : Int) = world.setToken.totalSupply + quantity
    rw [written, ← only.totalSupply]
    exact Int.natCast_add _ _
  · exact congrArg (fun list => {component | component ∈ list}) components
  · intro component _
    show next.setToken.defaultRealUnit component = world.setToken.defaultRealUnit component
    rw [← only.defaultRealUnit, written]
    rfl
  · intro component member
    obtain ⟨unit, read, paid⟩ := charged component member
    have claim := Rounding.le_mulCeil_mul preciseUnit unit quantity preciseUnit_pos
    have gained : world.held component + Rounding.mulCeil preciseUnit unit quantity ≤
        next.held component := paid.trans (more component)
    show (quantity : Int) * world.setToken.defaultRealUnit component ≤
      ((next.held component : Int) - world.held component) * preciseUnit
    rw [read]
    calc (quantity : Int) * unit = ((unit * quantity : Nat) : Int) := by push_cast; ring
      _ ≤ ((Rounding.mulCeil preciseUnit unit quantity * preciseUnit : Nat) : Int) := by
          exact_mod_cast claim
      _ = (Rounding.mulCeil preciseUnit unit quantity : Int) * preciseUnit := by push_cast; ring
      _ ≤ ((next.held component : Int) - world.held component) * preciseUnit := by
          refine mul_le_mul_of_nonneg_right ?_ preciseUnit_int_pos.le
          have := (Int.ofNat_le.mpr gained)
          push_cast at this
          linarith

theorem redeem_accounted (other : msgSender ≠ world.setToken.address)
    (distinct : world.setToken.components.Nodup)
    (returned : module.redeem msgSender quantity recipient world = .ok next) :
    Accounted world next := by
  obtain ⟨burned, burning, stored, only, released⟩ :=
    BasicIssuanceModule.redeem_eq_ok distinct returned
  obtain ⟨_, enough, written⟩ := SetToken.burn_eq_ok burning
  have held : ∀ token, burned.held token = world.held token := by
    rw [stored]
    exact World.held_of_burn other burning
  have components : next.setToken.components = world.setToken.components := by
    rw [only.components, written]
  refine ⟨?_, ?_, fun nodup => components ▸ nodup, .single (.redeem quantity ?_ ?_ ?_ ?_)⟩
  · rw [only.address, written]
  · rw [only.positionMultiplier, written]
  · show ((next.setToken.totalSupply : Nat) : Int) = world.setToken.totalSupply - quantity
    rw [only.totalSupply, written]
    exact Int.ofNat_sub enough
  · exact congrArg (fun list => {component | component ∈ list}) components
  · intro component _
    show next.setToken.defaultRealUnit component = world.setToken.defaultRealUnit component
    rw [only.defaultRealUnit, written]
    rfl
  · intro component member
    obtain ⟨unit, read, paid⟩ := released component member
    have claim := Rounding.mulFloor_mul_le preciseUnit quantity unit
    rw [held component] at paid
    show ((world.held component : Int) - next.held component) * preciseUnit ≤
      (quantity : Int) * world.setToken.defaultRealUnit component
    rw [read]
    calc ((world.held component : Int) - next.held component) * preciseUnit
        ≤ (Rounding.mulFloor preciseUnit quantity unit : Int) * preciseUnit := by
          refine mul_le_mul_of_nonneg_right ?_ preciseUnit_int_pos.le
          have := (Int.ofNat_le.mpr paid)
          push_cast at this
          linarith
      _ ≤ (quantity : Int) * unit := by exact_mod_cast claim

end Issuance

/-! ### Transactions and runs -/

/-- The transaction takes no token from the Set as a holder, and accrues no streaming fee. -/
def Transaction.Outside (setToken : Address) (transaction : Transaction) : Prop :=
  match transaction.operation with
  | .accrueFee => False
  | .updateStreamingFee _ => False
  | .transfer _ _ _ => transaction.msgSender ≠ setToken
  | .transferFrom _ sender _ _ => sender ≠ setToken
  | _ => True

theorem Transaction.Outside.spender {setToken : Address} {transaction : Transaction}
    (outside : transaction.Outside setToken) : transaction.spender ≠ some setToken := by
  obtain ⟨msgSender, operation⟩ := transaction
  cases operation with
  | transfer token recipient amount => exact fun same => outside (Option.some.inj same)
  | transferFrom token sender recipient amount => exact fun same => outside (Option.some.inj same)
  | _ => exact Option.some_ne_none _ ∘ Eq.symm

namespace System

/-- Nor does any transaction that the action makes; the Set redeems nothing of itself. -/
def Action.Outside (setToken : Address) : Action → Prop :=
  Action.Sends (fun transaction => transaction.Outside setToken) fun msgSender =>
    msgSender ≠ setToken

variable {system next : System}

theorem operate_accounted {transaction : Transaction}
    (positive : 0 < system.world.setToken.positionMultiplier)
    (outside : transaction.Outside system.world.setToken.address)
    (returned : system.operate transaction = .ok next) :
    Accounted system.world next.world := by
  cases operate_impact returned with
  | quiet addresses positions held => exact .of_fund positions held
  | moved addresses only more => exact .of_balances only (more outside.spender)
  | traded addresses adapters component componentAmount quoteAssetLimit bid =>
    exact bid_accounted positive bid
  | accrued addresses operation =>
    unfold Transaction.Outside at outside
    rw [operation] at outside
    exact outside.elim
  | repriced addresses newFee operation =>
    unfold Transaction.Outside at outside
    rw [operation] at outside
    exact outside.elim

/-- Every run is a sequence of steps of the fund. -/
theorem run_step_accounted (start : System) (actions : List Action)
    (positive : 0 < start.world.setToken.positionMultiplier)
    (distinct : start.world.setToken.components.Nodup)
    (outside : ∀ action ∈ actions, action.Outside start.world.setToken.address) :
    Accounted start.world (run step start actions).world := by
  refine run_invariant step (fun reached => Accounted start.world reached.world)
    (fun action => action.Outside start.world.setToken.address) ?_ actions outside start (.refl _)
  refine step_invariant _ _ _ ?_ ?_ ?_
  · intro state transaction next allowed before returned
    refine before.trans (operate_accounted ?_ ?_ returned)
    · rw [before.multiplier]
      exact positive
    · rw [before.address]
      exact allowed
  · intro state msgSender quantity recipient world before issued
    exact before.trans (completeIssue_accounted issued)
  · intro state msgSender quantity recipient world other before redeemed
    refine before.trans (redeem_accounted ?_ (before.nodup distinct) redeemed)
    rw [before.address]
    exact other

/-- In every run of issuances, redemptions, auctions and donations, if the Set holds enough
of every component in the first state, it does in the last. -/
theorem solvent_run (start : System) (actions : List Action)
    (positive : 0 < start.world.setToken.positionMultiplier)
    (distinct : start.world.setToken.components.Nodup)
    (outside : ∀ action ∈ actions, action.Outside start.world.setToken.address)
    (solvent : ∀ component ∈ start.world.setToken.components,
      (start.world.setToken.totalSupply : Int) * start.world.setToken.defaultRealUnit component ≤
        start.world.held component * preciseUnit) :
    let reached := (run step start actions).world
    ∀ component ∈ reached.setToken.components,
      (reached.setToken.totalSupply : Int) * reached.setToken.defaultRealUnit component ≤
        reached.held component * preciseUnit :=
  Fund.solvent_of_steps preciseUnit_int_pos.le
    (run_step_accounted start actions positive distinct outside).steps solvent

/-- Issue and redeem a part of the sample's Set, start an auction and bid in it, and donate to
the Set. -/
def sampleActions : List Action :=
  [.transact ⟨5, .initializeBasicIssuance 8⟩, .issue 7 (5 * 10 ^ 17) 7 (.ok []),
    .redeem 7 (2 * 10 ^ 17) 7] ++ sampleStart.map .transact ++
  [.transact ⟨7, .bid sampleAdapters 3 (10 ^ 17) (10 ^ 18)⟩, .transact ⟨7, .transfer 3 2 1000⟩]

theorem solvent_run_sample :
    let reached := (run step sample sampleActions).world
    reached.setToken.totalSupply = 13 * 10 ^ 17 ∧ ∀ component ∈ reached.setToken.components,
      (reached.setToken.totalSupply : Int) * reached.setToken.defaultRealUnit component ≤
        reached.held component * preciseUnit := by
  have outside : ∀ action ∈ sampleActions, action.Outside 2 := by
    simp [sampleActions, sampleStart, Action.Outside, Action.Sends, Transaction.Outside]
  have solvent : ∀ component ∈ sample.world.setToken.components,
      (sample.world.setToken.totalSupply : Int) * sample.world.setToken.defaultRealUnit component ≤
        sample.world.held component * preciseUnit := by
    intro component member
    obtain rfl := List.mem_singleton.mp member
    decide
  exact ⟨by decide, solvent_run sample sampleActions (by decide) (by decide) outside solvent⟩

end System

end IndexProtocol

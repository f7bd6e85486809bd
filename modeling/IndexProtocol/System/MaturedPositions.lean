/-
This file proves when the hooks of the Notional trade module leave no matured
wrapped fCash in a Set. The loop runs over the positions as they were before the
first redemption, while each redemption edits the live ones. A position that is
redeemed by its whole unit is closed, whatever surplus there is; a position whose
notional rounds down to nothing is passed by in silence and stays. A component is
therefore gone exactly when one of its positions has a notional, and components
that are neither matured nor paid out are not touched.
-/

import IndexProtocol.Lib.AbiCoder
import IndexProtocol.Modules.NotionalTradeModule
import IndexProtocol.System.PositionListing

namespace IndexProtocol

open Revert PreciseUnitMath

namespace SetToken

/-- Every position in the list is one of its own component, which is listed. -/
theorem mem_positions {setToken : SetToken} {components : List Address} {entry : PositionEntry}
    (listed : entry ∈ components.flatMap setToken.positionsOf) :
    entry.component ∈ components ∧ entry ∈ setToken.positionsOf entry.component := by
  obtain ⟨component, member, own⟩ := List.mem_flatMap.mp listed
  obtain rfl := component_of_mem_positionsOf own
  exact ⟨member, own⟩

/-- In the list of positions no position of a component comes before its default position. -/
theorem default_listed_first {setToken : SetToken} {components : List Address}
    {seen rest : List PositionEntry} {entry : PositionEntry}
    (opened : 0 < setToken.defaultPositionVirtualUnit entry.component)
    (split : components.flatMap setToken.positionsOf = seen ++ entry :: rest) :
    ∃ first ∈ seen ++ [entry], first.component = entry.component ∧
      first.unit = setToken.defaultRealUnit entry.component := by
  induction components generalizing seen with
  | nil => simp at split
  | cons component others inductionHypothesis =>
    rw [List.flatMap_cons, List.append_eq_append_iff] at split
    rcases split with ⟨later, rfl, remaining⟩ | ⟨block, own, remaining⟩
    · obtain ⟨first, member, facts⟩ := inductionHypothesis remaining
      refine ⟨first, ?_, facts⟩
      rw [List.append_assoc]
      exact List.mem_append_right _ member
    · cases block with
      | nil =>
        have next : others.flatMap setToken.positionsOf = [] ++ entry :: rest := remaining.symm
        obtain ⟨first, member, facts⟩ := inductionHypothesis next
        exact ⟨first, List.mem_append_right _ member, facts⟩
      | cons head block =>
        obtain ⟨rfl, _⟩ := List.cons.inj remaining
        have member : entry ∈ setToken.positionsOf component := by
          rw [own]
          exact List.mem_append_right _ List.mem_cons_self
        obtain rfl := component_of_mem_positionsOf member
        unfold positionsOf defaultPosition at own
        rw [if_pos opened, List.singleton_append] at own
        -- The block of the component starts with its default position.
        cases seen with
        | nil =>
          obtain ⟨same, _⟩ := List.cons.inj own
          exact ⟨entry, List.mem_singleton_self _, rfl, by rw [← same]⟩
        | cons head seen =>
          obtain ⟨same, _⟩ := List.cons.inj own
          exact ⟨head, List.mem_cons_self, by rw [← same], by rw [← same]⟩

end SetToken

namespace NotionalTradeModule

variable {Ledger : Type}

/-! ### The wrappers -/

/-- What the module relies on. A wrapper burns exactly the amount that the Set redeems, and the
tokens that wrappers settle to, the underlying and the asset token, are not wrapped fCash. -/
structure RedeemsAsRequested (module : NotionalTradeModule) (wrappers : FCashWrappers Ledger) :
    Prop where
  burns : ∀ wrapper toUnderlying amount world ledger word next nextLedger,
    module.isWrappedFCash wrappers wrapper = true → amount < 2 ^ 256 →
    wrappers.execute ⟨wrapper, 0,
        .raw (wrappers.encode (redeemCall toUnderlying amount world.setToken.address))⟩
        world ledger = .ok (word, next, nextLedger) →
      amount ≤ world.held wrapper ∧ next.held wrapper = world.held wrapper - amount
  settles : ∀ wrapper toUnderlying token, module.isWrappedFCash wrappers wrapper = true →
    module.paidToken wrappers wrapper toUnderlying = .ok token →
      module.isWrappedFCash wrappers token = false

/-- The component is a wrapped fCash token that has matured. -/
def Matured (module : NotionalTradeModule) (wrappers : FCashWrappers Ledger) (world : World)
    (component : Address) : Prop :=
  module.isMaturedFCash wrappers world.timestamp component = true

/-- A token that a matured component of the Set pays in. -/
def Paid (module : NotionalTradeModule) (wrappers : FCashWrappers Ledger) (world : World)
    (token : Address) : Prop :=
  ∃ component ∈ world.setToken.components, module.Matured wrappers world component ∧
    module.paidToken wrappers component module.redeemToUnderlying = .ok token

/-- The whole Set has a notional amount of the position. -/
def HasNotional (supply : Nat) (position : PositionEntry) : Prop :=
  0 < position.unit ∧ 0 < Rounding.mulFloor preciseUnit supply position.unit.toNat

/-- The positions that are redeemed. -/
def Redeems (module : NotionalTradeModule) (wrappers : FCashWrappers Ledger) (world : World)
    (position : PositionEntry) : Prop :=
  module.Matured wrappers world position.component ∧
    HasNotional world.setToken.totalSupply position

section Wrapped

variable {module : NotionalTradeModule} {wrappers : FCashWrappers Ledger} {world : World}
  {component : Address}

theorem Matured.wrapped (matured : module.Matured wrappers world component) :
    module.isWrappedFCash wrappers component = true := by
  unfold Matured isMaturedFCash at matured
  exact (Bool.and_eq_true _ _ ▸ matured).1

/-- No wrapper pays in wrapped fCash. -/
theorem RedeemsAsRequested.paid_ne (laws : module.RedeemsAsRequested wrappers)
    {wrapper token : Address} {toUnderlying : Bool}
    (wrapped : module.isWrappedFCash wrappers component = true)
    (settler : module.isWrappedFCash wrappers wrapper = true)
    (paidIn : module.paidToken wrappers wrapper toUnderlying = .ok token) :
    component ≠ token := by
  rintro rfl
  rw [laws.settles _ _ _ settler paidIn] at wrapped
  cases wrapped

end Wrapped

/-! ### One redemption -/

section Redemption

variable {module : NotionalTradeModule} {wrappers : FCashWrappers Ledger}
variable {execution next : Execution Ledger} {position : PositionEntry} {token : Address}

/-- What a redemption does: the amount is burned, the unit of the wrapper is edited from its
balance, and at most the positions of the wrapper and of the token it pays in are touched. -/
structure Redeemed (module : NotionalTradeModule) (wrappers : FCashWrappers Ledger)
    (wrapper token : Address) (amount : Nat) (before moved next : World) : Prop where
  paidIn : module.paidToken wrappers wrapper module.redeemToUnderlying = .ok token
  onlyBalances : World.OnlyBalances before moved
  owned : amount ≤ before.held wrapper
  burned : moved.held wrapper = before.held wrapper - amount
  edit : ∃ newUnit, World.EditedUnit wrapper (before.held wrapper) moved next newUnit
  kept : World.KeepsOthers {wrapper, token} moved next

theorem redeem_eq_ok {wrapper : Address} {amount : Nat} {toUnderlying : Bool}
    (laws : module.RedeemsAsRequested wrappers)
    (wrapped : module.isWrappedFCash wrappers wrapper = true) (bound : amount < 2 ^ 256)
    (returned : module.redeem wrappers wrapper amount toUnderlying execution = .ok next) :
    World.OnlyBalances execution.world next.world ∧ amount ≤ execution.world.held wrapper ∧
      next.world.held wrapper = execution.world.held wrapper - amount := by
  simp only [redeem, Execution.invokeUnchecked, Execution.invoke, bind_eq_ok, pure_eq_ok,
    Prod.exists, Prod.mk.injEq] at returned
  obtain ⟨_, _, ⟨_, _, word, moved, ledger, executed, rfl, rfl⟩, rfl⟩ := returned
  exact ⟨wrappers.onlyBalances _ _ _ _ _ _ executed,
    laws.burns _ _ _ _ _ _ _ _ wrapped bound executed⟩

/-- A turn of the loop redeems a matured position that has a notional, and does nothing for any
other one. -/
theorem redeemIfMatured_eq_ok (laws : module.RedeemsAsRequested wrappers)
    (returned : module.redeemIfMatured wrappers execution position = .ok next) :
    (module.Redeems wrappers execution.world position ∧
        ∃ token moved, module.Redeemed wrappers position.component token
          (Rounding.mulFloor preciseUnit execution.world.setToken.totalSupply
            position.unit.toNat) execution.world moved next.world) ∨
      (next = execution ∧ ¬module.Redeems wrappers execution.world position) := by
  unfold redeemIfMatured at returned
  split at returned
  · rename_i redeemed
    obtain ⟨positive, isMatured⟩ := redeemed
    have matured : module.Matured wrappers execution.world position.component := isMatured
    simp only [bind_eq_ok, pure_eq_ok, Prod.exists, Position.getDefaultTotalNotional,
      preciseMul_eq_ok] at returned
    obtain ⟨token, paidIn, _, ⟨product, rfl⟩, done, _, redeemed, rfl⟩ := returned
    unfold redeemFCashPosition at redeemed
    split at redeemed
    · rename_i zero
      rw [pure_eq_ok, Prod.mk.injEq] at redeemed
      refine Or.inr ⟨redeemed.1.symm, fun both => ?_⟩
      have some : 0 < Rounding.mulFloor preciseUnit execution.world.setToken.totalSupply
        position.unit.toNat := both.2.2
      exact absurd zero some.ne'
    · rename_i nonzero
      simp only [bind_eq_ok, pure_eq_ok, Prod.exists, Prod.mk.injEq, require_eq_ok,
        exists_const] at redeemed
      obtain ⟨moved, called, world, _, _, updated, _, rfl, _⟩ := redeemed
      have wrapped := matured.wrapped
      have bound := (Nat.div_le_self _ preciseUnit).trans_lt product
      obtain ⟨only, owned, burned⟩ := redeem_eq_ok laws wrapped bound called
      have different := laws.paid_ne wrapped wrapped paidIn
      obtain ⟨edit, _, kept⟩ := World.updatePositions_eq_ok different updated
      exact Or.inl ⟨⟨matured, positive, Nat.pos_of_ne_zero nonzero⟩, token, moved.world,
        paidIn, only, owned, burned, edit, kept⟩
  · rename_i skipped
    obtain rfl := (pure_eq_ok _ _).mp returned
    exact Or.inr ⟨rfl, fun both => skipped ⟨both.2.1, both.1⟩⟩

/-- A redemption of the whole unit, or of an amount where no unit is tracked, closes the default
position. -/
theorem Redeemed.unit_zero {wrapper : Address} {amount : Nat} {before moved done : World}
    (positive : 0 < before.setToken.positionMultiplier) (some : 0 < amount)
    (redeemed : module.Redeemed wrappers wrapper token amount before moved done)
    (tracks : ∀ unit : Nat, before.setToken.defaultRealUnit wrapper = unit →
      Rounding.mulFloor preciseUnit before.setToken.totalSupply unit = amount ∨
        Rounding.mulFloor preciseUnit before.setToken.totalSupply unit = 0) :
    done.setToken.defaultRealUnit wrapper = 0 := by
  obtain ⟨newUnit, edit⟩ := redeemed.edit
  have only := redeemed.onlyBalances
  suffices zero : newUnit = 0 by
    rw [edit.realUnit (only.positionMultiplier ▸ positive), zero, Nat.cast_zero, zero_mul,
      Int.zero_ediv, zero_mul, Int.zero_ediv]
  rcases Nat.eq_zero_or_pos (moved.held wrapper) with none | left
  · exact edit.empty none
  · obtain ⟨unit, read, spread⟩ := edit.spread left
    rw [only.defaultRealUnit] at read
    obtain ⟨_, surplus, _, quotient⟩ := Position.calculateDefaultEditPositionUnit_eq_ok spread
    rw [Rounding.mulFloor_comm, only.totalSupply, redeemed.burned] at surplus quotient
    have owned := redeemed.owned
    have burned := redeemed.burned
    -- Were nothing tracked, the surplus alone would be the whole balance, and exceed it now.
    have whole : Rounding.mulFloor preciseUnit before.setToken.totalSupply unit = amount := by
      rcases tracks unit read with whole | none
      · exact whole
      · omega
    rw [whole, Nat.sub_self, zero_mul, Nat.zero_div] at quotient
    exact quotient.symm

end Redemption

/-! ### The loop -/

/-- A redeemed component, or a token that one pays in. -/
def Touched (module : NotionalTradeModule) (wrappers : FCashWrappers Ledger) (start : World)
    (seen : List PositionEntry) (component : Address) : Prop :=
  ∃ position ∈ seen, module.Redeems wrappers start position ∧
    (component = position.component ∨
      module.paidToken wrappers position.component module.redeemToUnderlying = .ok component)

/-- What holds once the positions that were seen have had their turn. -/
structure Swept (module : NotionalTradeModule) (wrappers : FCashWrappers Ledger) (start : World)
    (seen : List PositionEntry) (state : World) : Prop where
  timestamp : state.timestamp = start.timestamp
  totalSupply : state.setToken.totalSupply = start.setToken.totalSupply
  multiplier : state.setToken.positionMultiplier = start.setToken.positionMultiplier
  untouched : ∀ component, ¬module.Touched wrappers start seen component →
    state.setToken.componentPositions component = start.setToken.componentPositions component ∧
      (component ∈ state.setToken.components ↔ component ∈ start.setToken.components)
  closed : ∀ position ∈ seen, module.Redeems wrappers start position →
    state.setToken.defaultRealUnit position.component = 0

section Loop

variable {module : NotionalTradeModule} {wrappers : FCashWrappers Ledger}
variable {start state : World} {execution next : Execution Ledger}
variable {seen rest : List PositionEntry} {position : PositionEntry} {component : Address}

theorem Touched.mono (more : List PositionEntry)
    (touched : module.Touched wrappers start seen component) :
    module.Touched wrappers start (seen ++ more) component := by
  obtain ⟨position, member, facts⟩ := touched
  exact ⟨position, List.mem_append_left _ member, facts⟩

/-- A wrapped component is touched only as one that is redeemed, since no wrapper pays in it. -/
theorem Touched.of_wrapped (laws : module.RedeemsAsRequested wrappers)
    (wrapped : module.isWrappedFCash wrappers component = true)
    (touched : module.Touched wrappers start seen component) :
    ∃ position ∈ seen, module.Redeems wrappers start position ∧
      position.component = component := by
  obtain ⟨position, member, redeems, rfl | paidIn⟩ := touched
  · exact ⟨position, member, redeems, rfl⟩
  · exact absurd rfl (laws.paid_ne wrapped redeems.1.wrapped paidIn)

theorem Swept.unit (swept : module.Swept wrappers start seen state)
    (apart : ¬module.Touched wrappers start seen component) :
    state.setToken.defaultRealUnit component = start.setToken.defaultRealUnit component := by
  unfold SetToken.defaultRealUnit SetToken.realUnit SetToken.defaultPositionVirtualUnit
  rw [(swept.untouched component apart).1, swept.multiplier]

theorem Swept.redeems_iff (swept : module.Swept wrappers start seen state) :
    module.Redeems wrappers state position ↔ module.Redeems wrappers start position := by
  unfold Redeems Matured
  rw [swept.timestamp, swept.totalSupply]

theorem virtualUnit_pos {setToken : SetToken} (positive : 0 < setToken.positionMultiplier)
    (unit : 0 < setToken.defaultRealUnit component) :
    0 < setToken.defaultPositionVirtualUnit component := by
  by_contra closed
  have product := mul_nonpos_of_nonpos_of_nonneg (not_lt.mp closed) positive.le
  exact absurd unit (not_lt.mpr (Int.ediv_nonpos_of_nonpos_of_neg product preciseUnit_int_pos))

/-- When a position is redeemed, the live unit of its component has the notional of that
position or none: the unit was closed before, or it is the one of the default position, which
has had its turn by then. -/
theorem Swept.tracks (laws : module.RedeemsAsRequested wrappers)
    (positive : 0 < start.setToken.positionMultiplier)
    (split : start.setToken.components.flatMap start.setToken.positionsOf =
      seen ++ position :: rest)
    (swept : module.Swept wrappers start seen state)
    (redeems : module.Redeems wrappers start position) (unit : Nat)
    (read : state.setToken.defaultRealUnit position.component = unit) :
    Rounding.mulFloor preciseUnit start.setToken.totalSupply unit =
        Rounding.mulFloor preciseUnit start.setToken.totalSupply position.unit.toNat ∨
      Rounding.mulFloor preciseUnit start.setToken.totalSupply unit = 0 := by
  have nothing : unit = 0 → Rounding.mulFloor preciseUnit start.setToken.totalSupply unit = 0 := by
    rintro rfl
    rw [Rounding.mulFloor, mul_zero, Nat.zero_div]
  by_cases touched : module.Touched wrappers start seen position.component
  · obtain ⟨earlier, member, closed, same⟩ := touched.of_wrapped laws redeems.1.wrapped
    have zero := swept.closed earlier member closed
    rw [same, read] at zero
    exact Or.inr (nothing (by exact_mod_cast zero))
  · rw [swept.unit touched] at read
    rcases Nat.eq_zero_or_pos unit with zero | some
    · exact Or.inr (nothing zero)
    · have opened := virtualUnit_pos positive (read ▸ Int.natCast_pos.mpr some)
      obtain ⟨first, member, same, firstUnit⟩ := SetToken.default_listed_first opened split
      rw [read] at firstUnit
      rcases List.mem_append.mp member with earlier | now
      · -- The default position was passed by, so it has no notional.
        refine Or.inr (Nat.eq_zero_of_not_pos fun notional => touched ?_)
        refine ⟨first, earlier, ⟨same ▸ redeems.1, ?_, ?_⟩, Or.inl same.symm⟩
        · rw [firstUnit]
          exact Int.natCast_pos.mpr some
        · rwa [firstUnit, Int.toNat_natCast]
      · obtain rfl := List.mem_singleton.mp now
        rw [firstUnit, Int.toNat_natCast]
        exact Or.inl rfl

theorem Swept.skip (swept : module.Swept wrappers start seen state)
    (skipped : ¬module.Redeems wrappers start position) :
    module.Swept wrappers start (seen ++ [position]) state where
  timestamp := swept.timestamp
  totalSupply := swept.totalSupply
  multiplier := swept.multiplier
  untouched := fun component apart =>
    swept.untouched component fun touched => apart (touched.mono [position])
  closed := by
    intro other member redeems
    rcases List.mem_append.mp member with earlier | now
    · exact swept.closed other earlier redeems
    · exact absurd (List.mem_singleton.mp now ▸ redeems) skipped

/-- One turn of the loop. -/
theorem Swept.step (laws : module.RedeemsAsRequested wrappers)
    (positive : 0 < start.setToken.positionMultiplier)
    (split : start.setToken.components.flatMap start.setToken.positionsOf =
      seen ++ position :: rest)
    (swept : module.Swept wrappers start seen execution.world)
    (returned : module.redeemIfMatured wrappers execution position = .ok next) :
    module.Swept wrappers start (seen ++ [position]) next.world := by
  rcases redeemIfMatured_eq_ok laws returned with ⟨now, token, moved, redeemed⟩ | ⟨rfl, skipped⟩
  swap
  · exact swept.skip fun redeems => skipped (swept.redeems_iff.mpr redeems)
  have redeems := swept.redeems_iff.mp now
  have only := redeemed.onlyBalances
  have kept := redeemed.kept
  have closes : next.world.setToken.defaultRealUnit position.component = 0 := by
    refine redeemed.unit_zero (swept.multiplier ▸ positive) now.2.2 fun unit read => ?_
    rw [swept.totalSupply]
    exact swept.tracks laws positive split redeems unit read
  refine ⟨kept.timestamp.trans (only.timestamp.trans swept.timestamp),
    kept.totalSupply.trans (only.totalSupply.trans swept.totalSupply),
    kept.edits.positionMultiplier.trans (only.positionMultiplier.trans swept.multiplier),
    fun component apart => ?_, fun other member otherRedeems => ?_⟩
  · have outside : component ∉ ({position.component, token} : Set Address) := by
      rintro (rfl | rfl)
      · exact apart ⟨position, List.mem_append_right _ (List.mem_singleton_self _), redeems,
          Or.inl rfl⟩
      · exact apart ⟨position, List.mem_append_right _ (List.mem_singleton_self _), redeems,
          Or.inr redeemed.paidIn⟩
    obtain ⟨stored, listed⟩ :=
      swept.untouched component fun touched => apart (touched.mono [position])
    refine ⟨?_, ?_⟩
    · rw [kept.edits.positions component outside, only.samePositions.componentPositions, stored]
    · rw [kept.edits.listed component outside, only.components, listed]
  · by_cases same : other.component = position.component
    · rw [same]
      exact closes
    · have earlier : other ∈ seen := by
        rcases List.mem_append.mp member with earlier | now
        · exact earlier
        · exact absurd (congrArg PositionEntry.component (List.mem_singleton.mp now)) same
      have outside : other.component ∉ ({position.component, token} : Set Address) := by
        rintro (equal | equal)
        · exact same equal
        · exact laws.paid_ne otherRedeems.1.wrapped redeems.1.wrapped redeemed.paidIn equal
      rw [kept.defaultRealUnit outside, only.defaultRealUnit]
      exact swept.closed other earlier otherRedeems

/-- The whole loop. -/
theorem redeemAllMatured_swept (laws : module.RedeemsAsRequested wrappers)
    (positive : 0 < execution.world.setToken.positionMultiplier)
    (returned : module.redeemAllMatured wrappers execution = .ok next) :
    module.Swept wrappers execution.world
      (execution.world.setToken.components.flatMap execution.world.setToken.positionsOf)
      next.world := by
  simp only [redeemAllMatured, bind_eq_ok, SetToken.getPositions_eq_ok] at returned
  obtain ⟨_, ⟨_, rfl⟩, looped⟩ := returned
  refine foldlM_seen _
    (fun seen (state : Execution Ledger) => module.Swept wrappers execution.world seen state.world)
    _ ?_ ?_ looped
  · exact ⟨rfl, rfl, rfl, fun _ _ => ⟨rfl, Iff.rfl⟩, fun _ member => absurd member List.not_mem_nil⟩
  · intro seen item rest state after split swept turn
    exact Swept.step laws positive split swept turn

end Loop

/-! ### What is touched in the end -/

section Touched

variable {module : NotionalTradeModule} {wrappers : FCashWrappers Ledger} {start : World}
  {component : Address}

/-- A matured component is touched exactly when one of its positions has a notional. -/
theorem touched_iff_of_matured (laws : module.RedeemsAsRequested wrappers)
    (matured : module.Matured wrappers start component) :
    module.Touched wrappers start
        (start.setToken.components.flatMap start.setToken.positionsOf) component ↔
      component ∈ start.setToken.components ∧
        ∃ position ∈ start.setToken.positionsOf component,
          HasNotional start.setToken.totalSupply position := by
  constructor
  · intro touched
    obtain ⟨position, listed, redeems, rfl⟩ := touched.of_wrapped laws matured.wrapped
    obtain ⟨member, own⟩ := SetToken.mem_positions listed
    exact ⟨member, position, own, redeems.2⟩
  · rintro ⟨member, position, own, notional⟩
    obtain rfl := SetToken.component_of_mem_positionsOf own
    exact ⟨position, List.mem_flatMap.mpr ⟨_, member, own⟩, ⟨matured, notional⟩, Or.inl rfl⟩

/-- A component that is neither matured nor paid in is not touched. -/
theorem not_touched (alive : ¬module.Matured wrappers start component)
    (unpaid : ¬module.Paid wrappers start component) :
    ¬module.Touched wrappers start
      (start.setToken.components.flatMap start.setToken.positionsOf) component := by
  rintro ⟨position, listed, redeems, rfl | paidIn⟩
  · exact alive redeems.1
  · exact unpaid ⟨_, (SetToken.mem_positions listed).1, redeems.1, paidIn⟩

end Touched

/-! ### The hooks -/

/-- One of the functions that redeem the matured positions returned. -/
inductive Clears (module : NotionalTradeModule) (wrappers : FCashWrappers Ledger)
    (before after : Execution Ledger) : Prop
  | issueHook (msgSender : Address) (setTokenAmount : Nat)
      (returned : module.moduleIssueHook wrappers msgSender setTokenAmount before = .ok after)
  | redeemHook (msgSender : Address) (setTokenAmount : Nat)
      (returned : module.moduleRedeemHook wrappers msgSender setTokenAmount before = .ok after)
  | redeemMatured (returned : module.redeemMaturedPositions wrappers before = .ok after)

theorem Clears.redeemed {module : NotionalTradeModule} {wrappers : FCashWrappers Ledger}
    {before after : Execution Ledger} (enabled : module.redemptionHookDisabled = false)
    (clears : module.Clears wrappers before after) :
    module.redeemAllMatured wrappers before = .ok after := by
  have hook : ∀ msgSender, module.redemptionHook wrappers msgSender before = .ok after →
      module.redeemAllMatured wrappers before = .ok after := by
    intro msgSender returned
    simp only [redemptionHook, bind_eq_ok, if_pos enabled] at returned
    exact returned.choose_spec.2
  cases clears with
  | issueHook msgSender _ returned => exact hook msgSender returned
  | redeemHook msgSender _ returned => exact hook msgSender returned
  | redeemMatured returned =>
    simp only [redeemMaturedPositions, bind_eq_ok] at returned
    exact returned.choose_spec.2

/-- No component with a positive default unit is matured wrapped fCash. -/
def NoneMatured (module : NotionalTradeModule) (wrappers : FCashWrappers Ledger)
    (world : World) : Prop :=
  ∀ component ∈ world.setToken.components, 0 < world.setToken.defaultRealUnit component →
    ¬module.Matured wrappers world component

/-- Every matured wrapped fCash with a positive default unit has a position of which the whole
Set has a notional amount. -/
def MaturedHaveNotional (module : NotionalTradeModule) (wrappers : FCashWrappers Ledger)
    (world : World) : Prop :=
  ∀ component ∈ world.setToken.components, 0 < world.setToken.defaultRealUnit component →
    module.Matured wrappers world component →
      ∃ position ∈ world.setToken.positionsOf component,
        HasNotional world.setToken.totalSupply position

/-- Once one of the three functions returns, no matured wrapped fCash is left exactly when each
had a position with a notional amount. The units of the components that are neither matured nor
paid in are unchanged. -/
theorem none_matured_iff (module : NotionalTradeModule) (wrappers : FCashWrappers Ledger)
    (laws : module.RedeemsAsRequested wrappers) (before after : Execution Ledger)
    (positive : 0 < before.world.setToken.positionMultiplier)
    (enabled : module.redemptionHookDisabled = false)
    (clears : module.Clears wrappers before after) :
    (module.NoneMatured wrappers after.world ↔
      module.MaturedHaveNotional wrappers before.world) ∧
    ∀ component, ¬module.Matured wrappers before.world component →
      ¬module.Paid wrappers before.world component →
        after.world.setToken.defaultRealUnit component =
            before.world.setToken.defaultRealUnit component ∧
          ∀ positionModule, after.world.setToken.externalRealUnit component positionModule =
            before.world.setToken.externalRealUnit component positionModule := by
  have swept := redeemAllMatured_swept laws positive (clears.redeemed enabled)
  have same : ∀ component, module.Matured wrappers after.world component ↔
      module.Matured wrappers before.world component := by
    intro component
    unfold Matured
    rw [swept.timestamp]
  refine ⟨⟨?_, ?_⟩, ?_⟩
  · intro none component member unit matured
    by_contra passed
    have apart : ¬module.Touched wrappers before.world _ component :=
      fun touched => passed ((touched_iff_of_matured laws matured).mp touched).2
    refine none component ((swept.untouched component apart).2.mpr member) ?_
      ((same component).mpr matured)
    rw [swept.unit apart]
    exact unit
  · intro notional component member unit matured
    rw [same] at matured
    by_cases touched : module.Touched wrappers before.world
        (before.world.setToken.components.flatMap before.world.setToken.positionsOf) component
    · obtain ⟨position, listed, redeems, rfl⟩ := touched.of_wrapped laws matured.wrapped
      rw [swept.closed position listed redeems] at unit
      exact lt_irrefl _ unit
    · have listed := (swept.untouched component touched).2.mp member
      rw [swept.unit touched] at unit
      exact touched ((touched_iff_of_matured laws matured).mpr
        ⟨listed, notional component listed unit matured⟩)
  · intro component alive unpaid
    have apart := not_touched alive unpaid
    refine ⟨swept.unit apart, fun positionModule => ?_⟩
    unfold SetToken.externalRealUnit SetToken.realUnit SetToken.externalPositionVirtualUnit
    rw [(swept.untouched component apart).1, swept.multiplier]

/-! ### A sample Set of wrapped fCash -/

/-- The arguments of a redeeming call, behind a selector. -/
def encodeFCashCall : FCashCall → Bytes
  | .redeemToAsset amount receiver maxImpliedRate =>
    Words.ofNat 4 1 ++ (AbiCoder.encodeUint256 amount ++
      (AbiCoder.encodeUint256 receiver.toNat ++ AbiCoder.encodeUint256 maxImpliedRate))
  | .redeemToUnderlying amount receiver maxImpliedRate =>
    Words.ofNat 4 2 ++ (AbiCoder.encodeUint256 amount ++
      (AbiCoder.encodeUint256 receiver.toNat ++ AbiCoder.encodeUint256 maxImpliedRate))

theorem uint256_encodeFCashCall (toUnderlying : Bool) {amount : Nat} (receiver : Address)
    (bound : amount < 2 ^ 256) :
    AbiCoder.uint256 ((encodeFCashCall (redeemCall toUnderlying amount receiver)).drop 4) 0 =
      amount := by
  cases toUnderlying
  all_goals
    change AbiCoder.uint256 (List.drop 4 (Words.ofNat 4 _ ++ (AbiCoder.encodeUint256 amount ++ _)))
      0 = amount
    rw [List.drop_left' (Words.length_ofNat 4 _)]
    exact AbiCoder.uint256_encode _ _ bound

/-- One wrapper, at address eight, that matures at time 100 and pays token six one to one. -/
def sampleWrappers : FCashWrappers Unit where
  execute := fun invocation world ledger =>
    match invocation.callData with
    | .raw data => do
      let amount := AbiCoder.uint256 (data.drop 4) 0
      require (amount ≤ world.held invocation.target) "burn amount exceeds balance"
      let burned := world.setHeld invocation.target (world.held invocation.target - amount)
      pure (0, burned.setHeld 6 (burned.held 6 + amount), ledger)
    | _ => pure (0, world, ledger)
  onlyBalances := fun invocation world ledger word next nextLedger executed => by
    split at executed
    · simp only [bind_eq_ok, pure_eq_ok, require_eq_ok, exists_const, Prod.mk.injEq] at executed
      obtain ⟨_, _, rfl, _⟩ := executed
      exact (World.onlyBalances_setHeld _ _).trans (World.onlyBalances_setHeld _ _)
    · obtain ⟨_, rfl, _⟩ := Prod.mk.injEq _ _ _ _ ▸ (pure_eq_ok _ _).mp executed
      exact World.OnlyBalances.refl world
  borrowBalanceStored := fun _ _ _ => 0
  borrowBalanceCurrent := fun _ _ ledger => pure (0, ledger)
  isContract := fun account => decide (account = 8)
  getDecodedID := fun _ _ => some (1, 100)
  computeAddress := fun _ _ => some 8
  hasMatured := fun _ timestamp => decide (100 ≤ timestamp)
  getToken := fun _ _ => pure (6, false)
  encode := encodeFCashCall

def sampleNotional : NotionalTradeModule where
  address := 4
  redemptionHookDisabled := false
  redeemToUnderlying := false
  weth := 3
  decodedIdGasLimit := 100000

theorem sampleWrappers_laws : sampleNotional.RedeemsAsRequested sampleWrappers := by
  refine ⟨?_, ?_⟩
  · intro wrapper toUnderlying amount world ledger word next nextLedger wrapped bound executed
    have eight : wrapper = 8 := by
      simpa [isWrappedFCash, sampleWrappers] using wrapped
    subst eight
    simp only [sampleWrappers, uint256_encodeFCashCall _ _ bound, bind_eq_ok, pure_eq_ok,
      require_eq_ok, exists_const, Prod.mk.injEq] at executed
    obtain ⟨owned, _, rfl, _⟩ := executed
    refine ⟨owned, ?_⟩
    rw [World.held_setHeld, Function.update_of_ne (by decide), World.held_setHeld,
      Function.update_self]
  · intro wrapper toUnderlying token _ paidIn
    simp only [paidToken, sampleWrappers, bind_eq_ok, pure_eq_ok, Prod.exists, Prod.mk.injEq]
      at paidIn
    obtain ⟨_, _, ⟨rfl, rfl⟩, rfl⟩ := paidIn
    rfl

/-- A Set at time 100 with a unit of the wrapper and a balance of seven. -/
def sampleFCash (supply : Nat) (unit : Int) : Execution Unit where
  world := {
    timestamp := 100
    controller := { sampleController with isModule := fun _ => true }
    setToken :=
      { SetToken.construct 2 [8] [unit] [4] 5 with
        totalSupply := supply
        moduleStates := fun _ => .initialized }
    tokens := fun _ => { totalSupply := 0, balanceOf := fun _ => 7, allowance := fun _ _ => 0 } }
  ledger := ()
  events := []

/-- At a supply of one Set, a unit of five is redeemed before an issuance. -/
theorem none_matured_sample :
    ∃ after, sampleNotional.moduleIssueHook sampleWrappers 9 1 (sampleFCash (10 ^ 18) 5) =
        .ok after ∧
      sampleNotional.NoneMatured sampleWrappers after.world := by
  have succeeds : returns (sampleNotional.moduleIssueHook sampleWrappers 9 1
      (sampleFCash (10 ^ 18) 5)) (fun _ => true) = true := by
    decide +kernel
  obtain ⟨after, returned, _⟩ := exists_of_returns succeeds
  refine ⟨after, returned, ?_⟩
  refine (none_matured_iff sampleNotional sampleWrappers sampleWrappers_laws
    (sampleFCash (10 ^ 18) 5) after (by decide) rfl (.issueHook 9 1 returned)).1.mpr ?_
  intro component member _ _
  obtain rfl := List.mem_singleton.mp member
  exact ⟨_, List.mem_cons_self, by decide, by decide⟩

/-- At a supply of a billionth of a Set, a unit of a tenth of a billion has no notional amount.
The hook returns and the matured position is still there. -/
theorem matured_position_survives :
    sampleNotional.RedeemsAsRequested sampleWrappers ∧
      ∃ after, sampleNotional.moduleIssueHook sampleWrappers 9 1
          (sampleFCash (10 ^ 9) (10 ^ 8)) = .ok after ∧
        ¬sampleNotional.NoneMatured sampleWrappers after.world := by
  have succeeds : returns (sampleNotional.moduleIssueHook sampleWrappers 9 1
      (sampleFCash (10 ^ 9) (10 ^ 8))) (fun after => decide (
        8 ∈ after.world.setToken.components ∧
        after.world.setToken.defaultRealUnit 8 = 10 ^ 8 ∧ after.world.timestamp = 100)) =
          true := by
    decide +kernel
  obtain ⟨after, returned, left⟩ := exists_of_returns succeeds
  obtain ⟨listed, unit, time⟩ := of_decide_eq_true left
  refine ⟨sampleWrappers_laws, after, returned, fun none => none 8 listed (by rw [unit]; decide) ?_⟩
  unfold Matured
  rw [time]
  decide

end NotionalTradeModule

end IndexProtocol

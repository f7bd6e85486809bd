/-
This file says what a call of a module may do to a Set: nothing but calls of the
Set's own functions, made by the module, and changes of balances and allowances.
Positions are edited through the position library, apart from one module that
writes an external unit on its own, and a module edits external positions only
as its own. Every entry point of a module is made up of such moves, so what they
preserve the entry points preserve, in any order and whatever the contracts
outside do.
-/

import IndexProtocol.Library.Simulation
import IndexProtocol.Protocol.Execution
import IndexProtocol.Protocol.PositionBookkeeping
import IndexProtocol.Protocol.PositionUpdates

namespace IndexProtocol

open Revert

/-! ### Moves of a Set -/

/-- A call of the Set, an external unit written on its own, or other balances and allowances of
the Set token. -/
inductive SetTokenMove
  | setTokenCall (call : Call) (made : SetTokenCall)
  | editExternalPositionUnit (call : Call) (component module : Address) (realUnit : Int)
  | setHoldings (balances : Address → Nat) (allowances : Address → Address → Nat)

/-- An external position that is edited is the sender's. -/
def SetTokenCall.Owns (sender : Address) : SetTokenCall → Prop
  | .editExternalPosition _ module _ _ => module = sender
  | _ => True

def SetTokenCall.IsEdit : SetTokenCall → Prop
  | .editDefaultPosition _ _ => True
  | .editExternalPosition _ _ _ _ => True
  | _ => False

namespace SetTokenMove

def apply (setToken : SetToken) : SetTokenMove → Outcome SetToken
  | .setTokenCall call made => SetTokenCall.apply setToken (call, made)
  | .editExternalPositionUnit call component module realUnit =>
    setToken.editExternalPositionUnit call component module realUnit
  | .setHoldings balances allowances =>
    pure { setToken with balanceOf := balances, allowance := allowances }

/-- The calls are made by accounts of a set, which edit external positions as their own; balances
may change without them. -/
def MadeBy (senders : Set Address) : SetTokenMove → Prop
  | .setTokenCall call made => call.sender ∈ senders ∧ made.Owns call.sender
  | .editExternalPositionUnit call _ module _ => call.sender ∈ senders ∧ module = call.sender
  | .setHoldings _ _ => True

/-- Positions are edited through the position library. -/
def ThroughLibrary : SetTokenMove → Prop
  | .editExternalPositionUnit _ _ _ _ => False
  | _ => True

/-- Positions are edited, or balances change. -/
def IsEdit : SetTokenMove → Prop
  | .setTokenCall _ made => made.IsEdit
  | _ => True

/-- Moves of the senders that edit positions through the library. -/
def Library (senders : Set Address) (move : SetTokenMove) : Prop :=
  move.MadeBy senders ∧ move.ThroughLibrary

/-- Moves of the senders that only edit positions, through the library. -/
def Edits (senders : Set Address) (move : SetTokenMove) : Prop :=
  move.Library senders ∧ move.IsEdit

/-- Moves of the senders that only edit positions, which may write an external unit on its
own. -/
def OwnEdits (senders : Set Address) (move : SetTokenMove) : Prop :=
  move.MadeBy senders ∧ move.IsEdit

theorem MadeBy.mono {senders larger : Set Address} (contained : senders ⊆ larger)
    {move : SetTokenMove} (made : move.MadeBy senders) : move.MadeBy larger := by
  cases move with
  | setTokenCall => exact ⟨contained made.1, made.2⟩
  | editExternalPositionUnit => exact ⟨contained made.1, made.2⟩
  | setHoldings => trivial

end SetTokenMove

/-! ### Moves of the world -/

/-- The time and the controller stay, and the Set is changed by permitted moves alone. -/
structure World.Moves (permitted : SetTokenMove → Prop) (world next : World) : Prop where
  timestamp : next.timestamp = world.timestamp
  controller : next.controller = world.controller
  setToken : Reaches SetTokenMove.apply permitted world.setToken next.setToken

/-- Moves of one module. -/
abbrev World.MovesBy (module : Address) : World → World → Prop :=
  World.Moves (SetTokenMove.Library {module})

/-- Edits of one module. -/
abbrev World.EditsBy (module : Address) : World → World → Prop :=
  World.Moves (SetTokenMove.Edits {module})

namespace World

section Rules

variable {permitted wider : SetTokenMove → Prop} {world middle next : World}

theorem Moves.refl (permitted : SetTokenMove → Prop) (world : World) :
    Moves permitted world world :=
  ⟨rfl, rfl, Reaches.refl _⟩

theorem Moves.trans (first : Moves permitted world middle)
    (second : Moves permitted middle next) : Moves permitted world next where
  timestamp := second.timestamp.trans first.timestamp
  controller := second.controller.trans first.controller
  setToken := first.setToken.trans second.setToken

theorem Moves.mono (contained : ∀ move, permitted move → wider move)
    (moves : Moves permitted world next) : Moves wider world next :=
  ⟨moves.timestamp, moves.controller, moves.setToken.mono contained⟩

/-- A loop of moves moves. -/
theorem foldlM_moves {Item : Type} {body : World → Item → Outcome World} {items : List Item}
    (each : ∀ state item next, body state item = .ok next → Moves permitted state next)
    (returned : items.foldlM body world = .ok next) : Moves permitted world next :=
  foldlM_invariant body (Moves permitted world) items
    (fun state item next _ moved called => moved.trans (each state item next called))
    world next (Moves.refl _ world) returned

/-- A call of the Set is one move. -/
theorem callSetToken_moves (call : Call) (made : SetTokenCall)
    (permits : permitted (.setTokenCall call made))
    (returned : world.callSetToken (fun setToken => SetTokenCall.apply setToken (call, made)) =
      .ok next) : Moves permitted world next := by
  obtain ⟨called, stored⟩ := callSetToken_eq_ok returned
  refine ⟨by rw [stored], by rw [stored], ?_⟩
  exact Reaches.single (.setTokenCall call made) permits called

end Rules

section Library

variable {world next : World} {module token component sender recipient : Address}
  {supply before balance unit newUnit quantity : Nat}

theorem EditsBy.moves (edits : EditsBy module world next) : MovesBy module world next :=
  edits.mono fun _ edit => edit.1

/-- A change of balances and allowances is one move. -/
theorem OnlyBalances.edits (module : Address) (only : OnlyBalances world next) :
    EditsBy module world next := by
  obtain ⟨timestamp, controller, balances, allowances, stored⟩ := only
  refine ⟨timestamp, controller, ?_⟩
  refine Reaches.single (.setHoldings balances allowances)
    ⟨⟨trivial, trivial⟩, trivial⟩ ?_
  rw [stored]
  rfl

theorem calculateAndEditDefaultPosition_edits
    (returned : world.calculateAndEditDefaultPosition module component supply before =
      .ok (next, balance, unit, newUnit)) : EditsBy module world next := by
  obtain ⟨_, edited, stored, _⟩ := calculateAndEditDefaultPosition_eq_ok returned
  refine ⟨by rw [stored], by rw [stored], ?_⟩
  exact Reaches.single
    (.setTokenCall ⟨world.controller, module⟩ (.editDefaultPosition component newUnit))
    ⟨⟨⟨rfl, trivial⟩, trivial⟩, trivial⟩ edited

theorem editDefaultPosition_edits {controller : Controller}
    (returned : world.callSetToken
      (Position.editDefaultPosition ⟨controller, module⟩ component newUnit) = .ok next) :
    EditsBy module world next :=
  callSetToken_moves ⟨controller, module⟩ (.editDefaultPosition component newUnit)
    ⟨⟨⟨rfl, trivial⟩, trivial⟩, trivial⟩ returned

/-- A module that edits its own external position. -/
theorem editExternalPosition_edits {controller : Controller} {realUnit : Int} {data : Bytes}
    (returned : world.callSetToken
      (Position.editExternalPosition ⟨controller, module⟩ component module realUnit data) =
        .ok next) : EditsBy module world next :=
  callSetToken_moves ⟨controller, module⟩ (.editExternalPosition component module realUnit data)
    ⟨⟨⟨rfl, rfl⟩, trivial⟩, trivial⟩ returned

/-- A module that initializes itself. -/
theorem initializeModule_moves {controller : Controller}
    (returned : world.callSetToken (SetToken.initializeModule ⟨controller, module⟩) =
      .ok next) : MovesBy module world next :=
  callSetToken_moves ⟨controller, module⟩ .initializeModule
    ⟨⟨rfl, trivial⟩, trivial⟩ returned

theorem mint_moves {controller : Controller}
    (returned : world.callSetToken (SetToken.mint ⟨controller, module⟩ recipient quantity) =
      .ok next) : MovesBy module world next :=
  callSetToken_moves ⟨controller, module⟩ (.mint recipient quantity)
    ⟨⟨rfl, trivial⟩, trivial⟩ returned

theorem burn_moves {controller : Controller}
    (returned : world.callSetToken (SetToken.burn ⟨controller, module⟩ sender quantity) =
      .ok next) : MovesBy module world next :=
  callSetToken_moves ⟨controller, module⟩ (.burn sender quantity)
    ⟨⟨rfl, trivial⟩, trivial⟩ returned

theorem editPositionMultiplier_moves {controller : Controller} {newMultiplier : Int}
    (returned : world.callSetToken
      (SetToken.editPositionMultiplier ⟨controller, module⟩ newMultiplier) = .ok next) :
    MovesBy module world next :=
  callSetToken_moves ⟨controller, module⟩ (.editPositionMultiplier newMultiplier)
    ⟨⟨rfl, trivial⟩, trivial⟩ returned

/-- A transfer changes balances alone. -/
theorem callToken_move_onlyBalances
    (returned : world.callToken token (fun token => token.move sender recipient quantity) =
      .ok next) : OnlyBalances world next := by
  obtain ⟨_, moved, rfl⟩ := callToken_eq_ok returned
  obtain ⟨_, rfl⟩ := ERC20.move_eq_ok moved
  exact onlyBalances_storeToken _ _ rfl

/-- A checked transfer between any accounts changes balances and allowances alone. -/
theorem explicitTransferFrom_onlyBalances
    (returned : world.explicitTransferFrom module token sender recipient quantity = .ok next) :
    OnlyBalances world next := by
  unfold explicitTransferFrom at returned
  split at returned
  · simp only [bind_eq_ok, pure_eq_ok] at returned
    obtain ⟨_, moved, _, _, _, _, rfl⟩ := returned
    obtain ⟨_, called, rfl⟩ := callToken_eq_ok moved
    exact onlyBalances_storeToken _ _ (ERC20.transferFrom_eq_ok called).2.1
  · exact (pure_eq_ok _ _).mp returned ▸ OnlyBalances.refl _

theorem updatePositions_edits {sendToken receiveToken : Address}
    {preSend preReceive sentAmount receivedAmount : Nat}
    (returned : world.updatePositions module sendToken receiveToken preSend preReceive =
      .ok (next, sentAmount, receivedAmount)) : EditsBy module world next := by
  simp only [updatePositions, bind_eq_ok, pure_eq_ok, Prod.exists, Prod.mk.injEq] at returned
  obtain ⟨_, _, _, _, sent, _, _, _, _, received, _, _, _, _, rfl, _⟩ := returned
  exact (calculateAndEditDefaultPosition_edits sent).trans
    (calculateAndEditDefaultPosition_edits received)

end Library

end World

/-! ### Moves during an execution -/

namespace Execution

variable {Ledger : Type} {permitted : SetTokenMove → Prop} {before after : Execution Ledger}

/-- What is emitted goes with changes of balances alone. -/
theorem Emits.edits {events : List Event} (module : Address)
    (emits : Emits events before after) : World.EditsBy module before.world after.world :=
  emits.onlyBalances.edits module

theorem onWorld_moves {call : World → Outcome World}
    (moves : ∀ next, call before.world = .ok next → World.Moves permitted before.world next)
    (returned : before.onWorld call = .ok after) :
    World.Moves permitted before.world after.world :=
  moves _ (onWorld_eq_ok returned).1

theorem foldlM_moves {Item : Type} {body : Execution Ledger → Item → Outcome (Execution Ledger)}
    {items : List Item}
    (each : ∀ state item next, body state item = .ok next →
      World.Moves permitted state.world next.world)
    (returned : items.foldlM body before = .ok after) :
    World.Moves permitted before.world after.world :=
  foldlM_invariant body (fun state => World.Moves permitted before.world state.world) items
    (fun state item next _ moved called => moved.trans (each state item next called))
    before after (World.Moves.refl _ _) returned

end Execution

/-! ### What moves preserve -/

section Preserved

variable {senders : Set Address} {setToken next : SetToken} {move : SetTokenMove}
  {world after : World}

theorem PositionBookkeeping.applyMove (kept : PositionBookkeeping setToken)
    (library : move.ThroughLibrary) (returned : move.apply setToken = .ok next) :
    PositionBookkeeping next := by
  cases move with
  | setTokenCall call made => exact kept.apply (call, made) returned
  | editExternalPositionUnit => exact absurd library id
  | setHoldings balances allowances =>
    obtain rfl := (pure_eq_ok _ _).mp returned
    exact kept.congr ⟨rfl, rfl, rfl⟩

/-- Moves through the library keep the bookkeeping, whoever makes them. -/
theorem PositionBookkeeping.moves (kept : PositionBookkeeping world.setToken)
    (moved : World.Moves SetTokenMove.ThroughLibrary world after) :
    PositionBookkeeping after.setToken :=
  moved.setToken.invariant PositionBookkeeping
    (fun _ _ _ library holds returned => holds.applyMove library returned) kept

end Preserved

end IndexProtocol

/-
This file models the chain as one Set token sees it: the block time, the
controller, the Set token, and every other token by its address. The Set token
is itself a token, so reading or writing the token at its address reads or
writes the ERC20 part of the Set. The transfers into and out of the Set check
the balances before and after, and are described by what the Set holds.
-/

import IndexProtocol.Protocol.Position

namespace IndexProtocol

open Revert PreciseUnitMath

structure World where
  timestamp : Nat
  controller : Controller
  setToken : SetToken
  tokens : Address → ERC20

namespace World

/-! ### Tokens by address -/

def token (world : World) (address : Address) : ERC20 :=
  if address = world.setToken.address then world.setToken.toERC20 else world.tokens address

def storeToken (world : World) (address : Address) (token : ERC20) : World :=
  if address = world.setToken.address then
    { world with setToken := { world.setToken with toERC20 := token } }
  else { world with tokens := Function.update world.tokens address token }

def balanceOf (world : World) (token account : Address) : Nat :=
  (world.token token).balanceOf account

/-- `balanceOf` at the Set's own address. -/
def held (world : World) (token : Address) : Nat :=
  world.balanceOf token world.setToken.address

def callToken (address : Address) (call : ERC20 → Outcome ERC20) (world : World) :
    Outcome World := do
  let token ← call (world.token address)
  pure (world.storeToken address token)

/-- A call of the Set token that changes only its own storage. -/
def callSetToken (call : SetToken → Outcome SetToken) (world : World) : Outcome World := do
  let setToken ← call world.setToken
  pure { world with setToken := setToken }

/-! ### Checked transfers -/

/-- `ExplicitERC20.transferFrom`, called by a module that the sender has given an allowance: the
recipient must receive exactly the quantity. -/
def explicitTransferFrom (module token sender recipient : Address) (quantity : Nat)
    (world : World) : Outcome World :=
  if 0 < quantity then do
    let existingBalance := world.balanceOf token recipient
    let moved ← world.callToken token fun token =>
      token.transferFrom module sender recipient quantity
    let newBalance := moved.balanceOf token recipient
    let expected ← SafeMath.add existingBalance quantity
    require (newBalance = expected) "Invalid post transfer balance"
    pure moved
  else pure world

/-- `SetToken.invoke` with the call data of a transfer. -/
def invokeTransfer (module token recipient : Address) (quantity : Nat) (world : World) :
    Outcome World :=
  if 0 < quantity then do
    world.setToken.validatePrivileged ⟨world.controller, module⟩
    world.callToken token fun token => token.transfer world.setToken.address recipient quantity
  else pure world

/-- The Set must send exactly the quantity. -/
def strictInvokeTransfer (module token recipient : Address) (quantity : Nat) (world : World) :
    Outcome World :=
  if 0 < quantity then do
    let existingBalance := world.held token
    let moved ← world.invokeTransfer module token recipient quantity
    let newBalance := moved.held token
    let expected ← SafeMath.sub existingBalance quantity
    require (newBalance = expected) "Invalid post transfer balance"
    pure moved
  else pure world

/-! ### Positions from balances -/

/-- Without a balance there is no position. -/
def newPositionUnit (setTotalSupply componentPreviousBalance currentBalance positionUnit : Nat) :
    Outcome Nat :=
  if 0 < currentBalance then
    Position.calculateDefaultEditPositionUnit setTotalSupply componentPreviousBalance
      currentBalance positionUnit
  else pure 0

/-- Returns the balance, the unit before the edit and the new unit. -/
def calculateAndEditDefaultPosition (module component : Address)
    (setTotalSupply componentPreviousBalance : Nat) (world : World) :
    Outcome (World × Nat × Nat × Nat) := do
  let currentBalance := world.held component
  let realUnit ← world.setToken.getDefaultPositionRealUnit component
  let positionUnit ← SafeCast.toUint256 realUnit
  let newTokenUnit ← newPositionUnit setTotalSupply componentPreviousBalance currentBalance
    positionUnit
  let edited ← world.callSetToken
    (Position.editDefaultPosition ⟨world.controller, module⟩ component newTokenUnit)
  pure (edited, currentBalance, positionUnit, newTokenUnit)

/-! ### What token calls leave unchanged -/

section Frame

variable {world moved next : World}

/-- Two worlds that differ at most in balances and allowances: the time, the controller, the
supply of the Set and all its other storage agree. -/
structure OnlyBalances (world next : World) : Prop where
  timestamp : next.timestamp = world.timestamp
  controller : next.controller = world.controller
  setToken : ∃ balances allowances, next.setToken =
    { world.setToken with balanceOf := balances, allowance := allowances }

theorem OnlyBalances.refl (world : World) : OnlyBalances world world :=
  ⟨rfl, rfl, world.setToken.balanceOf, world.setToken.allowance, rfl⟩

theorem OnlyBalances.trans (first : OnlyBalances world moved) (second : OnlyBalances moved next) :
    OnlyBalances world next := by
  obtain ⟨balances, allowances, stored⟩ := second.setToken
  obtain ⟨_, _, before⟩ := first.setToken
  refine ⟨second.timestamp.trans first.timestamp, second.controller.trans first.controller,
    balances, allowances, ?_⟩
  rw [stored, before]

theorem OnlyBalances.address (only : OnlyBalances world next) :
    next.setToken.address = world.setToken.address := by
  obtain ⟨_, _, stored⟩ := only.setToken
  rw [stored]

theorem OnlyBalances.totalSupply (only : OnlyBalances world next) :
    next.setToken.totalSupply = world.setToken.totalSupply := by
  obtain ⟨_, _, stored⟩ := only.setToken
  rw [stored]

theorem OnlyBalances.samePositions (only : OnlyBalances world next) :
    SetToken.SamePositions world.setToken next.setToken := by
  obtain ⟨_, _, stored⟩ := only.setToken
  rw [stored]
  exact ⟨rfl, rfl, rfl⟩

theorem OnlyBalances.components (only : OnlyBalances world next) :
    next.setToken.components = world.setToken.components :=
  only.samePositions.components

theorem OnlyBalances.positionMultiplier (only : OnlyBalances world next) :
    next.setToken.positionMultiplier = world.setToken.positionMultiplier :=
  only.samePositions.positionMultiplier

theorem OnlyBalances.defaultRealUnit (only : OnlyBalances world next) (component : Address) :
    next.setToken.defaultRealUnit component = world.setToken.defaultRealUnit component :=
  only.samePositions.defaultRealUnit component

/-- Two worlds that agree on the time, the controller, and on who controls the Set: its
address, manager, locker and module states. -/
structure KeepsControl (world next : World) : Prop where
  timestamp : next.timestamp = world.timestamp
  controller : next.controller = world.controller
  address : next.setToken.address = world.setToken.address
  manager : next.setToken.manager = world.setToken.manager
  locker : next.setToken.locker = world.setToken.locker
  isLocked : next.setToken.isLocked = world.setToken.isLocked
  moduleStates : next.setToken.moduleStates = world.setToken.moduleStates

theorem KeepsControl.refl (world : World) : KeepsControl world world :=
  ⟨rfl, rfl, rfl, rfl, rfl, rfl, rfl⟩

theorem KeepsControl.trans (first : KeepsControl world moved)
    (second : KeepsControl moved next) : KeepsControl world next where
  timestamp := second.timestamp.trans first.timestamp
  controller := second.controller.trans first.controller
  address := second.address.trans first.address
  manager := second.manager.trans first.manager
  locker := second.locker.trans first.locker
  isLocked := second.isLocked.trans first.isLocked
  moduleStates := second.moduleStates.trans first.moduleStates

theorem OnlyBalances.keepsControl (only : OnlyBalances world next) : KeepsControl world next := by
  obtain ⟨timestamp, controller, _, _, stored⟩ := only
  refine ⟨timestamp, controller, ?_, ?_, ?_, ?_, ?_⟩ <;> rw [stored]

theorem keepsControl_storeToken (address : Address) (token : ERC20) :
    KeepsControl world (world.storeToken address token) := by
  unfold storeToken
  split <;> exact ⟨rfl, rfl, rfl, rfl, rfl, rfl, rfl⟩

theorem callToken_eq_ok {address : Address} {call : ERC20 → Outcome ERC20}
    (returned : world.callToken address call = .ok next) :
    ∃ token, call (world.token address) = .ok token ∧ next = world.storeToken address token := by
  simp only [callToken, bind_eq_ok, pure_eq_ok] at returned
  obtain ⟨token, called, rfl⟩ := returned
  exact ⟨token, called, rfl⟩

theorem callSetToken_eq_ok {call : SetToken → Outcome SetToken}
    (returned : world.callSetToken call = .ok next) :
    call world.setToken = .ok next.setToken ∧ next = { world with setToken := next.setToken } := by
  simp only [callSetToken, bind_eq_ok, pure_eq_ok] at returned
  obtain ⟨_, called, rfl⟩ := returned
  exact ⟨called, rfl⟩

/-- A module that initializes itself changes nothing of the Set but its state and the list. -/
theorem callSetToken_initializeModule_eq_ok {call : Call}
    (returned : world.callSetToken (SetToken.initializeModule call) = .ok next) :
    world.setToken.isLocked = false ∧ world.setToken.moduleStates call.sender = .pending ∧
      next = { world with setToken := { world.setToken with
        moduleStates := Function.update world.setToken.moduleStates call.sender .initialized
        modules := world.setToken.modules ++ [call.sender] } } := by
  obtain ⟨called, stored⟩ := callSetToken_eq_ok returned
  obtain ⟨unlocked, pending, written⟩ := SetToken.initializeModule_eq_ok called
  rw [written] at stored
  exact ⟨unlocked, pending, stored⟩

@[simp] theorem token_storeToken_self (address : Address) (token : ERC20) :
    (world.storeToken address token).token address = token := by
  unfold storeToken World.token
  split <;> simp_all

theorem address_storeToken (address : Address) (token : ERC20) :
    (world.storeToken address token).setToken.address = world.setToken.address := by
  unfold storeToken
  split <;> rfl

theorem token_storeToken_other {address other : Address} (token : ERC20)
    (different : other ≠ address) :
    (world.storeToken address token).token other = world.token other := by
  unfold World.token
  rw [address_storeToken]
  unfold storeToken
  split
  · rename_i self
    split <;> simp_all
  · split
    · rfl
    · exact Function.update_of_ne different _ _

/-- Storing a token with the same supply changes only balances and allowances. -/
theorem onlyBalances_storeToken (address : Address) (token : ERC20)
    (supply : token.totalSupply = (world.token address).totalSupply) :
    OnlyBalances world (world.storeToken address token) := by
  unfold storeToken
  split
  · rename_i self
    rw [World.token, if_pos self] at supply
    obtain ⟨supplied, balances, allowances⟩ := token
    subst supply
    exact ⟨rfl, rfl, balances, allowances, rfl⟩
  · exact ⟨rfl, rfl, world.setToken.balanceOf, world.setToken.allowance, rfl⟩

/-- A call of another token than the Set changes only balances. -/
theorem callToken_onlyBalances_of_ne {address : Address} {call : ERC20 → Outcome ERC20}
    (different : address ≠ world.setToken.address)
    (returned : world.callToken address call = .ok next) : OnlyBalances world next := by
  obtain ⟨_, _, rfl⟩ := callToken_eq_ok returned
  unfold storeToken
  rw [if_neg different]
  exact ⟨rfl, rfl, world.setToken.balanceOf, world.setToken.allowance, rfl⟩

theorem balanceOf_storeToken_self (address account : Address) (token : ERC20) :
    (world.storeToken address token).balanceOf address account = token.balanceOf account := by
  unfold World.balanceOf
  rw [token_storeToken_self]

theorem balanceOf_storeToken_other {address other : Address} (account : Address) (token : ERC20)
    (different : other ≠ address) :
    (world.storeToken address token).balanceOf other account = world.balanceOf other account := by
  unfold World.balanceOf
  rw [token_storeToken_other token different]

/-- What the Set holds after one token is replaced. -/
theorem held_storeToken (address : Address) (token : ERC20) :
    (world.storeToken address token).held =
      Function.update world.held address (token.balanceOf world.setToken.address) := by
  funext other
  unfold held
  rw [address_storeToken]
  by_cases same : other = address
  · subst same
    rw [balanceOf_storeToken_self, Function.update_self]
  · rw [balanceOf_storeToken_other _ _ same, Function.update_of_ne same]

/-- What is written to the Set's own storage leaves what it holds of the other tokens. -/
theorem held_of_tokens {component : Address} (other : component ≠ world.setToken.address)
    (address : next.setToken.address = world.setToken.address)
    (tokens : next.tokens = world.tokens) : next.held component = world.held component := by
  unfold held balanceOf token
  rw [address, tokens, if_neg other, if_neg other]

/-- Another balance of the Set in one token. -/
def setHeld (token : Address) (balance : Nat) (world : World) : World :=
  world.storeToken token { world.token token with
    balanceOf := Function.update (world.token token).balanceOf world.setToken.address balance }

theorem onlyBalances_setHeld (token : Address) (balance : Nat) :
    OnlyBalances world (world.setHeld token balance) :=
  onlyBalances_storeToken token _ rfl

theorem held_setHeld (token : Address) (balance : Nat) :
    (world.setHeld token balance).held = Function.update world.held token balance := by
  refine (held_storeToken token _).trans (congrArg (Function.update world.held token) ?_)
  exact Function.update_self _ _ _

end Frame

/-! ### What the Set holds after a transfer -/

section Transfers

variable {world next : World} {module token sender recipient : Address} {quantity : Nat}

/-- A quantity that arrives at the Set is added to what it holds, and nothing else of what it
holds changes. -/
theorem explicitTransferFrom_eq_ok
    (returned : world.explicitTransferFrom module token sender world.setToken.address quantity =
      .ok next) :
    OnlyBalances world next ∧
      next.held = Function.update world.held token (world.held token + quantity) := by
  unfold explicitTransferFrom at returned
  split at returned
  · simp only [callToken, bind_eq_ok, pure_eq_ok, SafeMath.add_eq_ok, require_eq_ok,
      exists_const] at returned
    obtain ⟨_, ⟨moved, called, rfl⟩, _, ⟨_, rfl⟩, received, rfl⟩ := returned
    obtain ⟨_, supply, _⟩ := ERC20.transferFrom_eq_ok called
    refine ⟨onlyBalances_storeToken _ _ supply, ?_⟩
    rw [balanceOf_storeToken_self] at received
    rw [held_storeToken, received]
    rfl
  · rename_i zero
    obtain rfl := (pure_eq_ok _ _).mp returned
    rw [Nat.eq_zero_of_not_pos zero, Nat.add_zero, Function.update_eq_self]
    exact ⟨OnlyBalances.refl _, rfl⟩

/-- A quantity that leaves the Set was held by it and is subtracted from what it holds, and
nothing else of what it holds changes. -/
theorem strictInvokeTransfer_eq_ok
    (returned : world.strictInvokeTransfer module token recipient quantity = .ok next) :
    OnlyBalances world next ∧ quantity ≤ world.held token ∧
      next.held = Function.update world.held token (world.held token - quantity) := by
  unfold strictInvokeTransfer invokeTransfer at returned
  split at returned
  · simp only [callToken, bind_eq_ok, pure_eq_ok, SafeMath.sub_eq_ok, require_eq_ok,
      exists_const] at returned
    obtain ⟨_, ⟨_, _, moved, called, rfl⟩, _, ⟨enough, rfl⟩, sent, rfl⟩ := returned
    obtain ⟨_, stored⟩ := ERC20.move_eq_ok called
    refine ⟨onlyBalances_storeToken _ _ (by rw [stored]), enough, ?_⟩
    rw [held_storeToken, Function.update_self] at sent
    rw [held_storeToken, sent]
  · rename_i zero
    obtain rfl := (pure_eq_ok _ _).mp returned
    rw [Nat.eq_zero_of_not_pos zero, Nat.sub_zero, Function.update_eq_self]
    exact ⟨OnlyBalances.refl _, Nat.zero_le _, rfl⟩

/-- A token that another account moves takes nothing from what the Set holds, and the Set is
credited what it receives. -/
theorem callToken_move_eq_ok (other : sender ≠ world.setToken.address)
    (returned : world.callToken token (fun token => token.move sender recipient quantity) =
      .ok next) :
    OnlyBalances world next ∧ (∀ token, world.held token ≤ next.held token) ∧
      (recipient = world.setToken.address → next.held token = world.held token + quantity) := by
  obtain ⟨moved, called, rfl⟩ := callToken_eq_ok returned
  obtain ⟨_, rfl⟩ := ERC20.move_eq_ok called
  refine ⟨onlyBalances_storeToken _ _ rfl, fun held => ?_, ?_⟩
  · rw [held_storeToken]
    by_cases same : held = token
    · subst same
      rw [Function.update_self]
      exact ERC20.le_movedBalance _ _ _ _ (Ne.symm other)
    · rw [Function.update_of_ne same]
  · rintro rfl
    rw [held_storeToken, Function.update_self]
    exact ERC20.movedBalance_recipient _ _ _ (Ne.symm other)

/-- A checked transfer that another account pays for takes nothing from the Set. -/
theorem explicitTransferFrom_other (other : sender ≠ world.setToken.address)
    (returned : world.explicitTransferFrom module token sender recipient quantity = .ok next) :
    OnlyBalances world next ∧ ∀ token, world.held token ≤ next.held token := by
  unfold explicitTransferFrom at returned
  split at returned
  · simp only [bind_eq_ok, pure_eq_ok] at returned
    obtain ⟨_, moved, _, _, _, _, rfl⟩ := returned
    obtain ⟨_, called, rfl⟩ := callToken_eq_ok moved
    obtain ⟨_, supply, balances⟩ := ERC20.transferFrom_eq_ok called
    refine ⟨onlyBalances_storeToken _ _ supply, fun held => ?_⟩
    rw [held_storeToken, balances]
    by_cases same : held = token
    · subst same
      rw [Function.update_self]
      exact ERC20.le_movedBalance _ _ _ _ (Ne.symm other)
    · rw [Function.update_of_ne same]
  · obtain rfl := (pure_eq_ok _ _).mp returned
    exact ⟨OnlyBalances.refl _, fun _ => le_rfl⟩

/-- Minting the Set lowers nothing that the Set holds. -/
theorem held_le_of_mint {call : Call} {minted : SetToken}
    (returned : world.setToken.mint call recipient quantity = .ok minted) (token : Address) :
    world.held token ≤ ({ world with setToken := minted } : World).held token := by
  obtain ⟨_, rfl⟩ := SetToken.mint_eq_ok returned
  unfold World.held World.balanceOf World.token
  by_cases self : token = world.setToken.address
  · simp only [if_pos self]
    exact ERC20.le_credited _ _ _ _
  · simp only [if_neg self, le_refl]

/-- Burning the Set of another account changes nothing that the Set holds. -/
theorem held_of_burn {call : Call} {burned : SetToken}
    (other : sender ≠ world.setToken.address)
    (returned : world.setToken.burn call sender quantity = .ok burned) (token : Address) :
    ({ world with setToken := burned } : World).held token = world.held token := by
  obtain ⟨_, _, rfl⟩ := SetToken.burn_eq_ok returned
  unfold World.held World.balanceOf World.token
  by_cases self : token = world.setToken.address
  · simp only [if_pos self]
    exact Function.update_of_ne other.symm _ _
  · simp only [if_neg self]

end Transfers

/-! ### What a position edit from balances stores -/

section Edits

variable {world next : World} {module component : Address}
  {supply before balance unit newUnit : Nat}

/-- Only the Set token is written, by an edit of the default position to the new unit. -/
theorem calculateAndEditDefaultPosition_eq_ok
    (returned : world.calculateAndEditDefaultPosition module component supply before =
      .ok (next, balance, unit, newUnit)) :
    world.setToken.defaultRealUnit component = unit ∧
    Position.editDefaultPosition ⟨world.controller, module⟩ component newUnit world.setToken =
      .ok next.setToken ∧
    next = { world with setToken := next.setToken } ∧ balance = world.held component ∧
    (0 < world.held component → Position.calculateDefaultEditPositionUnit supply before
      (world.held component) unit = .ok newUnit) ∧
    (world.held component = 0 → newUnit = 0) := by
  simp only [calculateAndEditDefaultPosition, bind_eq_ok, SafeCast.toUint256_eq_ok,
    SetToken.getDefaultPositionRealUnit_eq_ok, callSetToken, pure_eq_ok, Prod.mk.injEq] at returned
  obtain ⟨_, ⟨_, rfl⟩, _, read, _, computed, _, ⟨_, edited, rfl⟩, rfl, rfl, rfl, rfl⟩ := returned
  refine ⟨read, edited, rfl, rfl, fun positive => ?_, fun zero => ?_⟩
  · unfold newPositionUnit at computed
    rwa [if_pos positive] at computed
  · unfold newPositionUnit at computed
    rw [zero, if_neg (lt_irrefl 0), pure_eq_ok] at computed
    exact computed.symm

/-- The unit stored covers at most the balance without the untracked surplus there was
before. -/
theorem calculateAndEditDefaultPosition_unit (positive : 0 < world.setToken.positionMultiplier)
    (returned : world.calculateAndEditDefaultPosition module component supply before =
      .ok (next, balance, unit, newUnit)) :
    ∃ stored : Nat, next.setToken.defaultRealUnit component = stored ∧
      stored * supply ≤
        (world.held component - (before - Rounding.mulFloor preciseUnit unit supply)) *
          preciseUnit := by
  obtain ⟨_, edited, _, _, computed, empty⟩ := calculateAndEditDefaultPosition_eq_ok returned
  obtain ⟨_, nonneg, atMost, _⟩ := Position.editDefaultPosition_unit positive edited
  obtain ⟨stored, read⟩ := Int.eq_ofNat_of_zero_le nonneg
  refine ⟨stored, read, ?_⟩
  have bounded : stored ≤ newUnit := by
    rw [read] at atMost
    exact_mod_cast atMost
  rcases Nat.eq_zero_or_pos (world.held component) with zero | some
  · rw [empty zero] at bounded
    rw [Nat.le_zero.mp bounded, zero_mul]
    exact Nat.zero_le _
  · obtain ⟨_, _, _, rfl⟩ := Position.calculateDefaultEditPositionUnit_eq_ok (computed some)
    exact (Nat.mul_le_mul_right supply bounded).trans (Nat.div_mul_le_self _ _)

/-- The edit stores components and positions, and nothing else. -/
theorem calculateAndEditDefaultPosition_stored
    (returned : world.calculateAndEditDefaultPosition module component supply before =
      .ok (next, balance, unit, newUnit)) :
    ∃ components positions, next = { world with
      setToken := { world.setToken with
        components := components
        componentPositions := positions } } := by
  obtain ⟨_, edited, stored, _⟩ := calculateAndEditDefaultPosition_eq_ok returned
  obtain ⟨_, _, _, _, _, _, _, written⟩ := Position.editDefaultPosition_eq_ok edited
  rw [written] at stored
  exact ⟨_, _, stored⟩

theorem calculateAndEditDefaultPosition_virtualUnit {other : Address}
    (positive : 0 < world.setToken.positionMultiplier)
    (returned : world.calculateAndEditDefaultPosition module component supply before =
      .ok (next, balance, unit, newUnit)) (different : other ≠ component) :
    next.setToken.defaultPositionVirtualUnit other =
      world.setToken.defaultPositionVirtualUnit other := by
  obtain ⟨_, edited, _⟩ := calculateAndEditDefaultPosition_eq_ok returned
  obtain ⟨_, _, _, others⟩ := Position.editDefaultPosition_unit positive edited
  unfold SetToken.defaultPositionVirtualUnit
  rw [others other different]

/-- The other components stay listed as they were, and their positions do not change. -/
theorem calculateAndEditDefaultPosition_frame (positive : 0 < world.setToken.positionMultiplier)
    (returned : world.calculateAndEditDefaultPosition module component supply before =
      .ok (next, balance, unit, newUnit)) :
    (world.setToken.components.Nodup → next.setToken.components.Nodup) ∧
    ∀ other, other ≠ component →
      (other ∈ next.setToken.components ↔ other ∈ world.setToken.components) ∧
      next.setToken.defaultRealUnit other = world.setToken.defaultRealUnit other := by
  obtain ⟨_, edited, _⟩ := calculateAndEditDefaultPosition_eq_ok returned
  obtain ⟨⟨_, _, written⟩, _⟩ := Position.editDefaultPosition_unit positive edited
  obtain ⟨_, _, _, _, tracked, _, _, rewritten⟩ := Position.editDefaultPosition_eq_ok edited
  obtain ⟨nodup, members⟩ := Position.trackDefaultPosition_components tracked
  have listed : next.setToken.components = _ := congrArg SetToken.components rewritten
  refine ⟨fun distinct => listed ▸ nodup distinct, fun other different =>
    ⟨listed ▸ members other different, ?_⟩⟩
  have multiplier : next.setToken.positionMultiplier = world.setToken.positionMultiplier := by
    rw [written]
  unfold SetToken.defaultRealUnit SetToken.realUnit
  rw [calculateAndEditDefaultPosition_virtualUnit positive returned different, multiplier]

theorem calculateAndEditDefaultPosition_held
    (returned : world.calculateAndEditDefaultPosition module component supply before =
      .ok (next, balance, unit, newUnit)) : next.held = world.held := by
  obtain ⟨_, _, rfl⟩ := calculateAndEditDefaultPosition_stored returned
  rfl

theorem calculateAndEditDefaultPosition_totalSupply
    (returned : world.calculateAndEditDefaultPosition module component supply before =
      .ok (next, balance, unit, newUnit)) :
    next.setToken.totalSupply = world.setToken.totalSupply := by
  obtain ⟨_, _, rfl⟩ := calculateAndEditDefaultPosition_stored returned
  rfl

theorem calculateAndEditDefaultPosition_positionMultiplier
    (returned : world.calculateAndEditDefaultPosition module component supply before =
      .ok (next, balance, unit, newUnit)) :
    next.setToken.positionMultiplier = world.setToken.positionMultiplier := by
  obtain ⟨_, _, rfl⟩ := calculateAndEditDefaultPosition_stored returned
  rfl

theorem calculateAndEditDefaultPosition_keepsControl
    (returned : world.calculateAndEditDefaultPosition module component supply before =
      .ok (next, balance, unit, newUnit)) : KeepsControl world next := by
  obtain ⟨_, _, rfl⟩ := calculateAndEditDefaultPosition_stored returned
  exact ⟨rfl, rfl, rfl, rfl, rfl, rfl, rfl⟩

end Edits

end World

end IndexProtocol

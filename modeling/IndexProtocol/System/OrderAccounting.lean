/-
This file proves that issuing and redeeming cannot be profitable. Every order on
fixed units charges at least and returns at most its exact share of the equity,
and pays out at most and collects at least its exact share of the debt. The
bounds are linear in the quantity, so they add up over any sequence of orders.
-/

import IndexProtocol.Modules.DebtIssuanceCalls

namespace IndexProtocol

open Revert

/-! ### Totals over a trace -/

/-- The sum of a measure over the events of a trace. -/
def total (measure : Event → Nat) (events : List Event) : Nat := (events.map measure).sum

/-- The quantity of an issuance or redemption order. -/
def Event.ordersOf (isIssue : Bool) : Event → Nat
  | .ordered order => if order.isIssue = isIssue then order.quantity else 0
  | _ => 0

/-- The quantity of a transfer of the component in one of the four passes. -/
def Event.transfersOf (isIssue isEquity : Bool) (component : Address) : Event → Nat
  | .transferred transfer =>
    if transfer.isIssue = isIssue ∧ transfer.isEquity = isEquity ∧ transfer.component = component
    then transfer.quantity else 0
  | _ => 0

/-- The orders of a trace. -/
def orders (events : List Event) : List Order :=
  events.filterMap fun event =>
    match event with
    | .ordered order => some order
    | _ => none

section Totals

variable (measure : Event → Nat)

@[simp] theorem total_nil : total measure [] = 0 := rfl

@[simp] theorem total_cons (event : Event) (rest : List Event) :
    total measure (event :: rest) = measure event + total measure rest :=
  List.sum_cons

@[simp] theorem total_append (first second : List Event) :
    total measure (first ++ second) = total measure first + total measure second := by
  unfold total
  rw [List.map_append, List.sum_append]

theorem total_flatMap {Item : Type} (items : List Item) (emit : Item → List Event) :
    total measure (items.flatMap emit) = (items.map fun item => total measure (emit item)).sum := by
  induction items with
  | nil => rfl
  | cons item rest inductionHypothesis =>
    rw [List.flatMap_cons, total_append, inductionHypothesis, List.map_cons, List.sum_cons]

theorem total_eq_zero {events : List Event} (silent : ∀ event ∈ events, measure event = 0) :
    total measure events = 0 := by
  refine List.sum_eq_zero fun value member => ?_
  obtain ⟨event, listed, rfl⟩ := List.mem_map.mp member
  exact silent event listed

end Totals

/-! ### The totals of one order -/

namespace DebtIssuanceModule

variable {Ledger : Type}

/-- The units of one component among the units of an order. -/
def componentUnits (component : Address) (units : ComponentValues) : ComponentValues :=
  units.filter fun unit => unit.1 = component

section OneOrder

variable {deployment : Deployment Ledger} {isIssue isEquity : Bool} {quantity : Nat}
  {setToken : SetToken}

theorem operated_of_hookEvents {component : Address} {event : Event}
    (member : event ∈ hookEvents deployment isIssue isEquity quantity setToken component) :
    ∃ operation, event = .operated operation := by
  obtain ⟨_, _, responded⟩ := List.mem_flatMap.mp member
  obtain ⟨operation, _, rfl⟩ := List.mem_map.mp responded
  exact ⟨operation, rfl⟩

/-- The events of one component in a pass transfer its quantity and nothing else. -/
theorem transfersOf_positionEvents (component other : Address) (componentQuantity : Nat)
    (wantIssue wantEquity : Bool) :
    total (Event.transfersOf wantIssue wantEquity component)
      (positionEvents deployment isIssue isEquity quantity setToken other componentQuantity) =
      if isIssue = wantIssue ∧ isEquity = wantEquity ∧ other = component then componentQuantity
      else 0 := by
  have hooks : total (Event.transfersOf wantIssue wantEquity component)
      (hookEvents deployment isIssue isEquity quantity setToken other) = 0 := by
    refine total_eq_zero _ fun event member => ?_
    obtain ⟨_, rfl⟩ := operated_of_hookEvents member
    rfl
  unfold positionEvents
  rcases Nat.eq_zero_or_pos componentQuantity with rfl | positive
  · rw [if_neg (lt_irrefl 0), ite_self]
    rfl
  · rw [if_pos positive]
    split
    · rw [total_cons, hooks, Nat.add_zero]
      rfl
    · rw [total_append, hooks, total_cons, total_nil, Nat.zero_add, Nat.add_zero]
      rfl

/-- A pass transfers of a component the quantities of its units, in this pass only. -/
theorem transfersOf_passEvents (component : Address) (wantIssue wantEquity : Bool) :
    total (Event.transfersOf wantIssue wantEquity component)
      (passEvents deployment isIssue isEquity quantity setToken) =
      if isIssue = wantIssue ∧ isEquity = wantEquity then
        ((componentUnits component (orderUnits setToken)).map
          (passQuantity isIssue isEquity quantity)).sum
      else 0 := by
  unfold passEvents componentUnits
  rw [total_flatMap]
  induction orderUnits setToken with
  | nil => simp
  | cons unit rest inductionHypothesis =>
    rw [List.map_cons, List.sum_cons, inductionHypothesis, transfersOf_positionEvents,
      List.filter_cons]
    by_cases same : isIssue = wantIssue ∧ isEquity = wantEquity
    · rw [if_pos same, if_pos same]
      by_cases here : unit.1 = component
      · simp [same, here]
      · simp [here]
    · rw [if_neg same, if_neg same, if_neg fun all => same ⟨all.1, all.2.1⟩]

theorem transfersOf_resolutionEvents (component : Address) (wantIssue wantEquity : Bool) :
    total (Event.transfersOf wantIssue wantEquity component)
      (resolutionEvents deployment isIssue quantity setToken) =
      if isIssue = wantIssue then
        ((componentUnits component (orderUnits setToken)).map
          (passQuantity isIssue wantEquity quantity)).sum
      else 0 := by
  unfold resolutionEvents
  rw [total_append, transfersOf_passEvents, transfersOf_passEvents]
  cases isIssue <;> cases wantIssue <;> cases wantEquity <;> simp

/-- Of a component that is listed once an order transfers its own quantity. -/
theorem componentTransfers_resolutionEvents {component : Address}
    (computed : ∃ units, getTotalIssuanceUnits setToken = .ok units)
    (components : setToken.components.Nodup) (member : component ∈ setToken.components) :
    total (Event.transfersOf isIssue isEquity component)
      (resolutionEvents deployment isIssue quantity setToken) =
      passQuantity isIssue isEquity quantity
        (component, equityUnit setToken component, debtUnit setToken component) := by
  obtain ⟨units, computed⟩ := computed
  rw [transfersOf_resolutionEvents, if_pos rfl, orderUnits_eq computed,
    getTotalIssuanceUnits_eq_ok computed, componentUnits, List.filter_map]
  have single : setToken.components.filter
      ((fun unit : Address × Nat × Nat => decide (unit.1 = component)) ∘ fun component =>
        (component, equityUnit setToken component, debtUnit setToken component)) =
      [component] := by
    have same : setToken.components.filter (· = component) = _ := List.filter_eq component
    rw [List.count_eq_one_of_mem components member] at same
    exact same
  rw [single, List.map_singleton, List.map_singleton, List.sum_singleton]

theorem silent_resolutionEvents {event : Event}
    (member : event ∈ resolutionEvents deployment isIssue quantity setToken) :
    (∃ operation, event = .operated operation) ∨ ∃ transfer, event = .transferred transfer := by
  have inPass : ∃ isEquity, event ∈ passEvents deployment isIssue isEquity quantity setToken :=
    (List.mem_append.mp member).elim (fun first => ⟨_, first⟩) fun second => ⟨_, second⟩
  obtain ⟨isEquity, listed⟩ := inPass
  obtain ⟨unit, _, emitted⟩ := List.mem_flatMap.mp listed
  unfold positionEvents at emitted
  split at emitted
  · split at emitted
    · rcases List.mem_cons.mp emitted with rfl | hooked
      · exact Or.inr ⟨_, rfl⟩
      · exact Or.inl (operated_of_hookEvents hooked)
    · rcases List.mem_append.mp emitted with hooked | last
      · exact Or.inl (operated_of_hookEvents hooked)
      · exact Or.inr ⟨_, List.mem_singleton.mp last⟩
  · exact absurd emitted List.not_mem_nil

theorem ordersOf_resolutionEvents (wantIssue : Bool) :
    total (Event.ordersOf wantIssue) (resolutionEvents deployment isIssue quantity setToken) =
      0 := by
  refine total_eq_zero _ fun event member => ?_
  rcases silent_resolutionEvents member with ⟨_, rfl⟩ | ⟨_, rfl⟩ <;> rfl

/-- Neither the order nor the mints of a trace count as operations or transfers. -/
theorem total_traced {module : DebtIssuanceModule} {events : List Event}
    (traced : Traced module deployment isIssue quantity setToken events)
    (measure : Event → Nat) (orders : ∀ order, measure (.ordered order) = 0)
    (mints : ∀ recipient minted, measure (.minted recipient minted) = 0) :
    total measure events = total measure (resolutionEvents deployment isIssue
      (module.resolvedQuantity isIssue quantity) setToken) := by
  obtain ⟨_, _, units, minted, rfl⟩ := traced
  rw [total_append, total_cons, orders, Nat.zero_add, Nat.add_eq_left]
  refine total_eq_zero _ fun event member => ?_
  obtain ⟨mint, _, rfl⟩ := List.mem_map.mp member
  exact mints mint.1 mint.2

end OneOrder

/-! ### The account of a component -/

/-- The equity units of a component, summed over its entries. -/
def equityOf (component : Address) (units : ComponentValues) : Nat :=
  ((componentUnits component units).map fun unit => unit.2.1).sum

/-- The debt units of a component, summed over its entries. -/
def debtOf (component : Address) (units : ComponentValues) : Nat :=
  ((componentUnits component units).map fun unit => unit.2.2).sum

/-- What the orders of a trace on fixed units have moved of a component, against its exact
shares of the quantities issued and redeemed. -/
structure Accounted (units : ComponentValues) (component : Address) (events : List Event) :
    Prop where
  charged : equityOf component units * total (Event.ordersOf true) events ≤
    total (Event.transfersOf true true component) events * preciseUnit
  returned : total (Event.transfersOf false true component) events * preciseUnit ≤
    equityOf component units * total (Event.ordersOf false) events
  paidOut : total (Event.transfersOf true false component) events * preciseUnit ≤
    debtOf component units * total (Event.ordersOf true) events
  collected : debtOf component units * total (Event.ordersOf false) events ≤
    total (Event.transfersOf false false component) events * preciseUnit

section Accounts

variable {units : ComponentValues} {component : Address} {events : List Event}

theorem Accounted.nil : Accounted units component [] := by
  constructor <;> simp

/-- Events that neither order nor transfer leave the account as it is. -/
theorem Accounted.append_silent (accounted : Accounted units component events)
    {added : List Event}
    (silent : ∀ event ∈ added, (∀ isIssue, event.ordersOf isIssue = 0) ∧
      ∀ isIssue isEquity, event.transfersOf isIssue isEquity component = 0) :
    Accounted units component (events ++ added) := by
  have noOrders : ∀ isIssue, total (Event.ordersOf isIssue) added = 0 := fun isIssue =>
    total_eq_zero _ fun event member => (silent event member).1 isIssue
  have noTransfers : ∀ isIssue isEquity,
      total (Event.transfersOf isIssue isEquity component) added = 0 := fun isIssue isEquity =>
    total_eq_zero _ fun event member => (silent event member).2 isIssue isEquity
  constructor <;> simp only [total_append, noOrders, noTransfers, Nat.add_zero]
  · exact accounted.charged
  · exact accounted.returned
  · exact accounted.paidOut
  · exact accounted.collected

theorem orderQuantities_bounds (component : Address) (units : ComponentValues)
    (quantity : Nat) :
    equityOf component units * quantity ≤
      ((componentUnits component units).map (passQuantity true true quantity)).sum *
        preciseUnit ∧
    ((componentUnits component units).map (passQuantity false true quantity)).sum *
        preciseUnit ≤ equityOf component units * quantity ∧
    ((componentUnits component units).map (passQuantity true false quantity)).sum *
        preciseUnit ≤ debtOf component units * quantity ∧
    debtOf component units * quantity ≤
      ((componentUnits component units).map (passQuantity false false quantity)).sum *
        preciseUnit := by
  have equityUp := Rounding.le_sum_mulCeil_mul preciseUnit quantity preciseUnit_pos
    ((componentUnits component units).map fun unit => unit.2.1)
  have equityDown := Rounding.sum_mulFloor_mul_le preciseUnit quantity
    ((componentUnits component units).map fun unit => unit.2.1)
  have debtUp := Rounding.le_sum_mulCeil_mul preciseUnit quantity preciseUnit_pos
    ((componentUnits component units).map fun unit => unit.2.2)
  have debtDown := Rounding.sum_mulFloor_mul_le preciseUnit quantity
    ((componentUnits component units).map fun unit => unit.2.2)
  simp only [List.map_map, Function.comp_def] at equityUp equityDown debtUp debtDown
  unfold equityOf debtOf passQuantity equityQuantity LeverageHooks.notionalDebt
  simp only [if_true, Bool.false_eq_true, if_false]
  exact ⟨equityUp, equityDown, debtDown, debtUp⟩

/-- An order on the units adds to the account what the bounds of one order allow. -/
theorem Accounted.append_order {Ledger : Type} {deployment : Deployment Ledger} {isIssue : Bool}
    {quantity : Nat} {setToken : SetToken} (accounted : Accounted units component events)
    (fixed : orderUnits setToken = units) :
    Accounted units component (events ++ .ordered ⟨isIssue, quantity, orderUnits setToken⟩ ::
      resolutionEvents deployment isIssue quantity setToken) := by
  obtain ⟨equityUp, equityDown, debtDown, debtUp⟩ :=
    orderQuantities_bounds component units quantity
  obtain ⟨charged, returned, paidOut, collected⟩ := accounted
  constructor <;>
    simp only [total_append, total_cons, transfersOf_resolutionEvents,
      ordersOf_resolutionEvents, fixed, Event.ordersOf, Event.transfersOf] <;>
    cases isIssue <;> simp [Nat.mul_add, Nat.add_mul] <;> omega

end Accounts

end DebtIssuanceModule

/-! ### Runs of orders -/

/-- An order of any account at any issuance module, with the contracts around it as the call
finds them, or any other change of the world between orders. -/
inductive OrderAction (Ledger : Type)
  | issue (module : DebtIssuanceModule) (deployment : Deployment Ledger) (msgSender : Address)
      (quantity : Nat) (recipient : Address)
  | redeem (module : DebtIssuanceModule) (deployment : Deployment Ledger) (msgSender : Address)
      (quantity : Nat) (recipient : Address)
  | other (change : World → Ledger → Outcome (World × Ledger))

namespace OrderAction

variable {Ledger : Type}

def act (execution : Execution Ledger) : OrderAction Ledger → Outcome (Execution Ledger)
  | .issue module deployment msgSender quantity recipient =>
    module.issue deployment msgSender quantity recipient execution
  | .redeem module deployment msgSender quantity recipient =>
    module.redeem deployment msgSender quantity recipient execution
  | .other change => do
    let (world, ledger) ← change execution.world execution.ledger
    pure { execution with world := world, ledger := ledger }

/-- The manager charges no fee, of which the protocol's would be a share. -/
def Feeless : OrderAction Ledger → Prop
  | .issue module _ _ _ _ => module.managerIssueFee = 0
  | .redeem module _ _ _ _ => module.managerRedeemFee = 0
  | .other _ => True

open DebtIssuanceModule

variable {units : ComponentValues} {component : Address} {execution next : Execution Ledger}

/-- Minting leaves the account of a component as it is. -/
theorem accounted_mints {mints : List (Address × Nat)} {before after : Execution Ledger}
    (accounted : Accounted units component before.events) (minted : Mints mints before after) :
    Accounted units component after.events := by
  rw [minted.trace]
  refine accounted.append_silent fun event member => ?_
  obtain ⟨_, _, rfl⟩ := List.mem_map.mp member
  exact ⟨fun _ => rfl, fun _ _ => rfl⟩

theorem orders_mints {mints : List (Address × Nat)} {before after : Execution Ledger}
    (minted : Mints mints before after) : orders after.events = orders before.events := by
  rw [minted.trace, orders, List.filterMap_append]
  have none : (mints.map fun mint => Event.minted mint.1 mint.2).filterMap
      (fun event => match event with
        | .ordered order => some order
        | _ => none) = [] := by
    refine List.filterMap_eq_nil_iff.mpr fun event member => ?_
    obtain ⟨_, _, rfl⟩ := List.mem_map.mp member
    rfl
  rw [none, List.append_nil]
  rfl

/-- An order with its fees at zero keeps the account of every component, as long as all
orders are on the same units. -/
theorem accounted_order {isIssue : Bool} {quantity : Nat} {deployment : Deployment Ledger}
    {before resolved after : Execution Ledger} {mints : List (Address × Nat)}
    (kept : (∀ order ∈ orders before.events, order.units = units) →
      Accounted units component before.events)
    (emitted : Execution.Emits (.ordered ⟨isIssue, quantity, orderUnits before.world.setToken⟩ ::
      resolutionEvents deployment isIssue quantity before.world.setToken) before resolved)
    (minted : Mints mints resolved after)
    (unchanged : ∀ order ∈ orders after.events, order.units = units) :
    Accounted units component after.events := by
  refine accounted_mints ?_ minted
  rw [orders_mints minted, emitted.trace, orders, List.filterMap_append] at unchanged
  rw [emitted.trace]
  refine (kept fun order member => ?_).append_order ?_
  · exact unchanged order (List.mem_append_left _ member)
  · exact unchanged _ (List.mem_append_right _ List.mem_cons_self)

/-- Every action keeps the account of every component, as long as all orders are on the same
units. -/
theorem accounted_step (action : OrderAction Ledger) (feeless : action.Feeless)
    (kept : (∀ order ∈ orders execution.events, order.units = units) →
      Accounted units component execution.events)
    (returned : act execution action = .ok next)
    (unchanged : ∀ order ∈ orders next.events, order.units = units) :
    Accounted units component next.events := by
  cases action with
  | issue module deployment msgSender quantity recipient =>
    simp only [act, DebtIssuanceModule.issue, bind_eq_ok] at returned
    obtain ⟨prepared, preparing, completing⟩ := returned
    have before := (prepareIssue_eq_ok preparing).2.trace
    obtain ⟨fees, resolved, charged, _, emitted, minted⟩ := completeIssue_eq_ok completing
    rw [calculateTotalFees_feeless (by rw [if_pos rfl]; exact feeless) charged] at emitted
    exact accounted_order (before ▸ kept) emitted minted unchanged
  | redeem module deployment msgSender quantity recipient =>
    simp only [act, DebtIssuanceModule.redeem, bind_eq_ok] at returned
    obtain ⟨prepared, preparing, completing⟩ := returned
    have before := (prepareRedeem_eq_ok preparing).2.trace
    obtain ⟨burned, fees, resolved, ⟨_, _, stored⟩, charged, _, emitted, minted⟩ :=
      completeRedeem_eq_ok completing
    have same : burned.events = execution.events := by rw [stored, before]
    rw [calculateTotalFees_feeless (by rw [if_neg (by simp)]; exact feeless) charged] at emitted
    exact accounted_order (same ▸ kept) emitted minted unchanged
  | other change =>
    simp only [act, bind_eq_ok, pure_eq_ok, Prod.exists] at returned
    obtain ⟨_, _, _, rfl⟩ := returned
    exact kept unchanged

end OrderAction

/-! ### A sample Set with debt -/

/-- The quantity of a token is paid to the Set. -/
def samplePaid (token : Address) (quantity : Nat) (world : World) : Outcome World :=
  pure (world.setHeld token (world.held token + quantity))

/-- The quantity of a token is taken from the Set. -/
def sampleTaken (token : Address) (quantity : Nat) (world : World) : Outcome World :=
  if quantity ≤ world.held token then pure (world.setHeld token (world.held token - quantity))
  else .error "ERC20: transfer amount exceeds balance"

/-- A market of Compound for token 3 at address 32, a pool of Aave and wrapped ether anywhere
else. -/
def sampleCall (invocation : Invocation) (world : World) : Outcome World :=
  match invocation.callData with
  | .borrow quantity => if invocation.target = 32 then samplePaid 3 quantity world else pure world
  | .repayBorrow quantity =>
    if invocation.target = 32 then sampleTaken 3 quantity world else pure world
  | .deposit => samplePaid invocation.target invocation.value world
  | .withdraw quantity => sampleTaken invocation.target quantity world
  | .borrowAsset asset quantity _ _ _ => samplePaid asset quantity world
  | .repayAsset asset quantity _ _ => sampleTaken asset quantity world
  | _ => pure world

/-- Lending protocols that move what they are asked for and always answer with zero. -/
def sampleExecute (invocation : Invocation) (world : World) (ledger : Unit) :
    Outcome (Nat × World × Unit) := do
  require (invocation.target ≠ 0) "Address: call to non-contract"
  let called ← sampleCall invocation world
  pure (0, called, ledger)

theorem samplePaid_eq_ok {token : Address} {quantity : Nat} {world next : World}
    (returned : samplePaid token quantity world = .ok next) :
    World.OnlyBalances world next ∧
      next.held = Function.update world.held token (world.held token + quantity) := by
  obtain rfl := (pure_eq_ok _ _).mp returned
  exact ⟨World.onlyBalances_setHeld _ _, World.held_setHeld _ _⟩

theorem sampleTaken_eq_ok {token : Address} {quantity : Nat} {world next : World}
    (returned : sampleTaken token quantity world = .ok next) :
    World.OnlyBalances world next ∧ quantity ≤ world.held token ∧
      next.held = Function.update world.held token (world.held token - quantity) := by
  unfold sampleTaken at returned
  split at returned
  · rename_i enough
    obtain rfl := (pure_eq_ok _ _).mp returned
    exact ⟨World.onlyBalances_setHeld _ _, enough, World.held_setHeld _ _⟩
  · exact absurd returned (by simp)

/-- The market for token 3 lends it; the other contracts lend the token they are called for. -/
theorem sampleCall_onlyBalances {invocation : Invocation} {world next : World}
    (returned : sampleCall invocation world = .ok next) : World.OnlyBalances world next := by
  unfold sampleCall at returned
  split at returned
  case h_1 | h_2 =>
    split at returned
    · first
      | exact (samplePaid_eq_ok returned).1
      | exact (sampleTaken_eq_ok returned).1
    · exact (pure_eq_ok _ _).mp returned ▸ World.OnlyBalances.refl _
  case h_3 | h_5 => exact (samplePaid_eq_ok returned).1
  case h_4 | h_6 => exact (sampleTaken_eq_ok returned).1
  case h_7 => exact (pure_eq_ok _ _).mp returned ▸ World.OnlyBalances.refl _

theorem sampleExecute_onlyBalances (invocation : Invocation) (world : World) (ledger : Unit)
    (word : Nat) (next : World) (nextLedger : Unit)
    (returned : sampleExecute invocation world ledger = .ok (word, next, nextLedger)) :
    World.OnlyBalances world next := by
  simp only [sampleExecute, bind_eq_ok, pure_eq_ok, Prod.mk.injEq] at returned
  obtain ⟨_, _, _, called, _, rfl, _⟩ := returned
  exact sampleCall_onlyBalances called

/-- A Compound module with markets for token 3 and for ether. -/
def sampleMarkets : CompoundLeverageModule where
  address := 21
  cEther := 30
  weth := 31
  underlyingToCToken := fun token => if token = 3 then 32 else if token = 31 then 30 else 0
  collateralCTokens := []
  borrowCTokens := []
  borrowAssets := []

/-- Compound is used at address 21 and Aave at addresses 22 and 23. -/
def sampleHookModule (address : Address) : Option HookModule :=
  if address = 21 then some (.compound sampleMarkets)
  else if address = 22 ∨ address = 23 then
    some (.aave
      { address, lendingPool := 33, underlyingToReserveTokens := fun _ => ⟨34, 35⟩
        collateralAssets := [], borrowAssets := [] })
  else none

def sampleDeployment : Deployment Unit where
  protocols :=
    { execute := sampleExecute
      onlyBalances := sampleExecute_onlyBalances
      borrowBalanceStored := fun _ _ _ => 0
      borrowBalanceCurrent := fun _ _ ledger => .ok (0, ledger) }
  adapters :=
    { getIntegrationAdapter := fun _ _ => 40
      stakingAdapter := fun _ => ⟨fun _ => 41, fun _ _ => (42, 0, []), fun _ _ => (42, 0, [])⟩ }
  hookModule := sampleHookModule
  hookModule_address := by
    intro address hook found
    unfold sampleHookModule at found
    split at found
    · rename_i same
      obtain rfl := Option.some.inj found
      exact same.symm
    · split at found
      · obtain rfl := Option.some.inj found
        rfl
      · exact absurd found (by simp)
  invokePreIssueHook := fun _ _ _ _ world ledger => .ok (world, ledger)
  preIssueHook_bookkeeping := by
    intro _ _ _ _ world ledger next nextLedger returned kept
    rw [Except.ok.injEq, Prod.mk.injEq] at returned
    exact returned.1 ▸ kept

/-- An issuance module with the given fee on issuance and redemption, half of it the
manager's. -/
def sampleIssuance (fee : Nat) : DebtIssuanceModule where
  address := 20
  maxManagerFee := 10 ^ 17
  managerIssueFee := fee
  managerRedeemFee := fee
  feeRecipient := 8
  managerIssuanceHook := 0
  moduleIssuanceHooks := []
  isModuleHook := fun _ => false

/-- A Set of supply one with a default unit of token 3 and the given units of the modules at
the given addresses; account 7 holds the Set and every token. -/
def sampleExecution (defaultUnit : Int) (external : List (Address × Int)) (feeSplit : Nat) :
    Execution Unit where
  world :=
    { timestamp := 1000
      controller :=
        { isInitialized := true, sets := [2], isSet := fun account => account = 2,
          isFactory := fun _ => false, isModule := fun account => 20 ≤ account ∧ account ≤ 23,
          fees := fun _ _ => feeSplit, feeRecipient := 9 }
      setToken :=
        { SetToken.construct 2 [3] [10 ^ 18] [20, 21, 22, 23] 5 with
          totalSupply := 10 ^ 18
          balanceOf := fun account => if account = 7 then 10 ^ 18 else 0
          moduleStates := fun account =>
            if 20 ≤ account ∧ account ≤ 23 then .initialized else .none
          componentPositions := fun component =>
            if component = 3 then
              { virtualUnit := defaultUnit
                externalPositionModules := external.map Prod.fst
                externalPositions := fun module =>
                  ⟨((external.lookup module).getD 0), []⟩ }
            else ⟨0, [], fun _ => ⟨0, []⟩⟩ }
      tokens := fun _ =>
        { totalSupply := 10 ^ 30
          balanceOf := fun account => if account = 2 ∨ account = 7 then 10 ^ 25 else 0
          allowance := fun owner _ => if owner = 7 then 10 ^ 25 else 0 } }
  ledger := ()
  events := []

/-- Issue the quantity and redeem it again. -/
def sampleOrders (quantity : Nat) : List (OrderAction Unit) :=
  [.issue (sampleIssuance 0) sampleDeployment 7 quantity 7,
    .redeem (sampleIssuance 0) sampleDeployment 7 quantity 7]

end IndexProtocol

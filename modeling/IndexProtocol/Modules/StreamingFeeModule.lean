/-
This file models the module that accrues a streaming fee by inflating the supply
of a Set and lowering its position multiplier in the same proportion, up to the
rounding of each.
-/

import IndexProtocol.Protocol.ModuleBase

namespace IndexProtocol

open Revert PreciseUnitMath

structure FeeState where
  feeRecipient : Address
  maxStreamingFeePercentage : Nat
  streamingFeePercentage : Nat
  lastStreamingFeeTimestamp : Nat

/-- The module's storage for one Set. -/
structure StreamingFeeModule where
  address : Address
  feeStates : FeeState

namespace StreamingFeeModule

/-- 365.25 days. -/
def oneYearInSeconds : Nat := 31557600

def protocolStreamingFeeIndex : Nat := 0

def calculateStreamingFee (module : StreamingFeeModule) (world : World) : Outcome Nat := do
  let timeSinceLastFee ←
    SafeMath.sub world.timestamp module.feeStates.lastStreamingFeeTimestamp
  let product ← SafeMath.mul timeSinceLastFee module.feeStates.streamingFeePercentage
  SafeMath.div product oneYearInSeconds

def calculateStreamingFeeInflation (feePercentage : Nat) (world : World) : Outcome Nat := do
  let a ← SafeMath.mul feePercentage world.setToken.totalSupply
  let b ← SafeMath.sub preciseUnit feePercentage
  SafeMath.div a b

def mintProtocolFee (module : StreamingFeeModule) (protocolFeeRecipient : Address)
    (protocolFeeAmount : Nat) (world : World) : Outcome World :=
  if 0 < protocolFeeAmount then
    world.callSetToken
      (SetToken.mint ⟨world.controller, module.address⟩ protocolFeeRecipient protocolFeeAmount)
  else pure world

/-- Returns the fees of the manager and of the protocol. -/
def mintManagerAndProtocolFee (module : StreamingFeeModule) (feeQuantity : Nat)
    (world : World) : Outcome (World × Nat × Nat) := do
  let protocolFeeRecipient := world.controller.feeRecipient
  let protocolFee := world.controller.getModuleFee module.address protocolStreamingFeeIndex
  let protocolFeeAmount ← preciseMul feeQuantity protocolFee
  let managerFeeAmount ← SafeMath.sub feeQuantity protocolFeeAmount
  let minted ← world.callSetToken
    (SetToken.mint ⟨world.controller, module.address⟩ module.feeStates.feeRecipient
      managerFeeAmount)
  let shared ← module.mintProtocolFee protocolFeeRecipient protocolFeeAmount minted
  pure (shared, managerFeeAmount, protocolFeeAmount)

def editPositionMultiplier (module : StreamingFeeModule) (inflationFee : Nat) (world : World) :
    Outcome World := do
  let kept ← SafeMath.sub preciseUnit inflationFee
  let factor ← SafeCast.toInt256 kept
  let newMultiplier ← preciseMulInt world.setToken.positionMultiplier factor
  world.callSetToken
    (SetToken.editPositionMultiplier ⟨world.controller, module.address⟩ newMultiplier)

/-- The inflation of the supply and of the multiplier that one accrual makes. -/
def inflate (module : StreamingFeeModule) (world : World) : Outcome World :=
  if 0 < module.feeStates.streamingFeePercentage then do
    let inflationFeePercentage ← module.calculateStreamingFee world
    let feeQuantity ← calculateStreamingFeeInflation inflationFeePercentage world
    let (minted, _) ← module.mintManagerAndProtocolFee feeQuantity world
    module.editPositionMultiplier inflationFeePercentage minted
  else pure world

def accrueFee (module : StreamingFeeModule) (world : World) :
    Outcome (StreamingFeeModule × World) := do
  ModuleBase.validateOnlyValidAndInitializedSet module.address world
  let inflated ← module.inflate world
  pure ({ module with
    feeStates := { module.feeStates with lastStreamingFeeTimestamp := world.timestamp } }, inflated)

/-- The module's `initialize`, called by the manager. -/
def initializeSet (module : StreamingFeeModule) (msgSender : Address) (settings : FeeState)
    (world : World) : Outcome (StreamingFeeModule × World) := do
  ModuleBase.validateOnlySetManager msgSender world
  ModuleBase.validateOnlyValidAndPendingSet module.address world
  require (settings.feeRecipient ≠ 0) "Fee Recipient must be non-zero address."
  require (settings.maxStreamingFeePercentage < preciseUnit) "Max fee must be < 100%."
  require (settings.streamingFeePercentage ≤ settings.maxStreamingFeePercentage)
    "Fee must be <= max."
  let initialized ← world.callSetToken
    (SetToken.initializeModule ⟨world.controller, module.address⟩)
  pure ({ module with
    feeStates := { settings with lastStreamingFeeTimestamp := world.timestamp } }, initialized)

def deployed (address : Address) : StreamingFeeModule where
  address := address
  feeStates :=
    { feeRecipient := 0, maxStreamingFeePercentage := 0, streamingFeePercentage := 0,
      lastStreamingFeeTimestamp := 0 }

def removeModule (module : StreamingFeeModule) : StreamingFeeModule :=
  { module with
    feeStates :=
      { feeRecipient := 0, maxStreamingFeePercentage := 0, streamingFeePercentage := 0,
        lastStreamingFeeTimestamp := 0 } }

def updateStreamingFee (module : StreamingFeeModule) (msgSender : Address) (newFee : Nat)
    (world : World) : Outcome (StreamingFeeModule × World) := do
  ModuleBase.validateOnlySetManager msgSender world
  ModuleBase.validateOnlyValidAndInitializedSet module.address world
  require (newFee < module.feeStates.maxStreamingFeePercentage) "Fee must be less than max"
  let (accrued, inflated) ← module.accrueFee world
  pure ({ accrued with
    feeStates := { accrued.feeStates with streamingFeePercentage := newFee } }, inflated)

def updateFeeRecipient (module : StreamingFeeModule) (msgSender newFeeRecipient : Address)
    (world : World) : Outcome StreamingFeeModule := do
  ModuleBase.validateOnlySetManager msgSender world
  ModuleBase.validateOnlyValidAndInitializedSet module.address world
  require (newFeeRecipient ≠ 0) "Fee Recipient must be non-zero address."
  pure { module with feeStates := { module.feeStates with feeRecipient := newFeeRecipient } }

/-! ### What an accrual changes -/

section Effects

variable {module next : StreamingFeeModule} {world after : World} {msgSender : Address}

/-- The fee for the time since the last accrual. -/
def accruedFee (module : StreamingFeeModule) (timestamp : Nat) : Nat :=
  (timestamp - module.feeStates.lastStreamingFeeTimestamp) *
    module.feeStates.streamingFeePercentage / oneYearInSeconds

/-- The quantity of the Set that a fee mints. -/
def feeInflation (feePercentage totalSupply : Nat) : Nat :=
  feePercentage * totalSupply / (preciseUnit - feePercentage)

/-- The position multiplier after a fee. -/
def inflatedMultiplier (feePercentage : Nat) (positionMultiplier : Int) : Int :=
  (positionMultiplier * ((preciseUnit - feePercentage : Nat) : Int)).tdiv preciseUnit

theorem inflatedMultiplier_eq {fee : Nat} {multiplier : Int} (nonneg : 0 ≤ multiplier) :
    inflatedMultiplier fee multiplier =
      multiplier * ((preciseUnit - fee : Nat) : Int) / preciseUnit :=
  Int.tdiv_eq_ediv_of_nonneg (mul_nonneg nonneg (Int.natCast_nonneg _))

/-- The balances after a fee is shared between the manager's and the protocol's recipient. -/
def feeBalances (module : StreamingFeeModule) (quantity : Nat) (world : World) :
    Address → Nat :=
  let share := Rounding.mulFloor preciseUnit quantity
    (world.controller.getModuleFee module.address protocolStreamingFeeIndex)
  let balances := Function.update world.setToken.balanceOf module.feeStates.feeRecipient
    (world.setToken.balanceOf module.feeStates.feeRecipient + (quantity - share))
  Function.update balances world.controller.feeRecipient
    (balances world.controller.feeRecipient + share)

theorem feeBalances_zero : module.feeBalances 0 world = world.setToken.balanceOf := by
  simp only [feeBalances, Rounding.mulFloor, Nat.zero_mul, Nat.zero_div, Nat.sub_zero,
    Nat.add_zero, Function.update_eq_self]

theorem mintProtocolFee_eq_ok {recipient : Address} {amount : Nat}
    (returned : module.mintProtocolFee recipient amount world = .ok after) :
    after = { world with
      setToken := { world.setToken with
        totalSupply := world.setToken.totalSupply + amount
        balanceOf := Function.update world.setToken.balanceOf recipient
          (world.setToken.balanceOf recipient + amount) } } := by
  unfold mintProtocolFee at returned
  split at returned
  · obtain ⟨called, stored⟩ := World.callSetToken_eq_ok returned
    rw [(SetToken.mint_eq_ok called).2] at stored
    exact stored
  · rename_i zero
    obtain rfl := (pure_eq_ok _ _).mp returned
    rw [Nat.eq_zero_of_not_pos zero, Nat.add_zero, Nat.add_zero, Function.update_eq_self]

/-- Whatever the split between manager and protocol, the whole quantity is minted. -/
theorem mintManagerAndProtocolFee_eq_ok {quantity : Nat} {fees : Nat × Nat}
    (returned : module.mintManagerAndProtocolFee quantity world = .ok (after, fees)) :
    after = { world with
      setToken := { world.setToken with
        totalSupply := world.setToken.totalSupply + quantity
        balanceOf := module.feeBalances quantity world } } := by
  simp only [mintManagerAndProtocolFee, bind_eq_ok, SafeMath.sub_eq_ok, preciseMul_eq_ok,
    pure_eq_ok, Prod.mk.injEq] at returned
  obtain ⟨_, ⟨_, rfl⟩, _, ⟨share, rfl⟩, minted, minting, _, sharing, rfl, _⟩ := returned
  obtain ⟨called, stored⟩ := World.callSetToken_eq_ok minting
  rw [(SetToken.mint_eq_ok called).2] at stored
  have shared := mintProtocolFee_eq_ok sharing
  rw [stored] at shared
  rw [shared]
  simp only [feeBalances, Nat.add_assoc, Nat.sub_add_cancel share]

/-- An accrual with a fee mints the inflation and then lowers the multiplier. -/
theorem inflate_of_active (active : 0 < module.feeStates.streamingFeePercentage)
    (returned : module.inflate world = .ok after) :
    module.feeStates.lastStreamingFeeTimestamp ≤ world.timestamp ∧
    module.accruedFee world.timestamp < preciseUnit ∧
    SetToken.editPositionMultiplier ⟨world.controller, module.address⟩
      (inflatedMultiplier (module.accruedFee world.timestamp)
        world.setToken.positionMultiplier)
      { world.setToken with
        totalSupply := world.setToken.totalSupply +
          feeInflation (module.accruedFee world.timestamp) world.setToken.totalSupply
        balanceOf := module.feeBalances
          (feeInflation (module.accruedFee world.timestamp) world.setToken.totalSupply)
          world } = .ok after.setToken ∧
    after = { world with setToken := after.setToken } := by
  unfold inflate at returned
  rw [if_pos active] at returned
  simp only [calculateStreamingFee, calculateStreamingFeeInflation, editPositionMultiplier,
    preciseMulInt, bind_eq_ok, SafeMath.sub_eq_ok, SafeMath.mul_eq_ok, SafeMath.div_eq_ok,
    SafeCast.toInt256_eq_ok, SignedSafeMath.mul_eq_ok, SignedSafeMath.div_eq_ok, Prod.exists]
    at returned
  obtain ⟨_, ⟨_, ⟨ordered, rfl⟩, _, ⟨_, rfl⟩, _, rfl⟩, _, ⟨_, ⟨_, rfl⟩, _, ⟨_, rfl⟩, below, rfl⟩,
    minted, _, _, minting, _, ⟨_, rfl⟩, _, ⟨_, rfl⟩, _, ⟨_, ⟨_, rfl⟩, _, _, rfl⟩, editing⟩ :=
    returned
  have stored := mintManagerAndProtocolFee_eq_ok minting
  obtain ⟨edited, written⟩ := World.callSetToken_eq_ok editing
  rw [stored] at edited written
  exact ⟨ordered, Nat.lt_of_sub_pos below, edited, written⟩

/-- Without a fee nothing accrues. -/
theorem accruedFee_of_inactive (inactive : module.feeStates.streamingFeePercentage = 0)
    (timestamp : Nat) : module.accruedFee timestamp = 0 := by
  rw [accruedFee, inactive, Nat.mul_zero, Nat.zero_div]

/-- An accrual, with a fee or without, changes the supply, the balances of the recipients and
the multiplier by the accrued fee. -/
theorem inflate_eq_ok (returned : module.inflate world = .ok after) :
    module.accruedFee world.timestamp < preciseUnit ∧
    after = { world with
      setToken := { world.setToken with
        totalSupply := world.setToken.totalSupply +
          feeInflation (module.accruedFee world.timestamp) world.setToken.totalSupply
        balanceOf := module.feeBalances
          (feeInflation (module.accruedFee world.timestamp) world.setToken.totalSupply) world
        positionMultiplier := inflatedMultiplier (module.accruedFee world.timestamp)
          world.setToken.positionMultiplier } } := by
  by_cases active : 0 < module.feeStates.streamingFeePercentage
  · obtain ⟨_, below, edited, stored⟩ := inflate_of_active active returned
    rw [(SetToken.editPositionMultiplier_eq_ok edited).2.2] at stored
    exact ⟨below, stored⟩
  · unfold inflate at returned
    rw [if_neg active, pure_eq_ok] at returned
    rw [accruedFee_of_inactive (Nat.eq_zero_of_not_pos active), ← returned]
    refine ⟨preciseUnit_pos, ?_⟩
    have whole : inflatedMultiplier 0 world.setToken.positionMultiplier =
        world.setToken.positionMultiplier :=
      Int.mul_tdiv_cancel _ preciseUnit_int_pos.ne'
    simp only [feeInflation, Nat.zero_mul, Nat.zero_div, Nat.add_zero, feeBalances_zero, whole]

theorem inflate_keepsControl (returned : module.inflate world = .ok after) :
    World.KeepsControl world after := by
  rw [(inflate_eq_ok returned).2]
  exact ⟨rfl, rfl, rfl, rfl, rfl, rfl, rfl⟩

theorem accrueFee_eq_ok (returned : module.accrueFee world = .ok (next, after)) :
    next = { module with
      feeStates := { module.feeStates with lastStreamingFeeTimestamp := world.timestamp } } ∧
    world.setToken.moduleStates module.address = .initialized ∧
    module.inflate world = .ok after := by
  simp only [accrueFee, bind_eq_ok, ModuleBase.validateOnlyValidAndInitializedSet_eq_ok,
    exists_const, pure_eq_ok, Prod.mk.injEq] at returned
  obtain ⟨⟨_, initialized⟩, _, inflated, rfl, rfl⟩ := returned
  exact ⟨rfl, initialized, inflated⟩

theorem updateStreamingFee_eq_ok {newFee : Nat}
    (returned : module.updateStreamingFee msgSender newFee world = .ok (next, after)) :
    (next = { module with
      feeStates := { module.feeStates with
        streamingFeePercentage := newFee
        lastStreamingFeeTimestamp := world.timestamp } }) ∧
    newFee < module.feeStates.maxStreamingFeePercentage ∧ module.inflate world = .ok after := by
  simp only [updateStreamingFee, bind_eq_ok, require_eq_ok, exists_const, pure_eq_ok, Prod.exists,
    Prod.mk.injEq] at returned
  obtain ⟨_, _, _, _, bounded, _, _, accrued, rfl, rfl⟩ := returned
  obtain ⟨rfl, _, inflated⟩ := accrueFee_eq_ok accrued
  exact ⟨rfl, bounded, inflated⟩

/-- Adding the module to a Set changes nothing of the Set but the module's state. -/
theorem initializeSet_eq_ok {settings : FeeState}
    (returned : module.initializeSet msgSender settings world = .ok (next, after)) :
    world.setToken.moduleStates module.address = .pending ∧ next.address = module.address ∧
      ∃ modules, after = { world with setToken := { world.setToken with
        moduleStates := Function.update world.setToken.moduleStates module.address .initialized
        modules := modules } } := by
  simp only [initializeSet, bind_eq_ok, require_eq_ok, exists_const, pure_eq_ok,
    Prod.mk.injEq] at returned
  obtain ⟨_, _, _, _, _, _, _, _, initialized, rfl, rfl⟩ := returned
  obtain ⟨_, pending, stored⟩ := World.callSetToken_initializeModule_eq_ok initialized
  exact ⟨pending, rfl, _, stored⟩

end Effects

end StreamingFeeModule

end IndexProtocol

/-
This file proves what the ceiling of the streaming fee promises the holders of a
Set. The initialization fixes it; until the module is removed, whatever the
manager sets the fee to and whenever anybody accrues it, what the position
multiplier loses stays below the ceiling's share for the time that has passed:
accruals before and after a change of the fee add up to no more than one at the
ceiling, but for the rounding of each, which costs no more than the fee itself.
-/

import IndexProtocol.Modules.StreamingFeeModule
import IndexProtocol.Protocol.ModuleLifecycle
import IndexProtocol.Protocol.PositionBookkeeping
import IndexProtocol.Protocol.SetTokenCreator

namespace IndexProtocol

open Revert PreciseUnitMath

namespace StreamingFeeModule

inductive FeeCall
  | initializeSet (settings : FeeState)
  | accrueFee
  | updateStreamingFee (newFee : Nat)
  | updateFeeRecipient (newFeeRecipient : Address)

def feeCode (address : Address) : ModuleCode StreamingFeeModule FeeCall where
  address := address
  call := fun msgSender call module world =>
    match call with
    | .initializeSet settings => module.initializeSet msgSender settings world
    | .accrueFee => module.accrueFee world
    | .updateStreamingFee newFee => module.updateStreamingFee msgSender newFee world
    | .updateFeeRecipient newFeeRecipient => do
      let updated ← module.updateFeeRecipient msgSender newFeeRecipient world
      pure (updated, world)
  removeModule := fun module => pure module.removeModule

/-- The storage of a module that is part of the Set. -/
structure Settled (address : Address) (module : StreamingFeeModule) : Prop where
  address : module.address = address
  fee : module.feeStates.streamingFeePercentage ≤ module.feeStates.maxStreamingFeePercentage
  max : module.feeStates.maxStreamingFeePercentage < preciseUnit
  feeRecipient : module.feeStates.feeRecipient ≠ 0

def SameCeiling (module next : StreamingFeeModule) : Prop :=
  next.feeStates.maxStreamingFeePercentage = module.feeStates.maxStreamingFeePercentage

variable {address msgSender : Address} {module next : StreamingFeeModule} {world after : World}

/-- An accrual of an active module, at which the fee for the next period is set. -/
structure Accrued (module next : StreamingFeeModule) (world after : World) : Prop where
  active : world.setToken.moduleStates module.address = .initialized
  inflated : module.inflate world = .ok after
  last : next.feeStates.lastStreamingFeeTimestamp = world.timestamp
  settled : ∀ {address}, Settled address module → Settled address next
  max : SameCeiling module next

/-- A call initializes the module, accrues its fee, or changes the fee recipient. -/
inductive FeeEffect (address : Address) (module next : StreamingFeeModule) (world after : World) :
    Prop
  | initialized (pending : world.setToken.moduleStates module.address = .pending)
      (active : after.setToken.moduleStates module.address = .initialized)
      (settled : module.address = address → Settled address next)
      (time : after.timestamp = world.timestamp)
      (last : next.feeStates.lastStreamingFeeTimestamp = world.timestamp)
  | accrued (accrual : Accrued module next world after)
  | redirected (active : world.setToken.moduleStates module.address = .initialized)
      (same : after = world) (settled : Settled address module → Settled address next)
      (max : SameCeiling module next)
      (last : next.feeStates.lastStreamingFeeTimestamp =
        module.feeStates.lastStreamingFeeTimestamp)

theorem accrueFee_accrued (returned : module.accrueFee world = .ok (next, after)) :
    Accrued module next world after := by
  obtain ⟨rfl, active, inflated⟩ := accrueFee_eq_ok returned
  exact ⟨active, inflated, rfl,
    fun settled => ⟨settled.address, settled.fee, settled.max, settled.feeRecipient⟩, rfl⟩

theorem updateStreamingFee_accrued {newFee : Nat}
    (returned : module.updateStreamingFee msgSender newFee world = .ok (next, after)) :
    Accrued module next world after := by
  have valid := returned
  obtain ⟨rfl, below, inflated⟩ := updateStreamingFee_eq_ok returned
  simp only [updateStreamingFee, bind_eq_ok, exists_const,
    ModuleBase.validateOnlyValidAndInitializedSet_eq_ok] at valid
  obtain ⟨_, _, ⟨_, active⟩, _⟩ := valid
  exact ⟨active, inflated, rfl,
    fun settled => ⟨settled.address, below.le, settled.max, settled.feeRecipient⟩, rfl⟩

theorem feeCode_call {call : FeeCall}
    (returned : (feeCode address).call msgSender call module world = .ok (next, after)) :
    FeeEffect address module next world after := by
  cases call with
  | initializeSet settings =>
    have called : module.initializeSet msgSender settings world = .ok (next, after) := returned
    obtain ⟨pending, same, _, stored⟩ := initializeSet_eq_ok called
    simp only [initializeSet, bind_eq_ok, require_eq_ok, exists_const, pure_eq_ok,
      Prod.mk.injEq] at called
    obtain ⟨_, _, _, _, some, max, fee, _, _, rfl, rfl⟩ := called
    refine .initialized pending ?_ (fun own => ⟨own, fee, max, some⟩) ?_ rfl
    · rw [stored]
      exact Function.update_self _ _ _
    · rw [stored]
  | accrueFee => exact .accrued (accrueFee_accrued returned)
  | updateStreamingFee newFee => exact .accrued (updateStreamingFee_accrued returned)
  | updateFeeRecipient newFeeRecipient =>
    simp only [feeCode, updateFeeRecipient, bind_eq_ok, require_eq_ok, exists_const, pure_eq_ok,
      ModuleBase.validateOnlyValidAndInitializedSet_eq_ok, Prod.mk.injEq] at returned
    obtain ⟨_, ⟨_, _, ⟨_, active⟩, some, rfl⟩, rfl, rfl⟩ := returned
    exact .redirected active rfl
      (fun settled => ⟨settled.address, settled.fee, settled.max, some⟩) rfl rfl

theorem Accrued.keepsControl (accrual : Accrued module next world after) :
    World.KeepsControl world after :=
  inflate_keepsControl accrual.inflated

/-- The module keeps its storage settled, and the ceiling until it is removed. -/
theorem feeCode_orderly (address : Address) :
    (feeCode address).Orderly (Settled address) (fun module => module = deployed address)
      SameCeiling where
  edits := by
    intro msgSender call module world next after active settled returned
    cases feeCode_call returned with
    | initialized pending =>
      rw [settled.address] at pending
      exact absurd (active.symm.trans pending) (by decide)
    | accrued accrual =>
      refine ⟨?_, accrual.settled settled, accrual.max⟩
      exact (congrFun accrual.keepsControl.moduleStates address).trans active
    | redirected _ same keeps max => exact ⟨same ▸ active, keeps settled, max⟩
  initializes := by
    intro msgSender call module world next after inactive blank returned
    subst blank
    cases feeCode_call returned with
    | initialized _ active settled => exact ⟨active, settled rfl⟩
    | accrued accrual => exact absurd accrual.active inactive
    | redirected active => exact absurd active inactive
  removes := by
    intro module next settled returned
    obtain rfl := (pure_eq_ok _ _).mp returned
    unfold removeModule deployed
    rw [settled.address]

/-! ### What the holders lose -/

/-- The fee for the time since the last accrual of a state at the ceiling. -/
def ceilingFee (module : StreamingFeeModule) (timestamp : Nat) : Nat :=
  (timestamp - module.feeStates.lastStreamingFeeTimestamp) *
    module.feeStates.maxStreamingFeePercentage / oneYearInSeconds

/-- Since a state, the ceiling is the same, and the multiplier has lost at most the ceiling's share
and as much again by rounding. -/
structure Drained (start reached : Installation StreamingFeeModule) : Prop where
  max : SameCeiling start.storage reached.storage
  ordered : start.storage.feeStates.lastStreamingFeeTimestamp ≤
    reached.storage.feeStates.lastStreamingFeeTimestamp
  recent : reached.storage.feeStates.lastStreamingFeeTimestamp ≤ reached.world.timestamp
  nonneg : 0 ≤ reached.world.setToken.positionMultiplier
  bound : start.world.setToken.positionMultiplier * (preciseUnit - start.storage.ceilingFee
      reached.storage.feeStates.lastStreamingFeeTimestamp) ≤
    (reached.world.setToken.positionMultiplier + start.storage.ceilingFee
      reached.storage.feeStates.lastStreamingFeeTimestamp) * preciseUnit

theorem Drained.refl {start : Installation StreamingFeeModule}
    (recent : start.storage.feeStates.lastStreamingFeeTimestamp ≤ start.world.timestamp)
    (nonneg : 0 ≤ start.world.setToken.positionMultiplier) : Drained start start := by
  refine ⟨rfl, le_rfl, recent, nonneg, ?_⟩
  simp [ceilingFee]

/-- A step that leaves the multiplier and the time of the last accrual. -/
theorem Drained.carry {start reached next : Installation StreamingFeeModule}
    (drained : Drained start reached)
    (max : SameCeiling reached.storage next.storage)
    (last : next.storage.feeStates.lastStreamingFeeTimestamp =
      reached.storage.feeStates.lastStreamingFeeTimestamp)
    (time : reached.world.timestamp ≤ next.world.timestamp)
    (multiplier : next.world.setToken.positionMultiplier =
      reached.world.setToken.positionMultiplier) : Drained start next where
  max := max.trans drained.max
  ordered := last ▸ drained.ordered
  recent := last ▸ drained.recent.trans time
  nonneg := multiplier ▸ drained.nonneg
  bound := by
    rw [last, multiplier]
    exact drained.bound

/-- The fees of the periods before and after the last accrual come to at most the ceiling's fee
for both. -/
theorem Drained.accruedFee_le {start reached : Installation StreamingFeeModule}
    (drained : Drained start reached)
    (below : reached.storage.feeStates.streamingFeePercentage ≤
      reached.storage.feeStates.maxStreamingFeePercentage) :
    start.storage.ceilingFee reached.storage.feeStates.lastStreamingFeeTimestamp +
        reached.storage.accruedFee reached.world.timestamp ≤
      start.storage.ceilingFee reached.world.timestamp := by
  have ordered := drained.ordered
  have recent := drained.recent
  rw [drained.max] at below
  refine (Nat.add_le_add_left (Nat.div_le_div_right (Nat.mul_le_mul_left _ below)) _).trans ?_
  refine Nat.div_add_div_le_add_div.trans (Nat.div_le_div_right ?_)
  rw [← Nat.add_mul]
  exact Nat.mul_le_mul_right _ (by omega)

/-- An accrual drains the multiplier by no more than the ceiling's share for its period. -/
theorem Drained.accrue {start reached next : Installation StreamingFeeModule}
    (drained : Drained start reached)
    (startNonneg : 0 ≤ start.world.setToken.positionMultiplier)
    (below : reached.storage.feeStates.streamingFeePercentage ≤
      reached.storage.feeStates.maxStreamingFeePercentage)
    (accrual : Accrued reached.storage next.storage reached.world next.world) :
    Drained start next := by
  obtain ⟨rate, stored⟩ := inflate_eq_ok accrual.inflated
  have multiplier : next.world.setToken.positionMultiplier =
      reached.world.setToken.positionMultiplier *
        (preciseUnit - (reached.storage.accruedFee reached.world.timestamp : Int)) /
          preciseUnit := by
    rw [stored, ← Nat.cast_sub rate.le]
    exact inflatedMultiplier_eq drained.nonneg
  have time : next.world.timestamp = reached.world.timestamp := by rw [stored]
  have remains : (0 : Int) ≤
      preciseUnit - (reached.storage.accruedFee reached.world.timestamp : Int) :=
    sub_nonneg.mpr (Int.ofNat_le.mpr rate.le)
  refine ⟨accrual.max.trans drained.max, ?_, ?_, ?_, ?_⟩
  · rw [accrual.last]
    exact drained.ordered.trans drained.recent
  · rw [accrual.last, time]
  · rw [multiplier]
    exact Int.ediv_nonneg (mul_nonneg drained.nonneg remains) preciseUnit_int_pos.le
  · rw [accrual.last]
    have compounded := Rounding.drained_le preciseUnit_int_pos startNonneg
      (Int.natCast_nonneg _) (Int.natCast_nonneg _) (sub_nonneg.mp remains) drained.bound
      (Rounding.drain_le preciseUnit_int_pos
        (Int.natCast_nonneg (reached.storage.accruedFee reached.world.timestamp)))
    rw [← multiplier] at compounded
    have total := Int.ofNat_le.mpr (drained.accruedFee_le below)
    push_cast at total
    -- A higher rate lowers the left side and raises the right one.
    refine (mul_le_mul_of_nonneg_left ?_ startNonneg).trans (compounded.trans
      (mul_le_mul_of_nonneg_right ?_ preciseUnit_int_pos.le))
    · linarith
    · linarith

/-- Nobody removes the module, and nothing else than the fee changes the multiplier. -/
def LeavesMultiplier (installation : Installation StreamingFeeModule) :
    Address × LifecycleStep FeeCall → Prop
  | (_, .removeModule) => False
  | (_, .elsewhere world) => world.setToken.positionMultiplier =
      installation.world.setToken.positionMultiplier
  | _ => True

/-- No step puts the last accrual into the future. -/
theorem operate_recent {installation next : Installation StreamingFeeModule}
    (recent : installation.storage.feeStates.lastStreamingFeeTimestamp ≤
      installation.world.timestamp)
    (step : Address × LifecycleStep FeeCall)
    (returned : (feeCode address).operate installation step = .ok next) :
    next.storage.feeStates.lastStreamingFeeTimestamp ≤ next.world.timestamp := by
  cases ModuleCode.operate_effect returned with
  | call called =>
    cases feeCode_call called with
    | initialized _ _ _ time last => exact (last.trans time.symm).le
    | accrued accrual => exact (accrual.last.trans accrual.keepsControl.timestamp.symm).le
    | redirected _ same _ _ last => exact last.trans_le (same ▸ recent)
  | addModule _ _ timestamp => exact recent.trans_eq timestamp.symm
  | removePendingModule _ _ timestamp => exact recent.trans_eq timestamp.symm
  | removeModule _ removed =>
    obtain rfl := (pure_eq_ok _ _).mp removed
    exact Nat.zero_le _
  | elsewhere time => exact recent.trans time

/-- A step of an active module that leaves the multiplier to it. -/
theorem Drained.operate {start reached next : Installation StreamingFeeModule}
    (drained : Drained start reached)
    (startNonneg : 0 ≤ start.world.setToken.positionMultiplier)
    (settled : Settled address reached.storage)
    (active : (feeCode address).Active reached.world)
    (step : Address × LifecycleStep FeeCall) (leaves : LeavesMultiplier reached step)
    (returned : (feeCode address).operate reached step = .ok next) : Drained start next := by
  cases ModuleCode.operate_effect returned with
  | call called =>
    cases feeCode_call called with
    | initialized pending =>
      rw [settled.address] at pending
      exact absurd (active.symm.trans pending) (by decide)
    | accrued accrual => exact drained.accrue startNonneg settled.fee accrual
    | redirected _ same _ max last =>
      subst same
      exact drained.carry max last le_rfl rfl
  | addModule before => exact absurd (active.symm.trans before) (by decide)
  | removePendingModule before => exact absurd (active.symm.trans before) (by decide)
  | removeModule => exact leaves.elim
  | elsewhere time => exact drained.carry rfl rfl time leaves

/-- From the deployment of the module on, while it is part of the Set and until it is removed,
the ceiling of the fee stays as it is and the fee below it. Whatever the manager sets the fee to
and whenever it is accrued, as long as nothing else changes the position multiplier, the
multiplier loses at most the ceiling's share for the time up to the last accrual, and as much of
its base units again by rounding. -/
theorem holders_keep_terms (address : Address) (world : World)
    (absent : ¬(feeCode address).Active world)
    (earlier later : List (Address × LifecycleStep FeeCall)) :
    let code := feeCode address
    let reached := run code.operate ⟨world, deployed address⟩ earlier
    let final := run code.operate reached later
    let last := final.storage.feeStates.lastStreamingFeeTimestamp
    let elapsed := last - reached.storage.feeStates.lastStreamingFeeTimestamp
    let ceiling := reached.storage.feeStates.maxStreamingFeePercentage
    let fee := elapsed * ceiling / oneYearInSeconds
    (∀ front step next, front ++ [step] <+: later →
      code.operate (run code.operate reached front) step = .ok next →
        LeavesMultiplier (run code.operate reached front) step) →
    code.Active reached.world → 0 ≤ reached.world.setToken.positionMultiplier →
      final.storage.feeStates.maxStreamingFeePercentage = ceiling ∧
      final.storage.feeStates.streamingFeePercentage ≤ ceiling ∧ ceiling < preciseUnit ∧
      reached.world.setToken.positionMultiplier * (preciseUnit - fee) ≤
        (final.world.setToken.positionMultiplier + fee) * preciseUnit := by
  intro code reached final last elapsed ceiling fee met active nonneg
  have orderly := feeCode_orderly address
  have started : code.InOrder (Settled address) (fun module => module = deployed address)
      ⟨world, deployed address⟩ :=
    .absent absent rfl
  have reachedOrder := ModuleCode.run_inOrder orderly started earlier
  have recent : reached.storage.feeStates.lastStreamingFeeTimestamp ≤ reached.world.timestamp :=
    run_invariant code.operate (fun installation =>
      installation.storage.feeStates.lastStreamingFeeTimestamp ≤ installation.world.timestamp)
      (fun _ => True) (fun _ step _ _ before returned => operate_recent before step returned)
      earlier (fun _ _ => trivial) _ (Nat.zero_le _)
  have kept := run_invariant_of_met code.operate (fun installation =>
      code.InOrder (Settled address) (fun module => module = deployed address) installation ∧
        code.Active installation.world ∧ Drained reached installation)
    LeavesMultiplier (fun installation step next held leaves returned => by
      obtain ⟨inOrder, isActive, drained⟩ := held
      have stays : step.2 ≠ .removeModule := by
        rintro removes
        obtain ⟨msgSender, step⟩ := step
        subst removes
        exact leaves.elim
      obtain ⟨stillActive, _⟩ := ModuleCode.operate_frame orderly (fun _ => rfl) inOrder isActive
        step stays returned
      exact ⟨ModuleCode.operate_inOrder orderly inOrder step returned, stillActive,
        drained.operate nonneg (inOrder.active isActive) isActive step leaves returned⟩)
    ⟨reachedOrder, active, .refl recent nonneg⟩ met later (List.prefix_refl _)
  obtain ⟨inOrder, isActive, drained⟩ := kept
  have settled := inOrder.active isActive
  have same : final.storage.feeStates.maxStreamingFeePercentage = ceiling := drained.max
  exact ⟨same, same ▸ settled.fee, same ▸ settled.max, drained.bound⟩

/-- A Set that the module at account 4 is not part of yet. -/
def sampleUncharged : World where
  timestamp := 0
  controller := { sampleController with isSet := fun account => account = 2 }
  setToken :=
    { SetToken.construct 2 [3] [10 ^ 18] [4] 5 with moduleStates := fun _ => .none }
  tokens := fun _ => { totalSupply := 0, balanceOf := fun _ => 0, allowance := fun _ _ => 0 }

/-- The manager agrees to at most two percent a year, and charges one. -/
def sampleCeiling : List (Address × LifecycleStep FeeCall) :=
  [(5, .addModule), (5, .call (.initializeSet
    { feeRecipient := 5, maxStreamingFeePercentage := 2 * 10 ^ 16,
      streamingFeePercentage := 10 ^ 16, lastStreamingFeeTimestamp := 0 }))]

def sampleCharged : Installation StreamingFeeModule :=
  run (feeCode 4).operate ⟨sampleUncharged, deployed 4⟩ sampleCeiling

/-- A year passes, and somebody accrues the fee. -/
def sampleYear : List (Address × LifecycleStep FeeCall) :=
  [(7, .elsewhere { sampleCharged.world with timestamp := oneYearInSeconds }),
    (7, .call .accrueFee)]

/-- The multiplier falls by one percent, and the ceiling allows two. -/
theorem holders_keep_terms_sample :
    let final := run (feeCode 4).operate sampleCharged sampleYear
    final.world.setToken.positionMultiplier = 99 * 10 ^ 16 ∧
      (10 ^ 18 : Int) * (preciseUnit - (2 * 10 ^ 16 : Nat)) ≤
        (final.world.setToken.positionMultiplier + (2 * 10 ^ 16 : Nat)) * preciseUnit := by
  intro final
  have fell : final.world.setToken.positionMultiplier = 99 * 10 ^ 16 := by decide +kernel
  have met : ∀ front step next, front ++ [step] <+: sampleYear →
      (feeCode 4).operate (run (feeCode 4).operate sampleCharged front) step = .ok next →
        LeavesMultiplier (run (feeCode 4).operate sampleCharged front) step := by
    intro front step next initial _
    match front with
    | [] =>
      obtain rfl : step = (7, .elsewhere
          { sampleCharged.world with timestamp := oneYearInSeconds }) :=
        (List.cons_prefix_cons.mp initial).1
      rfl
    | _ :: [] =>
      obtain rfl : step = (7, .call .accrueFee) :=
        (List.cons_prefix_cons.mp (List.cons_prefix_cons.mp initial).2).1
      trivial
    | _ :: _ :: _ =>
      have short := initial.length_le
      simp [sampleYear] at short
  have kept := holders_keep_terms 4 sampleUncharged (by unfold ModuleCode.Active; decide)
    sampleCeiling sampleYear met (by unfold ModuleCode.Active; decide +kernel) (by decide +kernel)
  exact ⟨fell, kept.2.2.2⟩

end StreamingFeeModule

end IndexProtocol

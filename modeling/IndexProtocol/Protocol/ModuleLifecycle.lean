/-
This file models the life of a module on a Set: the manager adds it, its own
entry point initializes it, its functions are called by anybody, and the manager
removes it, which makes the Set call the module back to delete what it keeps. A
module that keeps its storage in order while it is initialized, and leaves it
blank when it is removed, has it in order or blank in every state; and what no
function of an initialized module changes stays as the initialization left it
until the module is removed.
-/

import IndexProtocol.Protocol.ModuleBase

namespace IndexProtocol

open Revert

/-- What a module does with the storage that it keeps for a Set: the calls of its functions, and
the callback of its removal. -/
structure ModuleCode (Storage Method : Type) where
  address : Address
  call : Address → Method → Storage → World → Outcome (Storage × World)
  removeModule : Storage → Outcome Storage

/-- One Set with the storage that a module keeps for it. -/
structure Installation (Storage : Type) where
  world : World
  storage : Storage

/-- A call of the module, a call of the Set that is about the module, or a change of anything
else. -/
inductive LifecycleStep (Method : Type)
  | call (method : Method)
  | addModule
  | removePendingModule
  | removeModule
  | elsewhere (world : World)

namespace ModuleCode

variable {Storage Method : Type}

/-- The module is part of the Set. -/
def Active (code : ModuleCode Storage Method) (world : World) : Prop :=
  world.setToken.moduleStates code.address = .initialized

/-- One transaction, with its sender. -/
def operate (code : ModuleCode Storage Method) (installation : Installation Storage) :
    Address × LifecycleStep Method → Outcome (Installation Storage)
  | (msgSender, .call method) => do
    let (storage, world) ←
      code.call msgSender method installation.storage installation.world
    pure { world, storage }
  | (msgSender, .addModule) => do
    let world ← installation.world.callSetToken
      (SetToken.addModule ⟨installation.world.controller, msgSender⟩ code.address)
    pure { installation with world }
  | (msgSender, .removePendingModule) => do
    let world ← installation.world.callSetToken
      (SetToken.removePendingModule ⟨installation.world.controller, msgSender⟩ code.address)
    pure { installation with world }
  | (msgSender, .removeModule) => do
    let world ← installation.world.callSetToken
      (SetToken.removeModule ⟨installation.world.controller, msgSender⟩ code.address do
        let _ ← code.removeModule installation.storage)
    let storage ← code.removeModule installation.storage
    pure { world, storage }
  | (_, .elsewhere world) => do
    require (installation.world.timestamp ≤ world.timestamp) "Time does not go back"
    require (world.setToken.moduleStates code.address =
      installation.world.setToken.moduleStates code.address) "The state of the module is its own"
    pure { installation with world }

/-- Everything a step that succeeds can do. -/
inductive Effect (code : ModuleCode Storage Method) (installation : Installation Storage) :
    Address × LifecycleStep Method → Installation Storage → Prop
  | call {msgSender method storage world}
      (returned : code.call msgSender method installation.storage installation.world =
        .ok (storage, world)) :
      Effect code installation (msgSender, .call method) ⟨world, storage⟩
  | addModule {msgSender world}
      (before : installation.world.setToken.moduleStates code.address = .none)
      (after : world.setToken.moduleStates code.address = .pending)
      (timestamp : world.timestamp = installation.world.timestamp) :
      Effect code installation (msgSender, .addModule) ⟨world, installation.storage⟩
  | removePendingModule {msgSender world}
      (before : installation.world.setToken.moduleStates code.address = .pending)
      (after : world.setToken.moduleStates code.address = .none)
      (timestamp : world.timestamp = installation.world.timestamp) :
      Effect code installation (msgSender, .removePendingModule) ⟨world, installation.storage⟩
  | removeModule {msgSender storage world}
      (before : code.Active installation.world)
      (cleared : code.removeModule installation.storage = .ok storage)
      (after : world.setToken.moduleStates code.address = .none) :
      Effect code installation (msgSender, .removeModule) ⟨world, storage⟩
  | elsewhere {msgSender world} (time : installation.world.timestamp ≤ world.timestamp)
      (same : world.setToken.moduleStates code.address =
        installation.world.setToken.moduleStates code.address) :
      Effect code installation (msgSender, .elsewhere world) ⟨world, installation.storage⟩

/-- A module that keeps its storage in order: a call of an active module leaves it active and
changes its storage within a frame, a call of another one puts it in order, and the removal
blanks it. -/
structure Orderly (code : ModuleCode Storage Method) (ordered blank : Storage → Prop)
    (frame : Storage → Storage → Prop) : Prop where
  edits : ∀ msgSender method storage world next after, code.Active world → ordered storage →
    code.call msgSender method storage world = .ok (next, after) →
      code.Active after ∧ ordered next ∧ frame storage next
  initializes : ∀ msgSender method storage world next after, ¬code.Active world →
    blank storage → code.call msgSender method storage world = .ok (next, after) →
      code.Active after ∧ ordered next
  removes : ∀ storage next, ordered storage → code.removeModule storage = .ok next → blank next

/-- The storage is in order while the module is part of the Set, and blank otherwise. -/
structure InOrder (code : ModuleCode Storage Method) (ordered blank : Storage → Prop)
    (installation : Installation Storage) : Prop where
  active : code.Active installation.world → ordered installation.storage
  inactive : ¬code.Active installation.world → blank installation.storage

variable {code : ModuleCode Storage Method} {ordered blank : Storage → Prop}
  {frame : Storage → Storage → Prop} {installation next : Installation Storage}

theorem Active.congr {world after : World}
    (same : after.setToken.moduleStates code.address =
      world.setToken.moduleStates code.address) : code.Active after ↔ code.Active world := by
  unfold Active
  rw [same]

/-- A module that is not part of the Set may start with blank storage. -/
theorem InOrder.absent {world : World} {storage : Storage} (inactive : ¬code.Active world)
    (isBlank : blank storage) : code.InOrder ordered blank ⟨world, storage⟩ :=
  ⟨fun active => absurd active inactive, fun _ => isBlank⟩

/-- A change that leaves the storage and whether the module is part of the Set. -/
theorem InOrder.carry (inOrder : code.InOrder ordered blank installation)
    (storage : next.storage = installation.storage)
    (active : code.Active next.world ↔ code.Active installation.world) :
    code.InOrder ordered blank next := by
  constructor
  · exact fun isActive => storage ▸ inOrder.active (active.mp isActive)
  · exact fun notActive => storage ▸ inOrder.inactive fun isActive =>
      notActive (active.mpr isActive)

/-- What the Set does about the module leaves it inactive, and so its storage is blank. -/
theorem InOrder.of_blank (isBlank : blank next.storage) (state : ModuleState)
    (written : next.world.setToken.moduleStates code.address = state)
    (different : state ≠ .initialized) : code.InOrder ordered blank next := by
  refine ⟨fun active => absurd active ?_, fun _ => isBlank⟩
  unfold Active
  rw [written]
  exact different

theorem operate_effect {step : Address × LifecycleStep Method}
    (returned : code.operate installation step = .ok next) :
    code.Effect installation step next := by
  obtain ⟨msgSender, step⟩ := step
  cases step with
  | call method =>
    simp only [operate, bind_eq_ok, pure_eq_ok, Prod.exists] at returned
    obtain ⟨storage, world, called, rfl⟩ := returned
    exact .call called
  | addModule =>
    simp only [operate, bind_eq_ok, pure_eq_ok] at returned
    obtain ⟨world, called, rfl⟩ := returned
    obtain ⟨adding, stored⟩ := World.callSetToken_eq_ok called
    obtain ⟨absent, written⟩ := SetToken.addModule_eq_ok adding
    refine .addModule absent ?_ (by rw [stored])
    rw [written]
    exact Function.update_self _ _ _
  | removePendingModule =>
    simp only [operate, bind_eq_ok, pure_eq_ok] at returned
    obtain ⟨world, called, rfl⟩ := returned
    obtain ⟨removing, stored⟩ := World.callSetToken_eq_ok called
    obtain ⟨_, pending, written⟩ := SetToken.removePendingModule_eq_ok removing
    refine .removePendingModule pending ?_ (by rw [stored])
    rw [written]
    exact Function.update_self _ _ _
  | removeModule =>
    simp only [operate, bind_eq_ok, pure_eq_ok] at returned
    obtain ⟨world, called, storage, cleared, rfl⟩ := returned
    obtain ⟨_, initialized, _, _, written⟩ :=
      SetToken.removeModule_eq_ok (World.callSetToken_eq_ok called).1
    refine .removeModule initialized cleared ?_
    rw [written]
    exact Function.update_self _ _ _
  | elsewhere world =>
    simp only [operate, bind_eq_ok, require_eq_ok, pure_eq_ok] at returned
    obtain ⟨_, time, _, same, rfl⟩ := returned
    exact .elsewhere time same

/-- Adding the module and dropping it while it is pending come before it is active. -/
theorem operate_inOrder (orderly : code.Orderly ordered blank frame)
    (inOrder : code.InOrder ordered blank installation)
    (step : Address × LifecycleStep Method)
    (returned : code.operate installation step = .ok next) :
    code.InOrder ordered blank next := by
  cases operate_effect returned with
  | call called =>
    by_cases before : code.Active installation.world
    · obtain ⟨active, kept, _⟩ :=
        orderly.edits _ _ _ _ _ _ before (inOrder.active before) called
      exact ⟨fun _ => kept, fun inactive => absurd active inactive⟩
    · obtain ⟨active, kept⟩ :=
        orderly.initializes _ _ _ _ _ _ before (inOrder.inactive before) called
      exact ⟨fun _ => kept, fun inactive => absurd active inactive⟩
  | addModule before after =>
    refine InOrder.of_blank (inOrder.inactive fun active => ?_) .pending after (by decide)
    exact absurd (active.symm.trans before) (by decide)
  | removePendingModule before after =>
    refine InOrder.of_blank (inOrder.inactive fun active => ?_) .none after (by decide)
    exact absurd (active.symm.trans before) (by decide)
  | removeModule before cleared after =>
    exact InOrder.of_blank (orderly.removes _ _ (inOrder.active before) cleared) .none after
      (by decide)
  | elsewhere _ same => exact inOrder.carry rfl (Active.congr same)

/-- In every run that starts before the module is part of the Set, its storage is in order while
it is part of the Set and blank otherwise. -/
theorem run_inOrder (orderly : code.Orderly ordered blank frame)
    (inOrder : code.InOrder ordered blank installation)
    (steps : List (Address × LifecycleStep Method)) :
    code.InOrder ordered blank (run code.operate installation steps) :=
  run_invariant code.operate (code.InOrder ordered blank) (fun _ => True)
    (fun _ step _ _ kept returned => operate_inOrder orderly kept step returned) steps
    (fun _ _ => trivial) installation inOrder

/-- Only its removal takes an active module from the Set, and its calls stay in the frame. -/
theorem operate_frame (orderly : code.Orderly ordered blank frame)
    (reflexive : ∀ storage, frame storage storage)
    (inOrder : code.InOrder ordered blank installation)
    (active : code.Active installation.world) (step : Address × LifecycleStep Method)
    (stays : step.2 ≠ .removeModule) (returned : code.operate installation step = .ok next) :
    code.Active next.world ∧ frame installation.storage next.storage := by
  cases operate_effect returned with
  | call called =>
    obtain ⟨stillActive, _, framed⟩ :=
      orderly.edits _ _ _ _ _ _ active (inOrder.active active) called
    exact ⟨stillActive, framed⟩
  | addModule before => exact absurd (active.symm.trans before) (by decide)
  | removePendingModule before => exact absurd (active.symm.trans before) (by decide)
  | removeModule => exact absurd rfl stays
  | elsewhere _ same => exact ⟨(Active.congr same).mpr active, reflexive _⟩

/-- While nobody removes the module, it stays part of the Set and its storage in the frame. -/
theorem run_frame (orderly : code.Orderly ordered blank frame)
    (reflexive : ∀ storage, frame storage storage)
    (transitive : ∀ first second third, frame first second → frame second third →
      frame first third)
    (inOrder : code.InOrder ordered blank installation)
    (active : code.Active installation.world)
    (steps : List (Address × LifecycleStep Method))
    (stays : ∀ step ∈ steps, step.2 ≠ .removeModule) :
    code.Active (run code.operate installation steps).world ∧
      frame installation.storage (run code.operate installation steps).storage := by
  have kept : code.InOrder ordered blank (run code.operate installation steps) ∧
      code.Active (run code.operate installation steps).world ∧
        frame installation.storage (run code.operate installation steps).storage := by
    refine run_invariant code.operate (fun reached => code.InOrder ordered blank reached ∧
      code.Active reached.world ∧ frame installation.storage reached.storage)
      (fun step => step.2 ≠ .removeModule) ?_ steps stays installation
      ⟨inOrder, active, reflexive _⟩
    intro reached step after permitted held returned
    obtain ⟨reachedOrder, reachedActive, framed⟩ := held
    obtain ⟨stillActive, stepped⟩ :=
      operate_frame orderly reflexive reachedOrder reachedActive step permitted returned
    exact ⟨operate_inOrder orderly reachedOrder step returned, stillActive,
      transitive _ _ _ framed stepped⟩
  exact kept.2

end ModuleCode

end IndexProtocol

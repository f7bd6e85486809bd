/-
This file models the Set token as a state machine: any account may call any of
its external functions, with any modules enabled on the controller at the time.
One lemma says what a call can do. From it follow the invariant that relates the
lock, the states of the modules and their list, and the frame of a locked Set:
until the locker calls, only balances, allowances and pending modules can change.
-/

import IndexProtocol.Protocol.SetTokenCreator

namespace IndexProtocol

open Revert

/-! ### The external functions -/

/-- Every external function that can change the state. What the target of `invoke` does to the
Set it does by further calls, so that the call itself only passes the guards. The module's own
`removeModule` does not call back. -/
inductive ExternalFunction
  | invoke (target : Address) (value : Nat) (data : Bytes)
  | addComponent (component : Address)
  | removeComponent (component : Address)
  | editDefaultPositionUnit (component : Address) (realUnit : Int)
  | addExternalPositionModule (component positionModule : Address)
  | removeExternalPositionModule (component positionModule : Address)
  | editExternalPositionUnit (component positionModule : Address) (realUnit : Int)
  | editExternalPositionData (component positionModule : Address) (data : Bytes)
  | editPositionMultiplier (newMultiplier : Int)
  | mint (account : Address) (quantity : Nat)
  | burn (account : Address) (quantity : Nat)
  | lock
  | unlock
  | addModule (module : Address)
  | removeModule (module : Address) (callback : Outcome Unit)
  | removePendingModule (module : Address)
  | initializeModule
  | setManager (manager : Address)
  | transfer (recipient : Address) (amount : Nat)
  | transferFrom (sender recipient : Address) (amount : Nat)
  | approve (spender : Address) (amount : Nat)
  | increaseAllowance (spender : Address) (addedValue : Nat)
  | decreaseAllowance (spender : Address) (subtractedValue : Nat)
  | receive

namespace SetToken

/-- `invoke` changes nothing of the Set itself. -/
def invoke (call : Call) (setToken : SetToken) : Outcome SetToken := do
  setToken.validatePrivileged call
  pure setToken

/-- A function of the token the Set inherits from. -/
def onToken (function : ERC20 → Outcome ERC20) (setToken : SetToken) : Outcome SetToken := do
  let token ← function setToken.toERC20
  pure { setToken with toERC20 := token }

end SetToken

namespace ExternalFunction

/-- One call of an external function. -/
def apply (setToken : SetToken) : Call × ExternalFunction → Outcome SetToken
  | (call, .invoke _ _ _) => setToken.invoke call
  | (call, .addComponent component) => setToken.addComponent call component
  | (call, .removeComponent component) => setToken.removeComponent call component
  | (call, .editDefaultPositionUnit component realUnit) =>
    setToken.editDefaultPositionUnit call component realUnit
  | (call, .addExternalPositionModule component positionModule) =>
    setToken.addExternalPositionModule call component positionModule
  | (call, .removeExternalPositionModule component positionModule) =>
    setToken.removeExternalPositionModule call component positionModule
  | (call, .editExternalPositionUnit component positionModule realUnit) =>
    setToken.editExternalPositionUnit call component positionModule realUnit
  | (call, .editExternalPositionData component positionModule data) =>
    setToken.editExternalPositionData call component positionModule data
  | (call, .editPositionMultiplier newMultiplier) =>
    setToken.editPositionMultiplier call newMultiplier
  | (call, .mint account quantity) => setToken.mint call account quantity
  | (call, .burn account quantity) => setToken.burn call account quantity
  | (call, .lock) => setToken.lock call
  | (call, .unlock) => setToken.unlock call
  | (call, .addModule module) => setToken.addModule call module
  | (call, .removeModule module callback) => setToken.removeModule call module callback
  | (call, .removePendingModule module) => setToken.removePendingModule call module
  | (call, .initializeModule) => setToken.initializeModule call
  | (call, .setManager manager) => setToken.setManager call manager
  | (call, .transfer recipient amount) =>
    setToken.onToken (ERC20.transfer call.sender recipient amount)
  | (call, .transferFrom sender recipient amount) =>
    setToken.onToken (ERC20.transferFrom call.sender sender recipient amount)
  | (call, .approve spender amount) => setToken.onToken (ERC20.approve call.sender spender amount)
  | (call, .increaseAllowance spender addedValue) =>
    setToken.onToken (ERC20.increaseAllowance call.sender spender addedValue)
  | (call, .decreaseAllowance spender subtractedValue) =>
    setToken.onToken (ERC20.decreaseAllowance call.sender spender subtractedValue)
  | (_, .receive) => pure setToken

end ExternalFunction

/-! ### What a call can do -/

/-- The manager, the lock and the modules agree. -/
structure SetToken.SameControl (setToken next : SetToken) : Prop where
  manager : next.manager = setToken.manager
  locker : next.locker = setToken.locker
  isLocked : next.isLocked = setToken.isLocked
  modules : next.modules = setToken.modules
  moduleStates : next.moduleStates = setToken.moduleStates

/-- The effects of the external functions: of the privileged functions of the modules, of the
token's own functions, and of the functions that change the lock, the modules or the
manager. -/
inductive SetToken.Effect (call : Call) (setToken : SetToken) : SetToken → Prop
  | privileged {next : SetToken} (allowed : setToken.Privileged call)
      (same : setToken.SameControl next) : Effect call setToken next
  | transferred (balances : Address → Nat) (allowances : Address → Address → Nat) :
      Effect call setToken { setToken with balanceOf := balances, allowance := allowances }
  | locked (initialized : setToken.moduleStates call.sender = .initialized)
      (unlocked : setToken.isLocked = false) :
      Effect call setToken { setToken with locker := call.sender, isLocked := true }
  | unlocked (locked : setToken.isLocked = true) (locker : setToken.locker = call.sender) :
      Effect call setToken { setToken with locker := 0, isLocked := false }
  | moduleAdded (module : Address) (absent : setToken.moduleStates module = .none) :
      Effect call setToken { setToken with
        moduleStates := Function.update setToken.moduleStates module .pending }
  | moduleRemoved (module : Address) (unlocked : setToken.isLocked = false)
      (modules : List Address) (erased : modules.Perm (setToken.modules.erase module)) :
      Effect call setToken { setToken with
        moduleStates := Function.update setToken.moduleStates module .none
        modules := modules }
  | pendingModuleRemoved (module : Address) (unlocked : setToken.isLocked = false)
      (pending : setToken.moduleStates module = .pending) :
      Effect call setToken { setToken with
        moduleStates := Function.update setToken.moduleStates module .none }
  | moduleInitialized (unlocked : setToken.isLocked = false)
      (pending : setToken.moduleStates call.sender = .pending) :
      Effect call setToken { setToken with
        moduleStates := Function.update setToken.moduleStates call.sender .initialized
        modules := setToken.modules ++ [call.sender] }
  | managerSet (manager : Address) (unlocked : setToken.isLocked = false) :
      Effect call setToken { setToken with manager := manager }

namespace SetToken

section Effects

variable {setToken next : SetToken} {call : Call}

/-- A function of the token that keeps the supply changes balances and allowances. -/
theorem onToken_effect {function : ERC20 → Outcome ERC20}
    (supply : ∀ token, function setToken.toERC20 = .ok token →
      token.totalSupply = setToken.totalSupply)
    (returned : setToken.onToken function = .ok next) : Effect call setToken next := by
  simp only [onToken, bind_eq_ok, pure_eq_ok] at returned
  obtain ⟨token, called, rfl⟩ := returned
  have kept := supply token called
  obtain ⟨supplied, balances, allowances⟩ := token
  subst kept
  exact .transferred balances allowances

/-- An edit of one stored position changes nothing of the control. -/
theorem editComponent_sameControl (component : Address)
    (edit : ComponentPosition → ComponentPosition) :
    setToken.SameControl (setToken.editComponent component edit) :=
  ⟨rfl, rfl, rfl, rfl, rfl⟩

end Effects

end SetToken

namespace ExternalFunction

open SetToken

variable {setToken next : SetToken} {call : Call}

/-- What a call that returns has done. -/
theorem apply_effect (function : ExternalFunction)
    (returned : apply setToken (call, function) = .ok next) : Effect call setToken next := by
  cases function with
  | invoke target value data =>
    simp only [apply, SetToken.invoke, bind_eq_ok, validatePrivileged_eq_ok, exists_const,
      pure_eq_ok] at returned
    obtain ⟨allowed, rfl⟩ := returned
    exact .privileged allowed ⟨rfl, rfl, rfl, rfl, rfl⟩
  | addComponent component =>
    obtain ⟨allowed, _, rfl⟩ := SetToken.addComponent_eq_ok returned
    exact .privileged allowed ⟨rfl, rfl, rfl, rfl, rfl⟩
  | removeComponent component =>
    obtain ⟨allowed, _, _, rfl⟩ := SetToken.removeComponent_eq_ok returned
    exact .privileged allowed ⟨rfl, rfl, rfl, rfl, rfl⟩
  | editDefaultPositionUnit component realUnit =>
    obtain ⟨allowed, _, _, rfl⟩ := SetToken.editDefaultPositionUnit_eq_ok returned
    exact .privileged allowed (editComponent_sameControl _ _)
  | addExternalPositionModule component positionModule =>
    obtain ⟨allowed, _, rfl⟩ := SetToken.addExternalPositionModule_eq_ok returned
    exact .privileged allowed (editComponent_sameControl _ _)
  | removeExternalPositionModule component positionModule =>
    obtain ⟨allowed, _, _, _, rfl⟩ := SetToken.removeExternalPositionModule_eq_ok returned
    exact .privileged allowed (editComponent_sameControl _ _)
  | editExternalPositionUnit component positionModule realUnit =>
    obtain ⟨allowed, _, _, rfl⟩ := SetToken.editExternalPositionUnit_eq_ok returned
    exact .privileged allowed (editComponent_sameControl _ _)
  | editExternalPositionData component positionModule data =>
    obtain ⟨allowed, rfl⟩ := SetToken.editExternalPositionData_eq_ok returned
    exact .privileged allowed (editComponent_sameControl _ _)
  | editPositionMultiplier newMultiplier =>
    obtain ⟨allowed, _, rfl⟩ := SetToken.editPositionMultiplier_eq_ok returned
    exact .privileged allowed ⟨rfl, rfl, rfl, rfl, rfl⟩
  | mint account quantity =>
    obtain ⟨allowed, rfl⟩ := SetToken.mint_eq_ok returned
    exact .privileged allowed ⟨rfl, rfl, rfl, rfl, rfl⟩
  | burn account quantity =>
    obtain ⟨allowed, _, rfl⟩ := SetToken.burn_eq_ok returned
    exact .privileged allowed ⟨rfl, rfl, rfl, rfl, rfl⟩
  | lock =>
    obtain ⟨initialized, _, unlocked, rfl⟩ := SetToken.lock_eq_ok returned
    exact .locked initialized unlocked
  | unlock =>
    obtain ⟨_, locked, locker, rfl⟩ := SetToken.unlock_eq_ok.mp returned
    exact .unlocked locked locker
  | addModule module =>
    obtain ⟨absent, rfl⟩ := SetToken.addModule_eq_ok returned
    exact .moduleAdded module absent
  | removeModule module callback =>
    obtain ⟨unlocked, _, modules, perm, rfl⟩ := SetToken.removeModule_eq_ok returned
    exact .moduleRemoved module unlocked modules perm
  | removePendingModule module =>
    obtain ⟨unlocked, pending, rfl⟩ := SetToken.removePendingModule_eq_ok returned
    exact .pendingModuleRemoved module unlocked pending
  | initializeModule =>
    obtain ⟨unlocked, pending, rfl⟩ := SetToken.initializeModule_eq_ok returned
    exact .moduleInitialized unlocked pending
  | setManager manager =>
    obtain ⟨unlocked, rfl⟩ := SetToken.setManager_eq_ok returned
    exact .managerSet manager unlocked
  | transfer recipient amount =>
    refine onToken_effect (fun token moved => ?_) returned
    obtain ⟨_, rfl⟩ := ERC20.move_eq_ok moved
    rfl
  | transferFrom sender recipient amount =>
    exact onToken_effect (fun token moved => (ERC20.transferFrom_eq_ok moved).2.1) returned
  | approve spender amount =>
    exact onToken_effect (fun token approved => (ERC20.approve_eq_ok approved).1) returned
  | increaseAllowance spender addedValue =>
    refine onToken_effect (fun token increased => ?_) returned
    simp only [ERC20.increaseAllowance, bind_eq_ok] at increased
    obtain ⟨_, _, approved⟩ := increased
    exact (ERC20.approve_eq_ok approved).1
  | decreaseAllowance spender subtractedValue =>
    refine onToken_effect (fun token decreased => ?_) returned
    simp only [ERC20.decreaseAllowance, bind_eq_ok] at decreased
    obtain ⟨_, _, approved⟩ := decreased
    exact (ERC20.approve_eq_ok approved).1
  | receive =>
    obtain rfl := (pure_eq_ok _ _).mp returned
    exact .transferred setToken.balanceOf setToken.allowance

end ExternalFunction

/-! ### The lock and the modules -/

/-- The lock is held by an initialized module, and the list of modules holds the initialized
ones, each once. -/
structure Lifecycle (setToken : SetToken) : Prop where
  locked_iff : setToken.isLocked = true ↔ setToken.locker ≠ 0
  locker_initialized : setToken.isLocked = true →
    setToken.moduleStates setToken.locker = .initialized
  modules_nodup : setToken.modules.Nodup
  mem_modules_iff : ∀ module, module ∈ setToken.modules ↔
    setToken.moduleStates module = .initialized

namespace Lifecycle

variable {setToken next : SetToken} {call : Call}

/-- The constructor leaves every module pending. -/
theorem construct (address : Address) (components : List Address) (units : List Int)
    (modules : List Address) (manager : Address) :
    Lifecycle (SetToken.construct address components units modules manager) := by
  have never : ∀ module, (SetToken.construct address components units modules
      manager).moduleStates module ≠ .initialized := by
    intro module
    show modules.foldl (fun states module => Function.update states module .pending)
      (fun _ => ModuleState.none) module ≠ .initialized
    have start : (fun _ : Address => ModuleState.none) module ≠ .initialized := by simp
    generalize (fun _ : Address => ModuleState.none) = states at start ⊢
    induction modules generalizing states with
    | nil => exact start
    | cons added rest inductionHypothesis =>
      refine inductionHypothesis _ ?_
      show Function.update states added .pending module ≠ .initialized
      rcases eq_or_ne module added with rfl | other
      · rw [Function.update_self]
        simp
      · rw [Function.update_of_ne other]
        exact start
  exact ⟨by simp [SetToken.construct], fun locked => absurd locked (by simp [SetToken.construct]),
    List.nodup_nil, fun module => iff_of_false List.not_mem_nil (never module)⟩

/-- The invariant is a property of the lock and the modules. -/
theorem congr (kept : Lifecycle setToken) (same : setToken.SameControl next) :
    Lifecycle next := by
  obtain ⟨_, locker, isLocked, modules, moduleStates⟩ := same
  obtain ⟨locked_iff, locker_initialized, nodup, members⟩ := kept
  constructor
  · rwa [locker, isLocked]
  · rwa [locker, isLocked, moduleStates]
  · rwa [modules]
  · rwa [modules, moduleStates]

/-- Changing the state of a module that is not initialized to another such state keeps the
invariant. -/
theorem update_state (kept : Lifecycle setToken) (module : Address) (state : ModuleState)
    (before : setToken.moduleStates module ≠ .initialized) (after : state ≠ .initialized) :
    Lifecycle { setToken with
      moduleStates := Function.update setToken.moduleStates module state } := by
  have same : ∀ other, Function.update setToken.moduleStates module state other = .initialized ↔
      setToken.moduleStates other = .initialized := by
    intro other
    rcases eq_or_ne other module with rfl | different
    · rw [Function.update_self]
      exact iff_of_false after before
    · rw [Function.update_of_ne different]
  exact ⟨kept.locked_iff, fun locked => (same _).mpr (kept.locker_initialized locked),
    kept.modules_nodup, fun other => (kept.mem_modules_iff other).trans (same other).symm⟩

/-- While the Set is unlocked an initialized module can leave the list and the state
together. -/
theorem remove (kept : Lifecycle setToken) (module : Address)
    (unlocked : setToken.isLocked = false) {modules : List Address}
    (erased : modules.Perm (setToken.modules.erase module)) :
    Lifecycle { setToken with
      moduleStates := Function.update setToken.moduleStates module .none
      modules := modules } := by
  refine ⟨kept.locked_iff, fun locked => absurd (unlocked.symm.trans locked) Bool.false_ne_true,
    erased.nodup_iff.mpr (kept.modules_nodup.erase module), fun other => ?_⟩
  show other ∈ modules ↔ Function.update setToken.moduleStates module .none other = .initialized
  rw [erased.mem_iff, kept.modules_nodup.mem_erase_iff, kept.mem_modules_iff]
  rcases eq_or_ne other module with rfl | different
  · rw [Function.update_self]
    simp
  · rw [Function.update_of_ne different]
    simp [different]

/-- A pending module enters the list and the state together. -/
theorem initialize_pending (kept : Lifecycle setToken) (module : Address)
    (unlocked : setToken.isLocked = false) (pending : setToken.moduleStates module = .pending) :
    Lifecycle { setToken with
      moduleStates := Function.update setToken.moduleStates module .initialized
      modules := setToken.modules ++ [module] } := by
  have fresh : module ∉ setToken.modules := by
    rw [kept.mem_modules_iff, pending]
    simp
  refine ⟨kept.locked_iff, fun locked => absurd (unlocked.symm.trans locked) Bool.false_ne_true,
    List.nodup_append.mpr ⟨kept.modules_nodup, List.nodup_singleton _, ?_⟩, fun other => ?_⟩
  · rintro other listed _ added rfl
    obtain rfl := List.mem_singleton.mp added
    exact fresh listed
  · show other ∈ setToken.modules ++ [module] ↔
      Function.update setToken.moduleStates module .initialized other = .initialized
    rw [List.mem_append, List.mem_singleton, kept.mem_modules_iff]
    rcases eq_or_ne other module with rfl | different
    · rw [Function.update_self]
      simp
    · rw [Function.update_of_ne different]
      simp [different]

/-- Every effect of a call by an account other than the zero address keeps the invariant. -/
theorem effect (kept : Lifecycle setToken) (sender : call.sender ≠ 0)
    (effect : SetToken.Effect call setToken next) : Lifecycle next := by
  cases effect with
  | privileged allowed same => exact kept.congr same
  | transferred balances allowances => exact kept.congr ⟨rfl, rfl, rfl, rfl, rfl⟩
  | locked initialized unlocked =>
    exact ⟨iff_of_true rfl sender, fun _ => initialized, kept.modules_nodup,
      kept.mem_modules_iff⟩
  | unlocked locked locker =>
    exact ⟨iff_of_false Bool.false_ne_true (fun different => different rfl),
      fun locked => absurd locked Bool.false_ne_true, kept.modules_nodup, kept.mem_modules_iff⟩
  | moduleAdded module absent =>
    exact kept.update_state module .pending (by rw [absent]; simp) (by simp)
  | moduleRemoved module unlocked modules erased => exact kept.remove module unlocked erased
  | pendingModuleRemoved module unlocked pending =>
    exact kept.update_state module .none (by rw [pending]; simp) (by simp)
  | moduleInitialized unlocked pending => exact kept.initialize_pending _ unlocked pending
  | managerSet manager unlocked =>
    exact ⟨kept.locked_iff, kept.locker_initialized, kept.modules_nodup, kept.mem_modules_iff⟩

end Lifecycle

/-- Over any sequence of calls to a constructed Set, whatever the controller enables in between:
it is locked exactly while it has a locker, which is then initialized, and the list of modules
holds the initialized modules, each once. -/
theorem lifecycle_run (address : Address) (components : List Address) (units : List Int)
    (modules : List Address) (manager : Address) (calls : List (Call × ExternalFunction))
    (senders : ∀ call ∈ calls, call.1.sender ≠ 0) :
    let reached := run ExternalFunction.apply
      (SetToken.construct address components units modules manager) calls
    (reached.isLocked = true ↔ reached.locker ≠ 0) ∧
    (reached.isLocked = true → reached.moduleStates reached.locker = .initialized) ∧
    reached.modules.Nodup ∧
    ∀ module, module ∈ reached.modules ↔ reached.moduleStates module = .initialized := by
  intro reached
  have kept : Lifecycle reached :=
    run_invariant ExternalFunction.apply Lifecycle (fun call => call.1.sender ≠ 0)
      (fun _ call _ sender holds returned =>
        holds.effect sender (ExternalFunction.apply_effect call.2 returned))
      calls senders _ (Lifecycle.construct address components units modules manager)
  exact ⟨kept.locked_iff, kept.locker_initialized, kept.modules_nodup, kept.mem_modules_iff⟩

/-- A constructed Set whose module 4 the controller has enabled. -/
def sampleCalls : List (Call × ExternalFunction) :=
  let controller : Controller :=
    { isInitialized := true, sets := [2], isSet := fun account => account = 2,
      isFactory := fun _ => false, isModule := fun account => account = 4,
      fees := fun _ _ => 0, feeRecipient := 9 }
  [(⟨controller, 4⟩, .initializeModule), (⟨controller, 4⟩, .lock)]

/-- Module 4 is initialized and locks the Set. -/
theorem lifecycle_run_locked :
    let reached := run ExternalFunction.apply (SetToken.construct 2 [3] [10 ^ 18] [4] 5)
      sampleCalls
    reached.isLocked = true ∧ reached.moduleStates reached.locker = .initialized := by
  have locked : (run ExternalFunction.apply (SetToken.construct 2 [3] [10 ^ 18] [4] 5)
      sampleCalls).isLocked = true := by decide +kernel
  refine ⟨locked, (lifecycle_run 2 [3] [10 ^ 18] [4] 5 sampleCalls fun call member => ?_).2.1
    locked⟩
  rcases List.mem_cons.mp member with rfl | member
  · decide
  · obtain rfl := List.mem_singleton.mp member
    decide

/-! ### A locked Set -/

/-- What may have changed of a locked Set: balances, allowances, and absent modules that became
pending. -/
structure SetToken.Untouched (start setToken : SetToken) : Prop where
  frame : ∃ balances allowances states, setToken = { start with
    balanceOf := balances, allowance := allowances, moduleStates := states }
  moduleStates : ∀ module, setToken.moduleStates module = start.moduleStates module ∨
    start.moduleStates module = .none ∧ setToken.moduleStates module = .pending

namespace SetToken.Untouched

variable {start setToken next : SetToken} {call : Call}

theorem refl (start : SetToken) : Untouched start start :=
  ⟨⟨start.balanceOf, start.allowance, start.moduleStates, rfl⟩, fun _ => Or.inl rfl⟩

/-- While the Set is locked, a call by another account than the locker touches nothing. -/
theorem effect (kept : Untouched start setToken) (locked : start.isLocked = true)
    (other : call.sender ≠ start.locker) (effect : Effect call setToken next) :
    Untouched start next := by
  obtain ⟨⟨balances, allowances, states, stored⟩, before⟩ := kept
  have isLocked : setToken.isLocked = true := by rw [stored]; exact locked
  have locker : setToken.locker = start.locker := by rw [stored]
  have notUnlocked : setToken.isLocked ≠ false := by rw [isLocked]; simp
  cases effect with
  | privileged allowed same => exact absurd ((allowed.2 isLocked).trans locker) other
  | transferred balances allowances =>
    exact ⟨⟨balances, allowances, states, by rw [stored]⟩, before⟩
  | locked initialized unlocked => exact absurd unlocked notUnlocked
  | unlocked _ held => exact absurd (held.symm.trans locker) other
  | moduleAdded module absent =>
    refine ⟨⟨balances, allowances, _, by rw [stored]⟩, fun queried => ?_⟩
    show Function.update setToken.moduleStates module .pending queried = _ ∨
      _ ∧ Function.update setToken.moduleStates module .pending queried = _
    rcases eq_or_ne queried module with rfl | different
    · rw [Function.update_self]
      rcases before queried with same | ⟨_, pending⟩
      · exact Or.inr ⟨same ▸ absent, rfl⟩
      · exact absurd (absent.symm.trans pending) (by simp)
    · rw [Function.update_of_ne different]
      exact before queried
  | moduleRemoved module unlocked modules erased => exact absurd unlocked notUnlocked
  | pendingModuleRemoved module unlocked pending => exact absurd unlocked notUnlocked
  | moduleInitialized unlocked pending => exact absurd unlocked notUnlocked
  | managerSet manager unlocked => exact absurd unlocked notUnlocked

end SetToken.Untouched

/-- Over any sequence of calls by accounts other than the locker of a locked Set, nothing of the
Set changes but balances, allowances, and the states of absent modules, which may become
pending. -/
theorem locked_run (start : SetToken) (locked : start.isLocked = true)
    (calls : List (Call × ExternalFunction))
    (others : ∀ call ∈ calls, call.1.sender ≠ start.locker) :
    let reached := run ExternalFunction.apply start calls
    (∃ balances allowances states, reached = { start with
      balanceOf := balances, allowance := allowances, moduleStates := states }) ∧
    ∀ module, reached.moduleStates module = start.moduleStates module ∨
      start.moduleStates module = .none ∧ reached.moduleStates module = .pending := by
  intro reached
  have kept : start.Untouched reached :=
    run_invariant ExternalFunction.apply start.Untouched
      (fun call => call.1.sender ≠ start.locker)
      (fun _ call _ other holds returned =>
        holds.effect locked other (ExternalFunction.apply_effect call.2 returned))
      calls others start (SetToken.Untouched.refl start)
  exact ⟨kept.frame, kept.moduleStates⟩

/-- The manager adds module 6 to the Set that module 4 has locked, and cannot be replaced. -/
theorem locked_run_manager :
    let start := run ExternalFunction.apply (SetToken.construct 2 [3] [10 ^ 18] [4] 5) sampleCalls
    let controller : Controller :=
      { isInitialized := true, sets := [2], isSet := fun account => account = 2,
        isFactory := fun _ => false, isModule := fun account => account = 4 ∨ account = 6,
        fees := fun _ _ => 0, feeRecipient := 9 }
    let reached := run ExternalFunction.apply start
      [(⟨controller, 5⟩, .addModule 6), (⟨controller, 5⟩, .setManager 7)]
    ∃ balances allowances states, reached = { start with
      balanceOf := balances, allowance := allowances, moduleStates := states } := by
  intro start controller reached
  have locker : start.locker = 4 := by decide +kernel
  refine (locked_run start (by decide +kernel)
    [(⟨controller, 5⟩, .addModule 6), (⟨controller, 5⟩, .setManager 7)] fun call member => ?_).1
  rw [locker]
  rcases List.mem_cons.mp member with rfl | member
  · decide
  · obtain rfl := List.mem_singleton.mp member
    decide

end IndexProtocol

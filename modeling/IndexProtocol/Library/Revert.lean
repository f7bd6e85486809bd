/-
This file collects the rules for computations that may revert. A call either
returns a value or reverts with a reason; a transaction that reverts leaves the
state as it was. A run is a list of transactions executed in order, whatever
each of them does, so a property of every reachable state is an invariant that
every successful call preserves. The file proves that once, for any state and
any call, together with the inversion rules that take a returned computation
apart and the rules for loops over a list.
-/

import Mathlib.Data.List.Induction
import Mathlib.Order.Basic

namespace Revert

/-- The outcome of a call: a returned value, or the reason it reverted. -/
abbrev Outcome (Value : Type) := Except String Value

/-- Revert with the reason unless the condition holds. -/
def require (condition : Prop) [Decidable condition] (reason : String) : Outcome Unit :=
  if condition then .ok () else .error reason

/-! ### Inversion -/

section Inversion

variable {First Second : Type}

/-- A sequence returns exactly when its first call returns and the rest returns on that
value. -/
@[simp] theorem bind_eq_ok (first : Outcome First) (rest : First → Outcome Second)
    (result : Second) :
    first >>= rest = .ok result ↔ ∃ value, first = .ok value ∧ rest value = .ok result := by
  cases first <;> simp [Bind.bind, Except.bind]

@[simp] theorem pure_eq_ok (value result : First) :
    (pure value : Outcome First) = .ok result ↔ value = result := by
  simp [pure, Except.pure]

@[simp] theorem map_eq_ok (function : First → Second) (call : Outcome First) (result : Second) :
    function <$> call = .ok result ↔ ∃ value, call = .ok value ∧ function value = result := by
  cases call <;> simp [Functor.map, Except.map]

@[simp] theorem error_ne_ok (reason : String) (result : First) :
    ((.error reason : Outcome First) = .ok result) = False := by
  simp

@[simp] theorem require_eq_ok (condition : Prop) [Decidable condition] (reason : String)
    (done : Unit) : require condition reason = .ok done ↔ condition := by
  unfold require
  split <;> simp_all

theorem ok_bind (value : First) (rest : First → Outcome Second) :
    (.ok value : Outcome First) >>= rest = rest value := rfl

theorem error_bind (reason : String) (rest : First → Outcome Second) :
    (.error reason : Outcome First) >>= rest = .error reason := rfl

end Inversion

/-- Whether a call returned a value that passes a test. -/
def returns {Value : Type} (call : Outcome Value) (test : Value → Bool) : Bool :=
  match call with
  | .ok value => test value
  | .error _ => false

theorem exists_of_returns {Value : Type} {call : Outcome Value} {test : Value → Bool}
    (returned : returns call test = true) : ∃ value, call = .ok value ∧ test value = true := by
  cases call with
  | ok value => exact ⟨value, rfl, returned⟩
  | error reason => exact absurd returned Bool.false_ne_true

/-- The entry of an array at an index. Reading past the end reverts. -/
def readAt {Value : Type} (values : List Value) (index : Nat) : Outcome Value :=
  match values[index]? with
  | some value => .ok value
  | none => .error "invalid opcode"

@[simp] theorem readAt_eq_ok {Value : Type} (values : List Value) (index : Nat) (value : Value) :
    readAt values index = .ok value ↔ values[index]? = some value := by
  unfold readAt
  cases values[index]? <;> simp

/-! ### Loops -/

section Loops

variable {State Item : Type} (body : State → Item → Outcome State)

/-- What the body of a loop preserves, at each item of the list, the whole loop preserves. -/
theorem foldlM_invariant (invariant : State → Prop) (items : List Item)
    (preserved : ∀ state item next, item ∈ items → invariant state →
      body state item = .ok next → invariant next) :
    ∀ state final, invariant state → items.foldlM body state = .ok final → invariant final := by
  induction items with
  | nil =>
    intro state final holds returned
    rw [List.foldlM_nil, pure_eq_ok] at returned
    exact returned ▸ holds
  | cons item rest inductionHypothesis =>
    intro state final holds returned
    rw [List.foldlM_cons, bind_eq_ok] at returned
    obtain ⟨next, first, remaining⟩ := returned
    exact inductionHypothesis
      (fun state other next member => preserved state other next (List.mem_cons_of_mem _ member))
      next final (preserved state item next List.mem_cons_self holds first) remaining

/-- What holds of the items that were seen and the state, and is kept as the next item is seen,
holds of all items at the end. -/
theorem foldlM_seen (invariant : List Item → State → Prop) (items : List Item)
    {state final : State} (holds : invariant [] state)
    (step : ∀ seen item rest state next, items = seen ++ item :: rest → invariant seen state →
      body state item = .ok next → invariant (seen ++ [item]) next)
    (returned : items.foldlM body state = .ok final) : invariant items final := by
  suffices unseen : ∀ rest seen state, items = seen ++ rest → invariant seen state →
      rest.foldlM body state = .ok final → invariant items final from
    unseen items [] state rfl holds returned
  intro rest
  induction rest with
  | nil =>
    intro seen state split held returned
    rw [List.foldlM_nil, pure_eq_ok] at returned
    rw [split, List.append_nil]
    exact returned ▸ held
  | cons item rest inductionHypothesis =>
    intro seen state split held returned
    rw [List.foldlM_cons, bind_eq_ok] at returned
    obtain ⟨next, first, remaining⟩ := returned
    refine inductionHypothesis (seen ++ [item]) next ?_ ?_ remaining
    · rw [split, List.append_assoc, List.singleton_append]
    · exact step seen item rest state next split held first

/-- A loop whose body establishes a property of its item and keeps the properties of the other
items ends with the property of every item. -/
theorem foldlM_establishes (invariant : State → Prop) (holds : Item → State → Prop)
    (items : List Item)
    (each : ∀ state item next, invariant state → body state item = .ok next →
      invariant next ∧ holds item next ∧ ∀ other, other ≠ item → holds other state →
        holds other next) :
    ∀ state final, invariant state → items.foldlM body state = .ok final →
      invariant final ∧ (∀ item ∈ items, holds item final) ∧
        ∀ other, holds other state → holds other final := by
  induction items with
  | nil =>
    intro state final start returned
    rw [List.foldlM_nil, pure_eq_ok] at returned
    exact returned ▸ ⟨start, fun item member => absurd member List.not_mem_nil, fun _ held => held⟩
  | cons item rest inductionHypothesis =>
    intro state final start returned
    rw [List.foldlM_cons, bind_eq_ok] at returned
    obtain ⟨next, first, remaining⟩ := returned
    obtain ⟨kept, established, others⟩ := each state item next start first
    obtain ⟨atEnd, listed, unchanged⟩ := inductionHypothesis next final kept remaining
    refine ⟨atEnd, fun other member => ?_, fun other held => ?_⟩
    · rcases List.mem_cons.mp member with rfl | member
      · exact unchanged _ established
      · exact listed other member
    · by_cases same : other = item
      · exact unchanged other (same ▸ established)
      · exact unchanged other (others other same held)

/-- A loop of checks returns exactly when the check of every item does. -/
theorem forM_eq_ok (check : Item → Outcome Unit) (items : List Item) (done : Unit) :
    items.forM check = .ok done ↔ ∀ item ∈ items, check item = .ok () := by
  induction items with
  | nil => simp
  | cons item rest inductionHypothesis =>
    rw [show (item :: rest).forM check = check item >>= fun _ => rest.forM check from rfl,
      bind_eq_ok, List.forall_mem_cons, ← inductionHypothesis]
    exact ⟨fun ⟨_, first, remaining⟩ => ⟨first, remaining⟩,
      fun ⟨first, remaining⟩ => ⟨_, first, remaining⟩⟩

/-- A map over a list returns the results of its items, in order. -/
theorem mapM_eq_ok {Result : Type} (function : Item → Outcome Result) (items : List Item) :
    ∀ results, items.mapM function = .ok results →
      List.Forall₂ (fun item result => function item = .ok result) items results := by
  induction items with
  | nil =>
    intro results returned
    rw [List.mapM_nil, pure_eq_ok] at returned
    exact returned ▸ List.Forall₂.nil
  | cons item rest inductionHypothesis =>
    intro results returned
    simp only [List.mapM_cons, bind_eq_ok, pure_eq_ok] at returned
    obtain ⟨result, first, others, remaining, rfl⟩ := returned
    exact List.Forall₂.cons first (inductionHypothesis others remaining)

/-- A map whose function, when it returns, computes another one is the map of that one. -/
theorem mapM_eq_map {Result : Type} {function : Item → Outcome Result} (exact : Item → Result)
    (computes : ∀ item result, function item = .ok result → result = exact item)
    (items : List Item) :
    ∀ results, items.mapM function = .ok results → results = items.map exact := by
  induction items with
  | nil =>
    intro results returned
    rw [List.mapM_nil, pure_eq_ok] at returned
    exact returned.symm
  | cons item rest inductionHypothesis =>
    intro results returned
    simp only [List.mapM_cons, bind_eq_ok, pure_eq_ok] at returned
    obtain ⟨result, first, others, remaining, rfl⟩ := returned
    rw [List.map_cons, computes item result first, inductionHypothesis others remaining]

/-- A map whose function returns another one's value under a condition returns the map of that
one exactly when every item meets the condition. -/
theorem mapM_eq_ok_iff {Result : Type} {function : Item → Outcome Result} {exact : Item → Result}
    {condition : Item → Prop}
    (computes : ∀ item result, function item = .ok result ↔ condition item ∧ exact item = result)
    (items : List Item) :
    ∀ results, items.mapM function = .ok results ↔
      (∀ item ∈ items, condition item) ∧ items.map exact = results := by
  induction items with
  | nil => simp
  | cons item rest inductionHypothesis =>
    intro results
    simp only [List.mapM_cons, bind_eq_ok, pure_eq_ok, computes, inductionHypothesis,
      List.forall_mem_cons, List.map_cons]
    constructor
    · rintro ⟨_, ⟨first, rfl⟩, _, ⟨others, rfl⟩, rfl⟩
      exact ⟨⟨first, others⟩, rfl⟩
    · rintro ⟨⟨first, others⟩, rfl⟩
      exact ⟨_, ⟨first, rfl⟩, _, ⟨others, rfl⟩, rfl⟩

/-- Every item of a list related to another is paired with an item it is related to. -/
theorem exists_mem_zip {Result : Type} {relation : Item → Result → Prop} {items : List Item}
    {results : List Result} (related : List.Forall₂ relation items results) :
    ∀ item ∈ items, ∃ result, relation item result ∧ (item, result) ∈ items.zip results := by
  induction related with
  | nil => exact fun item member => absurd member List.not_mem_nil
  | cons first _ inductionHypothesis =>
    intro item member
    rcases List.mem_cons.mp member with rfl | member
    · exact ⟨_, first, List.mem_cons_self⟩
    · obtain ⟨result, holds, paired⟩ := inductionHypothesis item member
      exact ⟨result, holds, List.mem_cons_of_mem _ paired⟩

/-- A loop whose body, when it returns, computes a function of a view of the state ends with the
fold of that function in view. -/
theorem foldlM_view {View : Type} (view : State → View) (function : View → Item → View)
    (computes : ∀ state item next, body state item = .ok next →
      view next = function (view state) item) (items : List Item) :
    ∀ state final, items.foldlM body state = .ok final →
      view final = items.foldl function (view state) := by
  induction items with
  | nil => exact fun state final returned => congrArg view ((pure_eq_ok _ _).mp returned).symm
  | cons item rest inductionHypothesis =>
    intro state final returned
    rw [List.foldlM_cons, bind_eq_ok] at returned
    obtain ⟨next, first, remaining⟩ := returned
    rw [List.foldl_cons, ← computes state item next first]
    exact inductionHypothesis next final remaining

/-- A loop whose body, when it returns, computes a function is the fold of that function. -/
theorem foldlM_eq_foldl (function : State → Item → State)
    (computes : ∀ state item next, body state item = .ok next → next = function state item)
    (items : List Item) :
    ∀ state final, items.foldlM body state = .ok final → final = items.foldl function state :=
  foldlM_view body id function computes items

/-- A loop whose body never raises the state and brings it below a bound for its item ends
below the bound of every item. -/
theorem foldlM_descending [Preorder State] (bound : Item → State → Prop)
    (lowers : ∀ state item next, body state item = .ok next → next ≤ state ∧ bound item next)
    (antitone : ∀ item low high, low ≤ high → bound item high → bound item low)
    (items : List Item) :
    ∀ state final, items.foldlM body state = .ok final →
      final ≤ state ∧ ∀ item ∈ items, bound item final := by
  induction items with
  | nil =>
    intro state final returned
    rw [List.foldlM_nil, pure_eq_ok] at returned
    exact ⟨returned ▸ le_rfl, fun item member => absurd member List.not_mem_nil⟩
  | cons item rest inductionHypothesis =>
    intro state final returned
    rw [List.foldlM_cons, bind_eq_ok] at returned
    obtain ⟨next, first, remaining⟩ := returned
    obtain ⟨below, each⟩ := inductionHypothesis next final remaining
    obtain ⟨lowered, bounded⟩ := lowers state item next first
    refine ⟨below.trans lowered, fun other member => ?_⟩
    rcases List.mem_cons.mp member with rfl | member
    · exact antitone other final next below bounded
    · exact each other member

end Loops

/-! ### Transactions and runs -/

section Runs

variable {State Action Event : Type} (step : State → Action → Outcome State)

/-- One transaction: a call that reverts leaves the state as it was. -/
def attempt (state : State) (action : Action) : State :=
  match step state action with
  | .ok next => next
  | .error _ => state

/-- A finite sequence of transactions. -/
def run (state : State) (actions : List Action) : State := actions.foldl (attempt step) state

@[simp] theorem run_nil (state : State) : run step state [] = state := rfl

@[simp] theorem run_cons (state : State) (action : Action) (rest : List Action) :
    run step state (action :: rest) = run step (attempt step state action) rest := rfl

theorem run_append (state : State) (first second : List Action) :
    run step state (first ++ second) = run step (run step state first) second :=
  List.foldl_append

theorem attempt_eq_of_ok {state next : State} {action : Action}
    (returned : step state action = .ok next) : attempt step state action = next := by
  unfold attempt
  rw [returned]

/-- A property that every successful call preserves is preserved by a transaction. -/
theorem attempt_invariant (invariant : State → Prop) {state : State} {action : Action}
    (preserved : ∀ next, step state action = .ok next → invariant next)
    (holds : invariant state) : invariant (attempt step state action) := by
  unfold attempt
  split
  · exact preserved _ ‹_›
  · exact holds

/-- An invariant of the allowed calls holds in every state a run of allowed calls reaches. -/
theorem run_invariant (invariant : State → Prop) (allowed : Action → Prop)
    (preserved : ∀ state action next, allowed action → invariant state →
      step state action = .ok next → invariant next)
    (actions : List Action) (permitted : ∀ action ∈ actions, allowed action) :
    ∀ state, invariant state → invariant (run step state actions) := by
  induction actions with
  | nil => exact fun _ holds => holds
  | cons action rest inductionHypothesis =>
    intro state holds
    rw [run_cons]
    refine inductionHypothesis (fun other member => permitted other (List.mem_cons_of_mem _ member))
      _ ?_
    exact attempt_invariant step invariant
      (fun next returned =>
        preserved state action next (permitted action List.mem_cons_self) holds returned) holds

/-- A property that every successful call meeting a condition preserves holds in every state of a
run whose successful calls all meet it in the state they find. -/
theorem run_invariant_of_met (invariant : State → Prop) (condition : State → Action → Prop)
    (preserved : ∀ state action next, invariant state → condition state action →
      step state action = .ok next → invariant next)
    {start : State} (holds : invariant start) {actions : List Action}
    (met : ∀ front action next, front ++ [action] <+: actions →
      step (run step start front) action = .ok next → condition (run step start front) action)
    (front : List Action) (within : front <+: actions) : invariant (run step start front) := by
  induction front using List.reverseRecOn with
  | nil => exact holds
  | append_singleton earlier action inductionHypothesis =>
    have before := inductionHypothesis ((List.prefix_append _ _).trans within)
    rw [run_append, run_cons, run_nil]
    exact attempt_invariant step invariant (fun next returned =>
      preserved _ action next before (met earlier action next within returned) returned) before

/-- Where every call that returns from a sound state decides by a condition whether a property
holds after it, and meeting the condition leaves a sound state, the property holds in every state
of a run exactly when every call that returns meets the condition in the state it finds. -/
theorem run_holds_iff (sound holds : State → Prop) (condition : State → Action → Prop)
    (decided : ∀ state action next, sound state → step state action = .ok next →
      (holds next ↔ condition state action) ∧ (condition state action → sound next))
    {start : State} (soundStart : sound start) (holdsStart : holds start) (actions : List Action) :
    (∀ front, front <+: actions → holds (run step start front)) ↔
      ∀ front action next, front ++ [action] <+: actions →
        step (run step start front) action = .ok next →
          condition (run step start front) action := by
  constructor
  · intro always
    -- As long as the property holds the states are sound, which is what the next call needs.
    have reached : ∀ front, front <+: actions → sound (run step start front) := by
      intro front
      induction front using List.reverseRecOn with
      | nil => exact fun _ => soundStart
      | append_singleton earlier action inductionHypothesis =>
        intro within
        have before := inductionHypothesis ((List.prefix_append _ _).trans within)
        have after := always (earlier ++ [action]) within
        rw [run_append, run_cons, run_nil] at after ⊢
        refine attempt_invariant step sound (fun next returned => ?_) before
        obtain ⟨decides, keeps⟩ := decided _ _ _ before returned
        rw [attempt_eq_of_ok step returned] at after
        exact keeps (decides.mp after)
    intro front action next within returned
    have before := reached front ((List.prefix_append _ _).trans within)
    have after := always (front ++ [action]) within
    rw [run_append, run_cons, run_nil, attempt_eq_of_ok step returned] at after
    exact (decided _ _ _ before returned).1.mp after
  · intro met front within
    refine (run_invariant_of_met step (fun state => sound state ∧ holds state) condition
      (fun state action next before meets returned => ?_) ⟨soundStart, holdsStart⟩ met front
      within).2
    obtain ⟨decides, keeps⟩ := decided state action next before.1 returned
    exact ⟨keeps meets, decides.mpr meets⟩

/-- Where every call that returns decides by a condition whether a property is kept, the
property holds in every state of a run exactly when every call that returns meets the condition
in the state it finds. -/
theorem run_keeps_iff (sound kept : State → Prop) (condition : State → Action → Prop)
    (preserved : ∀ state action next, sound state → step state action = .ok next → sound next)
    (decided : ∀ state action next, sound state → kept state → step state action = .ok next →
      (kept next ↔ condition state action))
    {start : State} (soundStart : sound start) (keptStart : kept start) (actions : List Action) :
    (∀ front, front <+: actions → kept (run step start front)) ↔
      ∀ front action next, front ++ [action] <+: actions →
        step (run step start front) action = .ok next →
          condition (run step start front) action := by
  refine run_holds_iff step (fun state => sound state ∧ kept state) kept condition
    (fun state action next both returned => ?_) ⟨soundStart, keptStart⟩ keptStart actions
  have decides := decided state action next both.1 both.2 returned
  exact ⟨decides, fun meets =>
    ⟨preserved state action next both.1 returned, decides.mpr meets⟩⟩

/-! ### Runs of given calls -/

section GivenCalls

variable {step} {met : List Action → Action → State → Prop} {start : State}

theorem met_nil : ∀ front action next, front ++ [action] <+: [] →
    step (run step start front) action = .ok next → met front action next := by
  intro front action _ within
  exact absurd (List.prefix_nil.mp within) (List.append_ne_nil_of_right_ne_nil front (by simp))

/-- What is asked of the calls of a run is met when the first call meets it and, from the state
that one leaves, the rest do. -/
theorem met_cons {first : Action} {rest : List Action}
    (now : ∀ next, step start first = .ok next → met [] first next)
    (later : ∀ front action next, front ++ [action] <+: rest →
      step (run step (attempt step start first) front) action = .ok next →
        met (first :: front) action next) :
    ∀ front action next, front ++ [action] <+: first :: rest →
      step (run step start front) action = .ok next → met front action next := by
  intro front action next within returned
  cases front with
  | nil =>
    obtain rfl := (List.cons_prefix_cons.mp within).1
    exact now next returned
  | cons head others =>
    obtain ⟨rfl, remaining⟩ := List.cons_prefix_cons.mp within
    exact later others action next remaining returned

end GivenCalls

/-! ### Recorded runs -/

variable (observe : State → Action → List Event)

/-- The step that also records the events of every call that returns, the newest first. -/
def recorded (recording : State × List Event) (action : Action) : Outcome (State × List Event) := do
  let next ← step recording.1 action
  pure (next, observe recording.1 action ++ recording.2)

/-- An invariant of states and recorded events holds along a run when every call that returns
keeps it. -/
theorem run_recorded_invariant (invariant : State × List Event → Prop)
    (preserved : ∀ state events action next, invariant (state, events) →
      step state action = .ok next → invariant (next, observe state action ++ events))
    (actions : List Action) {start : State × List Event} (holds : invariant start) :
    invariant (run (recorded step observe) start actions) := by
  refine run_invariant (recorded step observe) invariant (fun _ => True) ?_ actions
    (fun _ _ => trivial) start holds
  intro recording action after _ kept returned
  simp only [recorded, bind_eq_ok, pure_eq_ok] at returned
  obtain ⟨next, stepped, rfl⟩ := returned
  exact preserved _ _ action next kept stepped

/-- Recording the events does not change the states a run goes through. -/
theorem run_recorded_fst (actions : List Action) :
    ∀ recording : State × List Event,
      (run (recorded step observe) recording actions).1 = run step recording.1 actions := by
  induction actions with
  | nil => exact fun _ => rfl
  | cons action rest inductionHypothesis =>
    intro recording
    rw [run_cons, run_cons, inductionHypothesis]
    refine congrArg (fun state => run step state rest) ?_
    unfold attempt recorded
    cases step recording.1 action <;> rfl

end Runs

end Revert

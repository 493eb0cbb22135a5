/-! # Transition systems with executable steps

A system is a start state and a partial step function: an action is one atomic
step of one party together with the environment's choices in it, and a step
that is not enabled returns `none`. Runs may be restricted by a predicate on
the state before a step and the action taken there.
-/

namespace IoGateway

structure TransitionSystem (State : Type u) (Action : Type v) where
  start : State
  step : State → Action → Option State

namespace TransitionSystem

variable {State : Type u} {Action : Type v}

def Always (_ : State) (_ : Action) : Prop := True

/-- Some run from `origin` to the indexed state takes only allowed steps. -/
inductive Reaches (system : TransitionSystem State Action)
    (allowed : State → Action → Prop) (origin : State) : State → Prop
  | refl : Reaches system allowed origin origin
  | step {state next : State} {action : Action}
      (earlier : Reaches system allowed origin state)
      (permitted : allowed state action)
      (stepped : system.step state action = some next) :
      Reaches system allowed origin next

/-- The states of the runs from the start state that take only allowed steps. -/
abbrev ReachableUnder (system : TransitionSystem State Action)
    (allowed : State → Action → Prop) : State → Prop :=
  system.Reaches allowed system.start

abbrev Reachable (system : TransitionSystem State Action) : State → Prop :=
  system.ReachableUnder Always

/-- Execute a list of actions, stopping with `none` at one that is not enabled. -/
def run (system : TransitionSystem State Action) : State → List Action → Option State
  | state, [] => some state
  | state, action :: rest =>
      (system.step state action).bind fun next => system.run next rest

/-- Execute a list of actions while each of them passes a check in the state
it is taken from. -/
def runChecked (system : TransitionSystem State Action) (check : State → Action → Bool) :
    State → List Action → Option State
  | state, [] => some state
  | state, action :: rest =>
      if check state action then
        (system.step state action).bind fun next => system.runChecked check next rest
      else
        none

variable {system : TransitionSystem State Action}
variable {allowed weaker : State → Action → Prop}

theorem Reaches.trans {origin middle final : State}
    (first : system.Reaches allowed origin middle)
    (second : system.Reaches allowed middle final) :
    system.Reaches allowed origin final := by
  induction second with
  | refl => exact first
  | step _ permitted stepped induction => exact .step induction permitted stepped

theorem Reaches.mono {origin final : State}
    (reaches : system.Reaches allowed origin final)
    (weaken : ∀ state action, allowed state action → weaker state action) :
    system.Reaches weaker origin final := by
  induction reaches with
  | refl => exact .refl
  | step _ permitted stepped induction =>
      exact .step induction (weaken _ _ permitted) stepped

theorem Reaches.always {origin final : State}
    (reaches : system.Reaches allowed origin final) :
    system.Reaches Always origin final :=
  reaches.mono fun _ _ _ => trivial

/-- A property kept by every allowed step is kept by every run. -/
theorem Reaches.invariant {Invariant : State → Prop} {origin final : State}
    (reaches : system.Reaches allowed origin final)
    (initially : Invariant origin)
    (preserved : ∀ state action next, Invariant state → allowed state action →
      system.step state action = some next → Invariant next) :
    Invariant final := by
  induction reaches with
  | refl => exact initially
  | step _ permitted stepped induction =>
      exact preserved _ _ _ induction permitted stepped

/-- As `Reaches.invariant`, for runs whose origin is reachable: the step case
may use that the state before the step is reachable. -/
theorem ReachableUnder.invariant {Invariant : State → Prop} {final : State}
    (reachable : system.ReachableUnder allowed final)
    (initially : Invariant system.start)
    (preserved : ∀ state action next, system.ReachableUnder allowed state →
      Invariant state → allowed state action →
      system.step state action = some next → Invariant next) :
    Invariant final := by
  induction reachable with
  | refl => exact initially
  | step earlier permitted stepped induction =>
      exact preserved _ _ _ earlier induction permitted stepped

theorem reaches_of_runChecked {check : State → Action → Bool} :
    ∀ {actions : List Action} {state final : State},
      system.runChecked check state actions = some final →
      system.Reaches (fun state action => check state action = true) state final
  | [], state, final, executed => by
      cases Option.some.inj executed
      exact .refl
  | action :: rest, state, final, executed => by
      unfold runChecked at executed
      split at executed
      · rename_i passed
        rcases Option.bind_eq_some_iff.mp executed with ⟨next, stepped, executed⟩
        exact Reaches.trans (.step .refl passed stepped) (reaches_of_runChecked executed)
      · cases executed

/-- A state with a decidable property, found by executing a list of actions. -/
theorem exists_reaches_of_runChecked {check : State → Action → Bool} {found : State → Bool}
    {actions : List Action} {state : State}
    (executed : (system.runChecked check state actions).any found = true) :
    ∃ final, system.Reaches (fun state action => check state action = true) state final ∧
      found final = true := by
  rcases (Option.any_eq_true_iff_get _ _).mp executed with ⟨complete, passed⟩
  exact ⟨_, reaches_of_runChecked (Option.some_get complete).symm, passed⟩

theorem reaches_of_run :
    ∀ {actions : List Action} {state final : State},
      system.run state actions = some final → system.Reaches Always state final
  | [], state, final, executed => by
      cases Option.some.inj executed
      exact .refl
  | action :: rest, state, final, executed => by
      rcases Option.bind_eq_some_iff.mp executed with ⟨next, stepped, executed⟩
      exact Reaches.trans (.step .refl trivial stepped) (reaches_of_run executed)

theorem run_append (system : TransitionSystem State Action) (first second : List Action) :
    ∀ state, system.run state (first ++ second) =
      (system.run state first).bind fun middle => system.run middle second := by
  induction first with
  | nil => intro state; rfl
  | cons action rest induction =>
      intro state
      simp only [List.cons_append, run, induction, Option.bind_assoc]

theorem exists_run_of_reaches {origin state : State}
    (reaches : system.Reaches allowed origin state) :
    ∃ actions, system.run origin actions = some state := by
  induction reaches with
  | refl => exact ⟨[], rfl⟩
  | @step _ _ action _ _ stepped induction =>
      rcases induction with ⟨actions, executed⟩
      refine ⟨actions ++ [action], ?_⟩
      rw [run_append, executed, Option.bind_some]
      exact Option.bind_eq_some_iff.mpr ⟨_, stepped, rfl⟩

/-! ## Histories

A run together with its steps, in the order in which they were taken.
-/

structure Occurrence (State : Type u) (Action : Type v) where
  before : State
  action : Action
  after : State

inductive History (system : TransitionSystem State Action)
    (allowed : State → Action → Prop) (origin : State) :
    List (Occurrence State Action) → State → Prop
  | start : History system allowed origin [] origin
  | step {steps : List (Occurrence State Action)} {state next : State} {action : Action}
      (earlier : History system allowed origin steps state)
      (permitted : allowed state action)
      (stepped : system.step state action = some next) :
      History system allowed origin (steps ++ [⟨state, action, next⟩]) next

theorem History.reaches {origin final : State} {steps : List (Occurrence State Action)}
    (history : system.History allowed origin steps final) :
    system.Reaches allowed origin final := by
  induction history with
  | start => exact .refl
  | step _ permitted stepped induction => exact .step induction permitted stepped

theorem History.stepped {origin final : State} {steps : List (Occurrence State Action)}
    (history : system.History allowed origin steps final) :
    ∀ step ∈ steps, system.step step.before step.action = some step.after := by
  induction history with
  | start => exact fun _ member => absurd member List.not_mem_nil
  | step _ _ stepped induction =>
      exact List.forall_mem_append.mpr ⟨induction, List.forall_mem_singleton.mpr stepped⟩

theorem History.always {origin final : State} {steps : List (Occurrence State Action)}
    (history : system.History allowed origin steps final) :
    system.History Always origin steps final := by
  induction history with
  | start => exact .start
  | step _ _ stepped induction => exact .step induction trivial stepped

theorem History.of_concat {origin final : State} {steps : List (Occurrence State Action)}
    {last : Occurrence State Action}
    (history : system.History allowed origin (steps ++ [last]) final) :
    system.History allowed origin steps last.before ∧
      system.step last.before last.action = some last.after ∧ last.after = final := by
  generalize whole : steps ++ [last] = all at history
  cases history with
  | start => exact absurd whole (List.concat_ne_nil _ _)
  | step earlier _ stepped =>
      rcases List.append_inj' whole rfl with ⟨rfl, same⟩
      cases same
      exact ⟨earlier, stepped, rfl⟩

theorem History.split {origin final : State} {front back : List (Occurrence State Action)}
    (history : system.History allowed origin (front ++ back) final) :
    ∃ middle, system.History allowed origin front middle ∧
      system.History allowed middle back final := by
  generalize whole : front ++ back = all at history
  induction history generalizing back with
  | start =>
      rcases List.append_eq_nil_iff.mp whole with ⟨rfl, rfl⟩
      exact ⟨origin, .start, .start⟩
  | @step steps state next action earlier permitted stepped induction =>
      rcases List.eq_nil_or_concat back with rfl | ⟨before, last, rfl⟩
      · rw [List.append_nil] at whole
        subst whole
        exact ⟨next, .step earlier permitted stepped, .start⟩
      · rw [List.concat_eq_append] at whole ⊢
        rw [← List.append_assoc] at whole
        rcases List.append_inj' whole rfl with ⟨cut, same⟩
        cases same
        rcases induction cut with ⟨middle, first, second⟩
        exact ⟨middle, first, .step second permitted stepped⟩

theorem History.around {origin final : State} {front back : List (Occurrence State Action)}
    {step : Occurrence State Action}
    (history : system.History allowed origin (front ++ step :: back) final) :
    system.History allowed origin front step.before ∧
      system.step step.before step.action = some step.after ∧
      system.History allowed step.after back final := by
  rw [← List.singleton_append, ← List.append_assoc] at history
  rcases history.split with ⟨middle, first, second⟩
  rcases first.of_concat with ⟨before, stepped, rfl⟩
  exact ⟨before, stepped, second⟩

theorem History.append_run {check : State → Action → Bool} :
    ∀ {actions : List Action} {origin state final : State}
      {steps : List (Occurrence State Action)},
      system.History (fun state action => check state action = true) origin steps state →
      system.runChecked check state actions = some final →
      ∃ later, system.History (fun state action => check state action = true) origin
        (steps ++ later) final ∧ later.map Occurrence.action = actions
  | [], origin, state, final, steps, history, executed => by
      cases Option.some.inj executed
      exact ⟨[], by rwa [List.append_nil], rfl⟩
  | action :: rest, origin, state, final, steps, history, executed => by
      unfold runChecked at executed
      split at executed
      · rename_i passed
        rcases Option.bind_eq_some_iff.mp executed with ⟨next, stepped, executed⟩
        rcases (History.step history passed stepped).append_run executed with
          ⟨later, history, actions⟩
        refine ⟨⟨state, action, next⟩ :: later, ?_, by rw [List.map_cons, actions]⟩
        rwa [List.append_assoc] at history
      · cases executed

theorem exists_history_of_runChecked {check : State → Action → Bool} {found : State → Bool}
    {actions : List Action} {state : State}
    (executed : (system.runChecked check state actions).any found = true) :
    ∃ steps final,
      system.History (fun state action => check state action = true) state steps final ∧
      steps.map Occurrence.action = actions ∧ found final = true := by
  rcases (Option.any_eq_true_iff_get _ _).mp executed with ⟨complete, passed⟩
  rcases History.append_run .start (Option.some_get complete).symm with ⟨steps, history, taken⟩
  exact ⟨steps, _, history, taken, passed⟩

/-- It holds, or a step that is not exempt has ended it. -/
def Stands (exempt : Action → Prop) (holds : State → Prop)
    (steps : List (Occurrence State Action)) (state : State) : Prop :=
  holds state ∨ ∃ step ∈ steps, ¬ exempt step.action ∧ holds step.before ∧ ¬ holds step.after

theorem Stands.concat {exempt : Action → Prop} {holds : State → Prop}
    {steps : List (Occurrence State Action)} {state next : State} {action : Action}
    (stands : Stands exempt holds steps state)
    (kept : exempt action → holds state → holds next) :
    Stands exempt holds (steps ++ [⟨state, action, next⟩]) next := by
  rcases stands with now | ⟨step, member, ended⟩
  · by_cases still : holds next
    · exact .inl still
    · refine .inr ⟨⟨state, action, next⟩, by simp, ?_, now, still⟩
      intro own
      exact still (kept own now)
  · exact .inr ⟨step, List.mem_append_left _ member, ended⟩

/-! ## Commuting actions

When different actions commute wherever both are enabled, the order in which
they are taken decides nothing: one run to a state with no enabled action
determines how every run ends.
-/

def Commuting (system : TransitionSystem State Action) : Prop :=
  ∀ state first second afterFirst afterSecond, first ≠ second →
    system.step state first = some afterFirst →
    system.step state second = some afterSecond →
    ∃ joined, system.step afterFirst second = some joined ∧
      system.step afterSecond first = some joined

def Stuck (system : TransitionSystem State Action) (state : State) : Prop :=
  ∀ action, system.step state action = none

/-- Any enabled action may come first in a run to a stuck state. -/
theorem Commuting.advance (commuting : system.Commuting) {final : State}
    (stuck : system.Stuck final) {action : Action} :
    ∀ {actions : List Action} {state next : State},
      system.run state actions = some final → system.step state action = some next →
      ∃ rest, system.run next rest = some final ∧ rest.length + 1 = actions.length
  | [], state, next, executed, stepped => by
      cases Option.some.inj executed
      rw [stuck action] at stepped
      cases stepped
  | first :: later, state, next, executed, stepped => by
      rcases Option.bind_eq_some_iff.mp executed with ⟨middle, firstStepped, executed⟩
      by_cases same : first = action
      · subst same
        rw [stepped] at firstStepped
        cases firstStepped
        exact ⟨later, executed, rfl⟩
      · rcases commuting _ _ _ _ _ same firstStepped stepped with ⟨joined, second, swapped⟩
        rcases commuting.advance stuck executed second with ⟨rest, executed, length⟩
        refine ⟨first :: rest, ?_, congrArg (· + 1) length⟩
        simp only [run, swapped, Option.bind_some, executed]

/-- Every run can be extended to the end of one complete run, and in all they
take the same number of steps. -/
theorem Commuting.complete (commuting : system.Commuting) {final : State}
    (stuck : system.Stuck final) :
    ∀ {earlier actions : List Action} {origin state : State},
      system.run origin actions = some final → system.run origin earlier = some state →
      ∃ rest, system.run state rest = some final ∧
        earlier.length + rest.length = actions.length
  | [], actions, origin, state, executed, reached => by
      cases Option.some.inj reached
      exact ⟨actions, executed, Nat.zero_add _⟩
  | action :: later, actions, origin, state, executed, reached => by
      rcases Option.bind_eq_some_iff.mp reached with ⟨next, stepped, reached⟩
      rcases commuting.advance stuck executed stepped with ⟨remaining, executed, length⟩
      rcases commuting.complete stuck executed reached with ⟨rest, executed, total⟩
      refine ⟨rest, executed, ?_⟩
      simp only [List.length_cons]
      omega

end TransitionSystem

end IoGateway

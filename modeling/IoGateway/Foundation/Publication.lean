import IoGateway.Foundation.TransitionSystem
import Mathlib.Data.Fintype.Defs
import Mathlib.Logic.Function.Basic

/-! # Readings that are published after updates

A call updates a shared value, takes a reading of it, and publishes the reading on a
display. The calls of different tasks interleave between these three steps, so that the
reading that is published last need not be the one that was taken last.
-/

namespace IoGateway

structure Publication (Value : Type u) (Call : Type v) (Reading : Type w) (Display : Type x) where
  update : Value → Call → Value
  read : Value → Reading
  publish : Display → Reading → Display

namespace Publication

inductive Phase (Call : Type v) (Reading : Type w)
  | idle
  | begun (call : Call)
  | updated
  | holding (reading : Reading)
deriving DecidableEq

/-- The call has updated the value and is still to publish. -/
def Phase.pending : Phase Call Reading → Bool
  | .updated | .holding _ => true
  | _ => false

structure State (Task Value Call Reading Display : Type*) where
  value : Value
  display : Display
  phase : Task → Phase Call Reading

inductive Action (Task : Type u) (Call : Type v)
  | begin (task : Task) (call : Call)
  | update (task : Task)
  | read (task : Task)
  | publish (task : Task)

variable {Task Value Call Reading Display : Type*}

namespace Action

def task : Action Task Call → Task
  | .begin task _ | .update task | .read task | .publish task => task

def publishes : Action Task Call → Bool
  | .publish _ => true
  | _ => false

end Action

def step [DecidableEq Task] (publication : Publication Value Call Reading Display)
    (state : State Task Value Call Reading Display) :
    Action Task Call → Option (State Task Value Call Reading Display)
  | .begin task call =>
      match state.phase task with
      | .idle => some { state with phase := Function.update state.phase task (.begun call) }
      | _ => none
  | .update task =>
      match state.phase task with
      | .begun call =>
          some { state with
            value := publication.update state.value call
            phase := Function.update state.phase task .updated }
      | _ => none
  | .read task =>
      match state.phase task with
      | .updated =>
          some { state with
            phase := Function.update state.phase task (.holding (publication.read state.value)) }
      | _ => none
  | .publish task =>
      match state.phase task with
      | .holding reading =>
          some { state with
            display := publication.publish state.display reading
            phase := Function.update state.phase task .idle }
      | _ => none

def system [DecidableEq Task] (publication : Publication Value Call Reading Display) (value : Value)
    (display : Display) :
    TransitionSystem (State Task Value Call Reading Display) (Action Task Call) where
  start := ⟨value, display, fun _ => .idle⟩
  step := publication.step

def State.AtRest (state : State Task Value Call Reading Display) : Prop :=
  ∀ task, state.phase task = .idle

instance [Fintype Task] [DecidableEq Call] [DecidableEq Reading]
    (state : State Task Value Call Reading Display) : Decidable state.AtRest :=
  inferInstanceAs (Decidable (∀ _, _))

abbrev Step (Task Value Call Reading Display : Type*) : Type _ :=
  TransitionSystem.Occurrence (State Task Value Call Reading Display) (Action Task Call)

/-- The step in which a task has taken its latest reading, with no step of its own since. -/
def LastRead (steps : List (Step Task Value Call Reading Display)) (task : Task)
    (read : Step Task Value Call Reading Display) : Prop :=
  ∃ front back, steps = front ++ read :: back ∧ read.action = .read task ∧
    ∀ step ∈ back, step.action.task ≠ task

/-- The last publication of a run, and the step in which its reading was taken. -/
def LastPublished (steps : List (Step Task Value Call Reading Display)) (task : Task)
    (read write : Step Task Value Call Reading Display) : Prop :=
  ∃ front back, steps = front ++ write :: back ∧ write.action = .publish task ∧
    LastRead front task read ∧ ∀ step ∈ back, step.action.publishes = false

/-! ## The latest steps of a run -/

variable {steps : List (Step Task Value Call Reading Display)} {task : Task}
  {step read write : Step Task Value Call Reading Display}

theorem LastRead.concat (last : LastRead steps task read) (other : step.action.task ≠ task) :
    LastRead (steps ++ [step]) task read := by
  rcases last with ⟨front, back, rfl, reads, others⟩
  refine ⟨front, back ++ [step], by simp, reads, ?_⟩
  exact List.forall_mem_append.mpr ⟨others, List.forall_mem_singleton.mpr other⟩

theorem LastPublished.concat (last : LastPublished steps task read write)
    (unpublished : step.action.publishes = false) :
    LastPublished (steps ++ [step]) task read write := by
  rcases last with ⟨front, back, rfl, writes, lastRead, later⟩
  refine ⟨front, back ++ [step], by simp, writes, lastRead, ?_⟩
  exact List.forall_mem_append.mpr ⟨later, List.forall_mem_singleton.mpr unpublished⟩

/-! ## Steps -/

variable [DecidableEq Task]

variable {publication : Publication Value Call Reading Display}
  {state next : State Task Value Call Reading Display} {action : Action Task Call}

inductive Transition (publication : Publication Value Call Reading Display)
    (state : State Task Value Call Reading Display) :
    Action Task Call → State Task Value Call Reading Display → Prop
  | begin {task : Task} {call : Call} (idle : state.phase task = .idle) :
      Transition publication state (.begin task call)
        { state with phase := Function.update state.phase task (.begun call) }
  | update {task : Task} {call : Call} (begun : state.phase task = .begun call) :
      Transition publication state (.update task)
        { state with
          value := publication.update state.value call
          phase := Function.update state.phase task .updated }
  | read {task : Task} (updated : state.phase task = .updated) :
      Transition publication state (.read task)
        { state with
          phase := Function.update state.phase task (.holding (publication.read state.value)) }
  | publish {task : Task} {reading : Reading} (holding : state.phase task = .holding reading) :
      Transition publication state (.publish task)
        { state with
          display := publication.publish state.display reading
          phase := Function.update state.phase task .idle }

theorem transition_of_step (stepped : publication.step state action = some next) :
    Transition publication state action next := by
  cases action with
  | begin task call =>
      simp only [Publication.step] at stepped
      split at stepped
      · rename_i idle
        cases stepped
        exact .begin idle
      · cases stepped
  | update task =>
      simp only [Publication.step] at stepped
      split at stepped
      · rename_i call begun
        cases stepped
        exact .update begun
      · cases stepped
  | read task =>
      simp only [Publication.step] at stepped
      split at stepped
      · rename_i updated
        cases stepped
        exact .read updated
      · cases stepped
  | publish task =>
      simp only [Publication.step] at stepped
      split at stepped
      · rename_i reading holding
        cases stepped
        exact .publish holding
      · cases stepped

namespace Transition

variable (transition : Transition publication state action next)

include transition

theorem phase_other (other : action.task ≠ task) : next.phase task = state.phase task := by
  cases transition <;> exact Function.update_of_ne other.symm ..

theorem display (unpublished : action.publishes = false) : next.display = state.display := by
  cases transition with
  | publish => cases unpublished
  | _ => rfl

/-- Only an update changes the value, and its call is then still to publish. -/
theorem value : next.value = state.value ∨ (next.phase action.task).pending = true := by
  cases transition with
  | @update task => exact .inr (by simp [Action.task, Phase.pending])
  | _ => exact .inl rfl

theorem pending (unpublished : action.publishes = false)
    (before : (state.phase task).pending = true) : (next.phase task).pending = true := by
  by_cases other : action.task = task
  · subst other
    cases transition with
    | begin idle => simp [Action.task, idle, Phase.pending] at before
    | update => simp [Action.task, Phase.pending]
    | read => simp [Action.task, Phase.pending]
    | publish => cases unpublished
  · rwa [transition.phase_other other]

theorem holding {reading : Reading} (held : next.phase task = .holding reading) :
    action = .read task ∨ action.task ≠ task ∧ state.phase task = .holding reading := by
  by_cases other : action.task = task
  · subst other
    cases transition with
    | read => exact .inl rfl
    | _ => simp [Action.task] at held
  · rw [transition.phase_other other] at held
    exact .inr ⟨other, held⟩

end Transition

/-! ## Runs -/

variable {allowed : State Task Value Call Reading Display → Action Task Call → Prop}
  {value : Value} {display : Display} {origin final : State Task Value Call Reading Display}

theorem phase_of_others
    (history : (publication.system value display).History allowed origin steps final)
    (others : ∀ step ∈ steps, step.action.task ≠ task) :
    final.phase task = origin.phase task := by
  induction history with
  | start => rfl
  | step _ _ stepped induction =>
      rw [(transition_of_step stepped).phase_other (others _ List.mem_concat_self)]
      exact induction fun step member => others step (List.mem_append_left _ member)

/-- As long as nothing is published, a value that has changed is still to be published. -/
theorem unpublished_run
    (history : (publication.system value display).History allowed origin steps final)
    (unpublished : ∀ step ∈ steps, step.action.publishes = false) :
    final.display = origin.display ∧
      (final.value = origin.value ∨ ∃ task, (final.phase task).pending = true) := by
  induction history with
  | start => exact ⟨rfl, .inl rfl⟩
  | step _ _ stepped induction =>
      have transition := transition_of_step stepped
      have last := unpublished _ List.mem_concat_self
      rcases induction fun step member => unpublished step (List.mem_append_left _ member) with
        ⟨display, same | ⟨task, pending⟩⟩
      · refine ⟨(transition.display last).trans display, ?_⟩
        rcases transition.value with kept | pending
        · exact .inl (kept.trans same)
        · exact .inr ⟨_, pending⟩
      · refine ⟨(transition.display last).trans display, .inr ⟨task, ?_⟩⟩
        exact transition.pending last pending

theorem exists_lastRead {reading : Reading}
    (history : (publication.system value display).History allowed
      (publication.system value display).start steps final)
    (holding : final.phase task = .holding reading) : ∃ read, LastRead steps task read := by
  induction history with
  | start => cases holding
  | @step steps state next action _ _ stepped induction =>
      rcases (transition_of_step stepped).holding holding with rfl | ⟨other, before⟩
      · refine ⟨⟨state, .read task, next⟩, steps, [], rfl, rfl, ?_⟩
        intro step member
        cases member
      · rcases induction before with ⟨read, last⟩
        exact ⟨read, last.concat other⟩

theorem exists_lastPublished
    (history : (publication.system value display).History allowed
      (publication.system value display).start steps final)
    (published : ∃ step ∈ steps, step.action.publishes = true) :
    ∃ task read write, LastPublished steps task read write := by
  induction history with
  | start =>
      rcases published with ⟨step, member, -⟩
      cases member
  | @step steps state next action earlier _ stepped induction =>
      cases publishes : action.publishes with
      | true =>
          cases transition_of_step stepped with
          | @publish task reading holding =>
              rcases exists_lastRead earlier holding with ⟨read, last⟩
              refine ⟨task, read, _, steps, [], rfl, rfl, last, ?_⟩
              intro step member
              cases member
          | _ => cases publishes
      | false =>
          have before : ∃ step ∈ steps, step.action.publishes = true := by
            rcases published with ⟨step, member, found⟩
            rcases List.mem_append.mp member with earlier | last
            · exact ⟨step, earlier, found⟩
            · cases List.mem_singleton.mp last
              rw [publishes] at found
              cases found
          rcases induction before with ⟨task, read, write, last⟩
          exact ⟨task, read, write, last.concat publishes⟩

theorem LastPublished.reaches (last : LastPublished steps task read write)
    (history : (publication.system value display).History allowed origin steps final) :
    (publication.system value display).Reaches allowed origin write.before := by
  rcases last with ⟨front, back, rfl, -⟩
  exact history.around.1.reaches

/-- What is on the display at rest: the reading of the last publication, of a value that may
have changed between the reading and the publication, and not after it. -/
theorem LastPublished.atRest (last : LastPublished steps task read write)
    (history : (publication.system value display).History allowed origin steps final)
    (rest : final.AtRest) :
    final.value = write.before.value ∧
      final.display = publication.publish write.before.display
        (publication.read read.before.value) := by
  rcases last with ⟨front, back, rfl, writes, ⟨first, between, rfl, reads, others⟩, unpublished⟩
  rcases history.around with ⟨before, published, after⟩
  rcases before.around with ⟨-, taken, waiting⟩
  have held : write.before.phase task = .holding (publication.read read.before.value) := by
    rw [phase_of_others waiting others]
    rw [reads] at taken
    have transition : Transition publication read.before (.read task) read.after :=
      transition_of_step taken
    generalize read.after = later at transition ⊢
    cases transition with
    | read => exact Function.update_self ..
  have shown : write.after.value = write.before.value ∧ write.after.display =
      publication.publish write.before.display (publication.read read.before.value) := by
    rw [writes] at published
    have transition : Transition publication write.before (.publish task) write.after :=
      transition_of_step published
    generalize write.after = written at transition ⊢
    cases transition with
    | publish holding =>
        cases holding.symm.trans held
        exact ⟨rfl, rfl⟩
  rcases unpublished_run after unpublished with ⟨display, same | ⟨other, pending⟩⟩
  · exact ⟨same.trans shown.1, display.trans shown.2⟩
  · rw [rest other] at pending
    cases pending

end Publication

end IoGateway

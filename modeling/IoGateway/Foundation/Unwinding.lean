import Mathlib.Data.List.Basic

/-! # Noninterference by unwinding

A loop handles messages one after another until one of them stops it. When every
message either leaves a view of the state alone or updates it as a function of
the view and the message, messages of the first kind can be deleted from the input
without a trace in the view.
-/

namespace IoGateway

/-- A loop over messages; handling a message is a relation, so that the
environment may take part in it. -/
structure Dispatcher (State : Type u) (Message : Type v) where
  handles : State → Message → State → Prop
  stops : Message → Bool

namespace Dispatcher

variable {State : Type u} {Message : Type v} {View : Type w}

/-- The loop on a list of messages; those after one that stops it are not read. -/
inductive Runs (dispatcher : Dispatcher State Message) : State → List Message → State → Prop
  | done {state : State} : Runs dispatcher state [] state
  | stop {state final : State} {message : Message} {rest : List Message}
      (last : dispatcher.stops message = true)
      (handled : dispatcher.handles state message final) :
      Runs dispatcher state (message :: rest) final
  | step {state next final : State} {message : Message} {rest : List Message}
      (more : dispatcher.stops message = false)
      (handled : dispatcher.handles state message next)
      (later : Runs dispatcher next rest final) :
      Runs dispatcher state (message :: rest) final

/-- The conditions on the handling of one message, under an invariant. -/
structure Unwinding (dispatcher : Dispatcher State Message) (View : Type w) where
  invariant : State → Prop
  view : State → View
  visible : Message → Bool
  update : View → Message → View
  kept : ∀ {state message next}, invariant state → dispatcher.handles state message next →
    invariant next
  hidden : ∀ {state message next}, invariant state → visible message = false →
    dispatcher.handles state message next → view next = view state
  goesOn : ∀ {message}, visible message = false → dispatcher.stops message = false
  shown : ∀ {state message next}, invariant state → visible message = true →
    dispatcher.handles state message next → view next = update (view state) message

namespace Unwinding

variable {dispatcher : Dispatcher State Message} (unwinding : dispatcher.Unwinding View)

def result : View → List Message → View
  | view, [] => view
  | view, message :: rest =>
      if unwinding.visible message then
        if dispatcher.stops message then unwinding.update view message
        else result (unwinding.update view message) rest
      else result view rest

theorem result_filter (view : View) (messages : List Message) :
    unwinding.result view (messages.filter unwinding.visible) =
      unwinding.result view messages := by
  induction messages generalizing view with
  | nil => rfl
  | cons message rest induction =>
      by_cases visible : unwinding.visible message = true
      · simp only [List.filter_cons_of_pos visible, result, visible, if_true, induction]
      · simp only [List.filter_cons_of_neg visible, result, if_neg visible, induction]

theorem view_of_runs {state final : State} {messages : List Message}
    (runs : dispatcher.Runs state messages final) (initially : unwinding.invariant state) :
    unwinding.view final = unwinding.result (unwinding.view state) messages := by
  induction runs with
  | done => rfl
  | @stop state final message rest last handled =>
      by_cases visible : unwinding.visible message = true
      · simp only [result, visible, last, if_true]
        exact unwinding.shown initially visible handled
      · rw [unwinding.goesOn (Bool.eq_false_iff.mpr visible)] at last
        cases last
  | @step state next final message rest more handled later induction =>
      have after := induction (unwinding.kept initially handled)
      by_cases visible : unwinding.visible message = true
      · simp only [result, visible, more, if_true, Bool.false_eq_true, if_false]
        rw [after, unwinding.shown initially visible handled]
      · simp only [result, if_neg visible]
        rw [after, unwinding.hidden initially (Bool.eq_false_iff.mpr visible) handled]

/-- Two runs from states with one view, the second without the hidden messages,
end with one view. -/
theorem view_eq_of_runs {state other final last : State} {messages : List Message}
    (first : dispatcher.Runs state messages final)
    (second : dispatcher.Runs other (messages.filter unwinding.visible) last)
    (initially : unwinding.invariant state) (initiallyOther : unwinding.invariant other)
    (same : unwinding.view state = unwinding.view other) :
    unwinding.view final = unwinding.view last := by
  rw [unwinding.view_of_runs first initially, unwinding.view_of_runs second initiallyOther,
    unwinding.result_filter, same]

end Unwinding

end Dispatcher

end IoGateway

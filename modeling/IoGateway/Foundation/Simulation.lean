import IoGateway.Foundation.TransitionSystem

/-! # Simulation of one transition system by another

Every allowed step from a reachable state is matched by one step of the other system or
by none.
-/

namespace IoGateway

namespace TransitionSystem

variable {State : Type u} {Action : Type v} {Spec : Type w} {Event : Type x}

structure Simulates (system : TransitionSystem State Action) (allowed : State → Action → Prop)
    (spec : TransitionSystem Spec Event) (related : State → Spec → Prop) : Prop where
  start : related system.start spec.start
  step : ∀ state abstract action next, system.ReachableUnder allowed state →
    related state abstract → allowed state action → system.step state action = some next →
      related next abstract ∨
        ∃ event after, spec.step abstract event = some after ∧ related next after

variable {system : TransitionSystem State Action} {allowed : State → Action → Prop}
  {spec : TransitionSystem Spec Event} {related : State → Spec → Prop}

/-- Every reachable state is related to the end of a run of the other system. -/
theorem Simulates.exists_run (simulates : system.Simulates allowed spec related) {state : State}
    (reachable : system.ReachableUnder allowed state) :
    ∃ events abstract, spec.run spec.start events = some abstract ∧ related state abstract := by
  induction reachable with
  | refl => exact ⟨[], spec.start, rfl, simulates.start⟩
  | @step state next action earlier permitted stepped induction =>
      rcases induction with ⟨events, abstract, executed, known⟩
      rcases simulates.step state abstract action next earlier known permitted stepped with
        same | ⟨event, after, moved, known⟩
      · exact ⟨events, abstract, executed, same⟩
      · refine ⟨events ++ [event], after, ?_, known⟩
        rw [run_append, executed, Option.bind_some]
        exact Option.bind_eq_some_iff.mpr ⟨after, moved, rfl⟩

end TransitionSystem

end IoGateway

import IoGateway.Foundation.TransitionSystem
import Mathlib.Data.List.Basic
import Mathlib.Logic.Function.Basic

/-! # Pipes

A pipe takes values at one end and delivers them at the other one, in their order and once
each. Any number of pipes are used independently of each other.
-/

namespace IoGateway

structure Pipe (Value : Type u) where
  sent : List Value
  delivered : List Value
  front : delivered <+: sent

namespace Pipe

variable {Value : Type u} {pipe : Pipe Value}

def empty : Pipe Value := ⟨[], [], List.prefix_refl _⟩

def push (pipe : Pipe Value) (values : List Value) : Pipe Value where
  sent := pipe.sent ++ values
  delivered := pipe.delivered
  front := pipe.front.trans (List.prefix_append _ _)

def pull (pipe : Pipe Value) (count : Nat) : Pipe Value where
  sent := pipe.sent
  delivered := pipe.sent.take (pipe.delivered.length + count)
  front := List.take_prefix _ _

theorem delivered_pull {values : List Value} (front : pipe.delivered ++ values <+: pipe.sent) :
    (pipe.pull values.length).delivered = pipe.delivered ++ values := by
  have taken := List.prefix_iff_eq_take.mp front
  rw [List.length_append] at taken
  exact taken.symm

end Pipe

inductive PipeEvent (Key : Type u) (Value : Type v)
  | push (key : Key) (values : List Value)
  | pull (key : Key) (count : Nat)

namespace Pipes

variable {Key : Type u} {Value : Type v} [DecidableEq Key]

/-- Any values may be sent, and no more delivered than are on their way. -/
def step (pipes : Key → Pipe Value) : PipeEvent Key Value → Option (Key → Pipe Value)
  | .push key values => some (Function.update pipes key ((pipes key).push values))
  | .pull key count =>
      if (pipes key).delivered.length + count ≤ (pipes key).sent.length then
        some (Function.update pipes key ((pipes key).pull count))
      else none

def system : TransitionSystem (Key → Pipe Value) (PipeEvent Key Value) where
  start := fun _ => .empty
  step := step

theorem step_pull {pipes : Key → Pipe Value} {key : Key} {values : List Value}
    (front : (pipes key).delivered ++ values <+: (pipes key).sent) :
    step pipes (.pull key values.length) =
      some (Function.update pipes key ((pipes key).pull values.length)) := by
  have room := front.length_le
  rw [List.length_append] at room
  exact if_pos room

end Pipes

end IoGateway

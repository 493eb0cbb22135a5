import Mathlib.Logic.Function.Basic

/-! # Entries owned by running tasks

A table is filled by tasks that are bound to clear what they put in. Each entry
is then owned by a task that has not yet come to the clearing; when no task
holds anything, nothing is left.
-/

namespace IoGateway

variable {Slot : Type u} {Task : Type v} {Key : Type w}

def Owned (entry : Key → Prop) (holds : Task → Key → Prop) (tasks : Slot → Task) : Prop :=
  ∀ key, entry key → ∃ slot, holds (tasks slot) key

namespace Owned

variable {entry after : Key → Prop} {holds : Task → Key → Prop} {tasks : Slot → Task}

theorem shrink (owned : Owned entry holds tasks) (kept : ∀ key, after key → entry key) :
    Owned after holds tasks :=
  fun key present => owned key (kept key present)

/-- One task takes a step. It holds what it creates, and it lets go of an entry
only together with the entry. -/
theorem update [DecidableEq Slot] {slot : Slot} {next : Task}
    (owned : Owned entry holds tasks)
    (created : ∀ key, after key → entry key ∨ holds next key)
    (kept : ∀ key, holds (tasks slot) key → after key → holds next key) :
    Owned after holds (Function.update tasks slot next) := by
  intro key present
  by_cases mine : holds next key
  · exact ⟨slot, by simpa using mine⟩
  · have before : entry key := (created key present).resolve_right mine
    rcases owned key before with ⟨other, held⟩
    have different : other ≠ slot := by
      intro equal
      subst equal
      exact mine (kept key held present)
    exact ⟨other, by simpa [different] using held⟩

theorem start [DecidableEq Slot] {slot : Slot} {task : Task} (owned : Owned entry holds tasks)
    (free : ∀ key, ¬ holds (tasks slot) key) :
    Owned entry holds (Function.update tasks slot task) :=
  owned.update (fun _ => .inl) fun key held => absurd held (free key)

/-- Nothing is left when no task holds anything. -/
theorem not_entry (owned : Owned entry holds tasks)
    (free : ∀ slot key, ¬ holds (tasks slot) key) (key : Key) : ¬ entry key := by
  intro present
  rcases owned key present with ⟨slot, held⟩
  exact free slot key held

end Owned

end IoGateway

import IoGateway.Foundation.TransitionSystem
import Mathlib.Algebra.Order.BigOperators.Group.Finset
import Mathlib.Logic.Function.Basic

/-! # Systems that come to an end

Every allowed step uses up some of the work that is left, and while the system is not done
some allowed step is possible: however the steps are chosen, it is done after a bounded
number of them.
-/

namespace IoGateway

namespace TransitionSystem

variable {State : Type u} {Action : Type v}

inductive ReachesIn (system : TransitionSystem State Action) (allowed : State → Action → Prop)
    (origin : State) : Nat → State → Prop
  | refl : ReachesIn system allowed origin 0 origin
  | step {count : Nat} {state next : State} {action : Action}
      (earlier : ReachesIn system allowed origin count state) (permitted : allowed state action)
      (stepped : system.step state action = some next) :
      ReachesIn system allowed origin (count + 1) next

/-- Every allowed step uses up work. -/
structure UsesWork (system : TransitionSystem State Action) (allowed : State → Action → Prop)
    (known : State → Prop) (work : State → Nat) : Prop where
  kept : ∀ state action next, known state → allowed state action →
    system.step state action = some next → known next
  less : ∀ state action next, known state → allowed state action →
    system.step state action = some next → work next < work state

structure Drains (system : TransitionSystem State Action) (allowed : State → Action → Prop)
    (known : State → Prop) (work : State → Nat) (done : State → Prop) : Prop
    extends UsesWork system allowed known work where
  progress : ∀ state, known state → ¬ done state →
    ∃ action next, allowed state action ∧ system.step state action = some next

variable {system : TransitionSystem State Action} {allowed : State → Action → Prop}
  {known done : State → Prop} {work : State → Nat} {origin final : State} {count : Nat}

theorem Reaches.exists_count {state : State} (reaches : system.Reaches allowed origin state) :
    ∃ count, system.ReachesIn allowed origin count state := by
  induction reaches with
  | refl => exact ⟨0, .refl⟩
  | step _ permitted stepped induction =>
      rcases induction with ⟨count, run⟩
      exact ⟨count + 1, .step run permitted stepped⟩

theorem ReachesIn.after {first : State} {action : Action}
    (run : system.ReachesIn allowed first count final) (permitted : allowed origin action)
    (stepped : system.step origin action = some first) :
    system.ReachesIn allowed origin (count + 1) final := by
  induction run with
  | refl => exact .step .refl permitted stepped
  | step _ later moved induction => exact .step induction later moved

namespace UsesWork

theorem known_of_run (uses : system.UsesWork allowed known work) (start : known origin)
    (run : system.ReachesIn allowed origin count final) : known final := by
  induction run with
  | refl => exact start
  | step _ permitted stepped induction => exact uses.kept _ _ _ induction permitted stepped

/-- No run takes more steps than there is work. -/
theorem count_add_work_le (uses : system.UsesWork allowed known work) (start : known origin)
    (run : system.ReachesIn allowed origin count final) : count + work final ≤ work origin := by
  induction run with
  | refl => exact Nat.le_of_eq (Nat.zero_add _)
  | step earlier permitted stepped induction =>
      have less := uses.less _ _ _ (uses.known_of_run start earlier) permitted stepped
      omega

end UsesWork

namespace Drains

theorem exists_done (drains : system.Drains allowed known work done) :
    ∀ {state}, known state →
      ∃ count final, system.ReachesIn allowed state count final ∧ done final := by
  intro state
  -- The work that is left decreases.
  induction left : work state using Nat.strong_induction_on generalizing state with
  | _ left induction =>
      intro start
      by_cases finished : done state
      · exact ⟨0, state, .refl, finished⟩
      · rcases drains.progress state start finished with ⟨action, next, permitted, stepped⟩
        have less := drains.less state action next start permitted stepped
        rcases induction (work next) (by omega) rfl (drains.kept _ _ _ start permitted stepped)
          with ⟨count, final, run, ended⟩
        exact ⟨count + 1, final, run.after permitted stepped, ended⟩

end Drains

end TransitionSystem

/-! ## The work of many tasks -/

def totalWork {Task : Type u} (rank : Task → Nat) (count : Nat) (tasks : Nat → Task) : Nat :=
  ∑ slot ∈ Finset.range count, rank (tasks slot)

theorem totalWork_add_le {Task : Type u} {rank : Task → Nat} {count slot less : Nat}
    {before after : Nat → Task} (below : slot < count)
    (own : rank (after slot) + less ≤ rank (before slot))
    (others : ∀ other, other ≠ slot → rank (after other) ≤ rank (before other)) :
    totalWork rank count after + less ≤ totalWork rank count before := by
  have member : slot ∈ Finset.range count := Finset.mem_range.mpr below
  rw [totalWork, totalWork, ← Finset.add_sum_erase _ _ member, ← Finset.add_sum_erase _ _ member,
    Nat.add_right_comm]
  exact Nat.add_le_add own
    (Finset.sum_le_sum fun other member => others other (Finset.ne_of_mem_erase member))

theorem totalWork_lt {Task : Type u} {rank : Task → Nat} {count slot : Nat}
    {before after : Nat → Task} (below : slot < count)
    (own : rank (after slot) < rank (before slot))
    (others : ∀ other, other ≠ slot → rank (after other) ≤ rank (before other)) :
    totalWork rank count after < totalWork rank count before :=
  @totalWork_add_le _ rank count slot 1 before after below own others

theorem totalWork_update_lt {Task : Type u} {rank : Task → Nat} {count slot : Nat}
    {tasks : Nat → Task} {task : Task} (below : slot < count)
    (less : rank task < rank (tasks slot)) :
    totalWork rank count (Function.update tasks slot task) < totalWork rank count tasks := by
  refine totalWork_lt below ?_ fun other different => ?_
  · rwa [Function.update_self]
  · rw [Function.update_of_ne different]

theorem totalWork_update_le {Task : Type u} {rank : Task → Nat} {count slot : Nat}
    {tasks : Nat → Task} {task : Task} (less : rank task ≤ rank (tasks slot)) :
    totalWork rank count (Function.update tasks slot task) ≤ totalWork rank count tasks := by
  refine Finset.sum_le_sum fun other _ => ?_
  by_cases same : other = slot
  · rw [same, Function.update_self]
    exact less
  · rw [Function.update_of_ne same]

theorem totalWork_le_add {Task : Type u} {rank : Task → Nat} {count slot extra : Nat}
    {before after : Nat → Task} (own : rank (after slot) ≤ rank (before slot) + extra)
    (others : ∀ other, other ≠ slot → rank (after other) ≤ rank (before other)) :
    totalWork rank count after ≤ totalWork rank count before + extra := by
  unfold totalWork
  by_cases below : slot ∈ Finset.range count
  · rw [← Finset.add_sum_erase _ _ below, ← Finset.add_sum_erase _ _ below, Nat.add_right_comm]
    exact Nat.add_le_add own
      (Finset.sum_le_sum fun other member => others other (Finset.ne_of_mem_erase member))
  · refine Nat.le_trans (Finset.sum_le_sum fun other member => others other ?_)
      (Nat.le_add_right _ _)
    intro equal
    exact below (equal ▸ member)

/-! ## The work in transit -/

/-- What the items that have been sent and not been read will give to do. -/
def transitWork {Item : Type u} (rank : Item → Nat) (read sent : List Item) : Nat :=
  (sent.drop read.length).foldr (fun item work => rank item + work) 0

section

variable {Item : Type u} {rank : Item → Nat} {read sent : List Item} {item : Item}

theorem foldr_work (items : List Item) (start : Nat) :
    items.foldr (fun item work => rank item + work) start =
      items.foldr (fun item work => rank item + work) 0 + start := by
  induction items with
  | nil => exact (Nat.zero_add start).symm
  | cons item items induction => rw [List.foldr_cons, induction, List.foldr_cons, Nat.add_assoc]

theorem transitWork_sent (front : read <+: sent) :
    transitWork rank read (sent ++ [item]) = transitWork rank read sent + rank item := by
  rw [transitWork, List.drop_append_of_le_length front.length_le, List.foldr_append, foldr_work]
  rfl

def SentAtMost (rank : Item → Nat) (extra : Nat) (before after : List Item) : Prop :=
  after = before ∨ ∃ item, after = before ++ [item] ∧ rank item ≤ extra

theorem SentAtMost.transitWork_le {after : List Item} {extra : Nat}
    (sending : SentAtMost rank extra sent after) (front : read <+: sent) :
    transitWork rank read after ≤ transitWork rank read sent + extra := by
  rcases sending with rfl | ⟨item, rfl, bounded⟩
  · exact Nat.le_add_right _ _
  · rw [transitWork_sent front]
    exact Nat.add_le_add_left bounded _

theorem transitWork_read (front : read ++ [item] <+: sent) :
    transitWork rank read sent = rank item + transitWork rank (read ++ [item]) sent := by
  rcases front with ⟨later, rfl⟩
  rw [transitWork, transitWork, List.drop_left, List.append_assoc, List.drop_left]
  rfl

end

end IoGateway

import IoGateway.Foundation.TransitionSystem
import Mathlib.Logic.Function.Basic

/-! # Pools of objects

Objects are issued from a stack of free ones, or made anew when there is none, are
changed by their borrowers, and are reset and put back when they are dropped, as long as
the pool has room.
-/

namespace IoGateway

/-- How objects are made, issued, changed and reset. -/
structure ObjectPool (Item : Type u) (Loan : Type v) (Change : Type w) where
  fresh : Item
  issue : Item → Loan
  change : Loan → Change → Loan
  reset : Loan → Item
  room : Nat

namespace ObjectPool

structure State (Borrower : Type x) (Item : Type u) (Loan : Type v) where
  free : List Item
  held : Borrower → Option Loan

inductive Action (Borrower : Type x) (Change : Type w)
  | acquire (borrower : Borrower)
  | mutate (borrower : Borrower) (change : Change)
  | drop (borrower : Borrower)

variable {Borrower : Type x} {Item : Type u} {Loan : Type v} {Change : Type w}
variable [DecidableEq Borrower]

def State.hold (state : State Borrower Item Loan) (borrower : Borrower) (loan : Option Loan) :
    State Borrower Item Loan :=
  { state with held := Function.update state.held borrower loan }

def step (pool : ObjectPool Item Loan Change) (state : State Borrower Item Loan) :
    Action Borrower Change → Option (State Borrower Item Loan)
  | .acquire borrower =>
      match state.held borrower, state.free with
      | none, [] => some (state.hold borrower (some (pool.issue pool.fresh)))
      | none, item :: rest =>
          some { state.hold borrower (some (pool.issue item)) with free := rest }
      | some _, _ => none
  | .mutate borrower change =>
      (state.held borrower).map fun loan => state.hold borrower (some (pool.change loan change))
  | .drop borrower =>
      (state.held borrower).map fun loan =>
        { state.hold borrower none with
          free :=
            if state.free.length < pool.room then pool.reset loan :: state.free else state.free }

def system (pool : ObjectPool Item Loan Change) (count : Nat) :
    TransitionSystem (State Borrower Item Loan) (Action Borrower Change) where
  start := ⟨List.replicate count pool.fresh, fun _ => none⟩
  step := pool.step

def Permits (permitted : Change → Prop) (_ : State Borrower Item Loan) :
    Action Borrower Change → Prop
  | .mutate _ change => permitted change
  | _ => True

/-- A property of free objects and one of loans that every operation keeps. -/
structure Keeps (pool : ObjectPool Item Loan Change) (permitted : Change → Prop)
    (Clean : Item → Prop) (Sound : Loan → Prop) : Prop where
  fresh : Clean pool.fresh
  issue : ∀ item, Clean item → Sound (pool.issue item)
  change : ∀ loan change, Sound loan → permitted change → Sound (pool.change loan change)
  reset : ∀ loan, Sound loan → Clean (pool.reset loan)

structure Holds (Clean : Item → Prop) (Sound : Loan → Prop) (state : State Borrower Item Loan) :
    Prop where
  free : ∀ item ∈ state.free, Clean item
  held : ∀ borrower loan, state.held borrower = some loan → Sound loan

variable {pool : ObjectPool Item Loan Change} {permitted : Change → Prop} {Clean : Item → Prop}
  {Sound : Loan → Prop} {state next : State Borrower Item Loan} {borrower : Borrower} {count : Nat}
  {action : Action Borrower Change}

theorem Holds.hold {loan : Option Loan} (holds : Holds Clean Sound state)
    (sound : ∀ own, loan = some own → Sound own) :
    Holds Clean Sound (state.hold borrower loan) := by
  refine ⟨holds.free, ?_⟩
  intro other own found
  change Function.update state.held borrower loan other = some own at found
  by_cases equal : other = borrower
  · subst equal
    rw [Function.update_self] at found
    exact sound own found
  · rw [Function.update_of_ne equal] at found
    exact holds.held other own found

theorem Holds.step (keeps : pool.Keeps permitted Clean Sound) (holds : Holds Clean Sound state)
    (allowed : Permits permitted state action) (stepped : pool.step state action = some next) :
    Holds Clean Sound next := by
  cases action with
  | acquire borrower =>
      simp only [ObjectPool.step] at stepped
      split at stepped
      · cases stepped
        apply holds.hold
        rintro _ ⟨⟩
        exact keeps.issue _ keeps.fresh
      · rename_i item rest _ free
        cases stepped
        have clean : ∀ other ∈ item :: rest, Clean other := by
          rw [← free]
          exact holds.free
        have held : Holds Clean Sound (state.hold borrower (some (pool.issue item))) := by
          apply holds.hold
          rintro _ ⟨⟩
          exact keeps.issue _ (clean item (List.mem_cons_self ..))
        exact ⟨fun other member => clean other (List.mem_cons_of_mem _ member), held.held⟩
      · cases stepped
  | mutate borrower change =>
      rcases Option.map_eq_some_iff.mp stepped with ⟨loan, found, rfl⟩
      apply holds.hold
      rintro _ ⟨⟩
      exact keeps.change loan change (holds.held borrower loan found) allowed
  | drop borrower =>
      rcases Option.map_eq_some_iff.mp stepped with ⟨loan, found, rfl⟩
      have held : Holds Clean Sound (state.hold borrower none) := holds.hold (by rintro _ ⟨⟩)
      refine ⟨?_, held.held⟩
      intro item member
      split at member
      · cases member with
        | head => exact keeps.reset loan (holds.held borrower loan found)
        | tail _ earlier => exact holds.free item earlier
      · exact holds.free item member

theorem permits_of_reachable {state : State Borrower Item Loan}
    (reachable : (system pool count).Reachable state) :
    (system pool count).ReachableUnder (Permits fun _ => True) state := by
  apply reachable.mono
  intro _ action _
  cases action <;> trivial

theorem holds_of_reachable (keeps : pool.Keeps permitted Clean Sound)
    (reachable : (system pool count).ReachableUnder (Permits permitted) state) :
    Holds Clean Sound state := by
  refine reachable.invariant ⟨?_, ?_⟩ ?_
  · intro item member
    rw [List.eq_of_mem_replicate member]
    exact keeps.fresh
  · intro borrower loan found
    cases found
  · intro state action next _ holds allowed stepped
    exact holds.step keeps allowed stepped

/-! ## The steps of a borrower -/

@[simp] theorem State.hold_held (state : State Borrower Item Loan) (borrower : Borrower)
    (loan : Option Loan) : (state.hold borrower loan).held borrower = loan :=
  Function.update_self ..

theorem exists_acquired (pool : ObjectPool Item Loan Change) (count : Nat) {item : Item}
    {rest : List Item} (idle : state.held borrower = none) (free : state.free = item :: rest) :
    ∃ next, (system pool count).step state (.acquire borrower) = some next ∧
      next.held borrower = some (pool.issue item) ∧ next.free = rest := by
  refine ⟨{ state.hold borrower (some (pool.issue item)) with free := rest }, ?_,
    Function.update_self .., rfl⟩
  simp only [system, step, idle, free]

theorem exists_mutated (pool : ObjectPool Item Loan Change) (count : Nat) {loan : Loan}
    (held : state.held borrower = some loan) (change : Change) :
    ∃ next, (system pool count).step state (.mutate borrower change) = some next ∧
      next.held borrower = some (pool.change loan change) ∧ next.free = state.free := by
  refine ⟨state.hold borrower (some (pool.change loan change)), ?_, State.hold_held .., rfl⟩
  simp only [system, step, held, Option.map_some]

/-- A borrower that drops a loan may be issued the same object next. -/
theorem exists_reissued (pool : ObjectPool Item Loan Change) (count : Nat) {loan : Loan}
    (held : state.held borrower = some loan)
    (room : state.free.length < pool.room) :
    ∃ middle next, (system pool count).step state (.drop borrower) = some middle ∧
      (system pool count).step middle (.acquire borrower) = some next ∧
      next.held borrower = some (pool.issue (pool.reset loan)) ∧ next.free = state.free := by
  let middle : State Borrower Item Loan :=
    { state.hold borrower none with free := pool.reset loan :: state.free }
  have idle : middle.held borrower = none := State.hold_held state borrower none
  rcases exists_acquired pool count idle rfl with ⟨next, acquired, issued, free⟩
  refine ⟨middle, next, ?_, acquired, issued, free⟩
  simp only [system, step, held, Option.map_some, if_pos room]
  rfl

theorem exists_issued (keeps : pool.Keeps permitted Clean Sound)
    (reachable : (system pool count).ReachableUnder (Permits permitted) state)
    (stepped : pool.step state (.acquire borrower) = some next) :
    ∃ item, Clean item ∧ next.held borrower = some (pool.issue item) := by
  have holds := holds_of_reachable keeps reachable
  simp only [ObjectPool.step] at stepped
  split at stepped
  · cases stepped
    exact ⟨pool.fresh, keeps.fresh, Function.update_self ..⟩
  · rename_i item rest _ free
    cases stepped
    exact ⟨item, holds.free item (by rw [free]; exact List.mem_cons_self ..),
      Function.update_self ..⟩
  · cases stepped

end ObjectPool

end IoGateway

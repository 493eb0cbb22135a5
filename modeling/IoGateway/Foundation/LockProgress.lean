import IoGateway.Foundation.Draining
import IoGateway.Foundation.LockOrder
import Mathlib

/-! # Tasks that take locks in an order go on

Who waits for a lock waits, in the end, for a task that can go on. As long as no task is
spawned and loops are left, every run comes to an end, and there all tasks have ended.
-/

namespace IoGateway

/-- The steps of a program that leaves its loops and picks among the given indexes. -/
def LockProgram.size {Lock : Type u} {Index : Type v} (indexes : Finset Index) :
    LockProgram Lock Index → Nat
  | skip => 1
  | seq first second => first.size indexes + second.size indexes + 1
  | choice left right => max (left.size indexes) (right.size indexes) + 1
  | loop _ => 1
  | pick body => (indexes.sup fun index => (body index).size indexes) + 1
  | hold _ _ body => body.size indexes + 3

theorem LockProgram.size_pick_lt {Lock : Type u} {Index : Type v} {indexes : Finset Index}
    {index : Index} (member : index ∈ indexes) (body : Index → LockProgram Lock Index) :
    (body index).size indexes < (pick body).size indexes := by
  have le := @Finset.le_sup _ _ _ _ indexes (fun index => (body index).size indexes) index member
  exact Nat.lt_succ_of_le le

namespace LockOrder

variable {Task : Type w} {Lock : Type u} {Index : Type v} {Entry : Type x}

def Frame.size (indexes : Finset Index) : Frame Lock Index → Nat
  | run program => program.size indexes
  | await _ _ body => body.size indexes + 2
  | release _ _ => 1

def stackSize (indexes : Finset Index) (stack : List (Frame Lock Index)) : Nat :=
  (stack.map (Frame.size indexes)).sum

@[simp] theorem stackSize_cons (indexes : Finset Index) (frame : Frame Lock Index)
    (rest : List (Frame Lock Index)) :
    stackSize indexes (frame :: rest) = frame.size indexes + stackSize indexes rest := rfl

def Action.task : Action Task Index Entry → Task
  | .spawn task _ => task
  | .go task => task
  | .left task => task
  | .right task => task
  | .pick task _ => task
  | .acquire task => task
  | .abandon task => task
  | .cancel task => task

/-- Nothing is spawned, given up or done once more. -/
def Continues (indexes : Finset Index) (state : State Task Lock Index) :
    Action Task Index Entry → Prop
  | .spawn _ _ => False
  | .abandon _ => False
  | .cancel _ => False
  | .left task => ∀ body rest, state.stack task ≠ .run (.loop body) :: rest
  | .pick _ index => index ∈ indexes
  | _ => True

namespace State

/-- The one waits for a lock that the other one holds or has asked for before. -/
def BlockedBy (state : State Task Lock Index) (task other : Task) : Prop :=
  ∃ lock, state.Waits task lock ∧ (state.Holds other lock ∨ state.Ahead lock other task)

structure Finished (state : State Task Lock Index) : Prop where
  stack : ∀ task, state.stack task = []
  holders : ∀ lock, state.holders lock = []
  queue : ∀ lock, state.queue lock = []

def work (indexes : Finset Index) (tasks : Finset Task) (state : State Task Lock Index) : Nat :=
  ∑ task ∈ tasks, stackSize indexes (state.stack task)

end State

/-! ## Requests are queued -/

def Plain (stack : List (Frame Lock Index)) : Prop :=
  ∀ lock mode body, .await lock mode body ∉ stack

/-- A task asks for one guard at a time, and it is in the queue for it. -/
structure Queued (state : State Task Lock Index) : Prop where
  below : ∀ task, Plain (state.stack task).tail
  waiting : ∀ task lock mode body rest, state.stack task = .await lock mode body :: rest →
    (task, mode) ∈ state.queue lock

section

variable {state next : State Task Lock Index} {task : Task} {rest : List (Frame Lock Index)}
  {frame : Frame Lock Index}

theorem queued_idle : Queued (State.idle : State Task Lock Index) where
  below := fun _ _ _ _ member => by cases member
  waiting := fun _ _ _ _ _ stack => by cases stack

theorem Queued.plain_rest (queued : Queued state) (stack : state.stack task = frame :: rest) :
    Plain rest := by
  have below := queued.below task
  rwa [stack] at below

theorem exists_holder_of_not_admits {holders : List (Task × LockMode)} {mode : LockMode}
    (full : ¬ Admits holders mode) : ∃ holder, holder ∈ holders := by
  cases holders with
  | nil =>
      refine absurd ?_ full
      cases mode with
      | read => exact fun _ member => absurd member List.not_mem_nil
      | write => rfl
  | cons holder => exact ⟨holder, List.mem_cons_self⟩

theorem Ordered.unfinished_of_blocks {rank : Lock → Nat} {other : Task}
    (ordered : Ordered rank state) (blocked : state.BlockedBy task other) :
    state.stack other ≠ [] := by
  intro ended
  rcases blocked with ⟨lock, _, ⟨mode, holder⟩ | ⟨front, mode, back, queue, asked, member⟩⟩
  · have held := ordered.holders lock other mode holder
    rw [ended] at held
    cases held
  · have waiter : (other, asked) ∈ state.queue lock := by
      rw [queue]
      exact List.mem_append_left _ member
    rcases ordered.queue lock other asked waiter with ⟨body, rest, stack⟩
    cases ended.symm.trans stack

theorem finished_of_stacks {rank : Lock → Nat} (ordered : Ordered rank state)
    (ended : ∀ task, state.stack task = []) : state.Finished where
  stack := ended
  holders := by
    intro lock
    refine List.eq_nil_iff_forall_not_mem.mpr fun holder member => ?_
    have held := ordered.holders lock holder.1 holder.2 member
    rw [ended] at held
    cases held
  queue := by
    intro lock
    refine List.eq_nil_iff_forall_not_mem.mpr fun waiter member => ?_
    rcases ordered.queue lock waiter.1 waiter.2 member with ⟨body, rest, stack⟩
    cases (ended waiter.1).symm.trans stack

theorem Queued.update [DecidableEq Task] {stack : List (Frame Lock Index)} (queued : Queued state)
    (changed : next.stack = Function.update state.stack task stack) (below : Plain stack.tail)
    (own : ∀ lock mode body rest, stack = .await lock mode body :: rest →
      (task, mode) ∈ next.queue lock)
    (others : ∀ lock other mode, other ≠ task → (other, mode) ∈ state.queue lock →
      (other, mode) ∈ next.queue lock) : Queued next := by
  constructor
  · intro other
    rw [changed]
    by_cases equal : other = task
    · rw [equal, Function.update_self]
      exact below
    · rw [Function.update_of_ne equal]
      exact queued.below other
  · intro other lock mode body rest asked
    rw [changed] at asked
    by_cases equal : other = task
    · rw [equal, Function.update_self] at asked
      exact equal ▸ own lock mode body rest asked
    · rw [Function.update_of_ne equal] at asked
      exact others lock other mode equal (queued.waiting other lock mode body rest asked)

theorem Queued.plain [DecidableEq Task] {stack : List (Frame Lock Index)} (queued : Queued state)
    (changed : next.stack = Function.update state.stack task stack) (plain : Plain stack)
    (others : ∀ lock other mode, other ≠ task → (other, mode) ∈ state.queue lock →
      (other, mode) ∈ next.queue lock) : Queued next := by
  refine queued.update changed (fun lock mode body member => ?_)
    (fun lock mode body rest asked => ?_) others
  · exact plain lock mode body (List.mem_of_mem_tail member)
  · exact absurd (asked ▸ List.mem_cons_self) (plain lock mode body)

theorem Queued.run [DecidableEq Task] (programs : List (LockProgram Lock Index))
    (queued : Queued state) (stack : state.stack task = frame :: rest) :
    Queued (state.setStack task (programs.map .run ++ rest)) := by
  refine queued.plain rfl ?_ fun _ _ _ _ member => member
  intro lock mode body member
  rcases List.mem_append.mp member with new | old
  · rcases List.mem_map.mp new with ⟨program, _, equal⟩
    cases equal
  · exact queued.plain_rest stack lock mode body old

theorem Queued.forget [DecidableEq Task] (queued : Queued state) : Queued (state.forget task) := by
  refine queued.plain rfl (fun _ _ _ => List.not_mem_nil) ?_
  intro key other asked different member
  exact List.mem_filter.mpr ⟨member, decide_eq_true different⟩

variable [DecidableEq Task] [DecidableEq Lock] {program : Entry → LockProgram Lock Index}
  {action : Action Task Index Entry}

theorem Queued.request {lock : Lock} {mode : LockMode} {body : LockProgram Lock Index}
    (queued : Queued state) (stack : state.stack task = frame :: rest) :
    Queued (state.request task lock mode body rest) := by
  refine queued.update rfl (queued.plain_rest stack) ?_ ?_
  · intro key asked inner below equal
    cases equal
    simp [State.request]
  · intro key other asked _ member
    change (other, asked) ∈ Function.update state.queue lock _ key
    by_cases equal : key = lock
    · rw [equal, Function.update_self]
      exact List.mem_append_left _ (equal ▸ member)
    · rwa [Function.update_of_ne equal]

theorem Queued.grant {lock : Lock} {mode : LockMode} {body : LockProgram Lock Index}
    (queued : Queued state) (stack : state.stack task = .await lock mode body :: rest)
    (head : (state.queue lock).head? = some (task, mode)) :
    Queued (state.grant task lock mode body rest) := by
  refine queued.plain rfl ?_ ?_
  · intro key asked inner member
    simp only [List.mem_cons, reduceCtorEq, false_or] at member
    exact queued.plain_rest stack key asked inner member
  · intro key other asked different member
    change (other, asked) ∈ Function.update state.queue lock _ key
    by_cases equal : key = lock
    · subst equal
      rw [Function.update_self]
      cases queue : state.queue key with
      | nil =>
          rw [queue] at member
          cases member
      | cons first waiters =>
          rw [queue] at head member
          cases head
          rcases List.mem_cons.mp member with own | later
          · cases own
            exact absurd rfl different
          · exact later
    · rwa [Function.update_of_ne equal]

theorem Queued.drop {lock : Lock} {mode : LockMode} (queued : Queued state)
    (stack : state.stack task = frame :: rest) : Queued (state.drop task lock mode rest) :=
  queued.plain rfl (queued.plain_rest stack) fun _ _ _ _ member => member

theorem Queued.withdraw {lock : Lock} (queued : Queued state)
    (stack : state.stack task = frame :: rest) : Queued (state.withdraw task lock rest) := by
  refine queued.plain rfl (queued.plain_rest stack) ?_
  intro key other asked different member
  change (other, asked) ∈ Function.update state.queue lock _ key
  by_cases equal : key = lock
  · rw [equal, Function.update_self]
    exact List.mem_filter.mpr ⟨equal ▸ member, decide_eq_true different⟩
  · rwa [Function.update_of_ne equal]

theorem Queued.step (queued : Queued state) (stepped : step program state action = some next) :
    Queued next := by
  cases action with
  | spawn task entry =>
      simp only [LockOrder.step] at stepped
      split at stepped
      · cases stepped
        refine queued.plain rfl ?_ fun _ _ _ _ member => member
        simp [Plain]
      · cases stepped
  | go task =>
      simp only [LockOrder.step] at stepped
      split at stepped
      · rename_i stack
        cases stepped
        exact queued.run [] stack
      · rename_i first second rest stack
        cases stepped
        exact queued.run [first, second] stack
      · rename_i stack
        cases stepped
        exact queued.request stack
      · rename_i stack
        cases stepped
        exact queued.drop stack
      · cases stepped
  | left task =>
      simp only [LockOrder.step] at stepped
      split at stepped
      · rename_i left right rest stack
        cases stepped
        exact queued.run [left] stack
      · rename_i body rest stack
        cases stepped
        exact queued.run [body, .loop body] stack
      · cases stepped
  | right task =>
      simp only [LockOrder.step] at stepped
      split at stepped
      · rename_i left right rest stack
        cases stepped
        exact queued.run [right] stack
      · rename_i stack
        cases stepped
        exact queued.run [] stack
      · cases stepped
  | pick task index =>
      simp only [LockOrder.step] at stepped
      split at stepped
      · rename_i body rest stack
        cases stepped
        exact queued.run [body index] stack
      · cases stepped
  | acquire task =>
      simp only [LockOrder.step] at stepped
      split at stepped
      · rename_i stack
        split at stepped
        · rename_i ready
          cases stepped
          exact queued.grant stack ready.1
        · cases stepped
      · cases stepped
  | abandon task =>
      simp only [LockOrder.step] at stepped
      split at stepped
      · rename_i stack
        cases stepped
        exact queued.withdraw stack
      · cases stepped
  | cancel task =>
      cases stepped
      exact queued.forget

theorem queued_of_reachable (reachable : (system program).Reachable state) : Queued state :=
  reachable.invariant queued_idle fun _ _ _ _ queued _ stepped => queued.step stepped

/-! ## Progress -/

/-- The task can take a step of its own that is none of those excluded. -/
def CanGoOn (program : Entry → LockProgram Lock Index) (indexes : Finset Index)
    (state : State Task Lock Index) (task : Task) : Prop :=
  ∃ (action : Action Task Index Entry) (next : State Task Lock Index), action.task = task ∧
    Continues indexes state action ∧ LockOrder.step program state action = some next

theorem canGoOn_of_plain {indexes : Finset Index} (some_ : indexes.Nonempty)
    (unfinished : state.stack task ≠ []) (plain : Plain (state.stack task)) :
    CanGoOn program indexes state task := by
  rcases some_ with ⟨index, member⟩
  cases stack : state.stack task with
  | nil => exact absurd stack unfinished
  | cons frame rest =>
      cases frame with
      | await lock mode body =>
          exact absurd (stack ▸ List.mem_cons_self) (plain lock mode body)
      | release lock mode => exact ⟨.go task, _, rfl, trivial, by
              simp only [LockOrder.step, stack]
              rfl⟩
      | run top =>
          cases top with
          | skip => exact ⟨.go task, _, rfl, trivial, by
              simp only [LockOrder.step, stack]
              rfl⟩
          | seq => exact ⟨.go task, _, rfl, trivial, by
              simp only [LockOrder.step, stack]
              rfl⟩
          | hold => exact ⟨.go task, _, rfl, trivial, by
              simp only [LockOrder.step, stack]
              rfl⟩
          | choice => exact ⟨.right task, _, rfl, trivial, by
              simp only [LockOrder.step, stack]
              rfl⟩
          | loop => exact ⟨.right task, _, rfl, trivial, by
              simp only [LockOrder.step, stack]
              rfl⟩
          | pick => exact ⟨.pick task index, _, rfl, member, by
              simp only [LockOrder.step, stack]
              rfl⟩

/-- A task that waits and does not get its guard waits for another one. -/
theorem Queued.canGoOn_or_blocked {indexes : Finset Index} (queued : Queued state) {lock : Lock}
    {mode : LockMode} {body : LockProgram Lock Index}
    (stack : state.stack task = .await lock mode body :: rest) :
    CanGoOn program indexes state task ∨ ∃ other, state.BlockedBy task other := by
  have waiting := queued.waiting task lock mode body rest stack
  rcases List.append_of_mem waiting with ⟨front, back, queue⟩
  cases front with
  | cons first front =>
      right
      refine ⟨first.1, lock, ⟨mode, waiting⟩, .inr ⟨first :: front, mode, back, queue, first.2, ?_⟩⟩
      exact List.mem_cons_self
  | nil =>
      have head : (state.queue lock).head? = some (task, mode) := by rw [queue]; rfl
      by_cases admits : Admits (state.holders lock) mode
      · refine .inl ⟨.acquire task, state.grant task lock mode body rest, rfl, trivial, ?_⟩
        simp only [LockOrder.step, stack]
        exact if_pos ⟨head, admits⟩
      · rcases exists_holder_of_not_admits admits with ⟨holder, member⟩
        exact .inr ⟨holder.1, lock, ⟨mode, waiting⟩, .inl ⟨holder.2, member⟩⟩

/-- Each task that has not ended waits, in the end, for one that can go on. -/
theorem Ordered.leads_on {rank : Lock → Nat} {limit : Nat} {indexes : Finset Index}
    (ordered : Ordered rank state) (limited : ∀ lock, rank lock < limit)
    (queued : Queued state) (some_ : indexes.Nonempty) (unfinished : state.stack task ≠ []) :
    ∃ other, Relation.ReflTransGen state.BlockedBy task other ∧
      CanGoOn program indexes state other := by
  by_contra stuck
  -- The tasks that lead to none that can go on would wait for each other in a circle.
  refine ordered.not_deadlocked limited { waiter | state.stack waiter ≠ [] ∧
    ¬ ∃ other, Relation.ReflTransGen state.BlockedBy waiter other ∧
      CanGoOn program indexes state other } ⟨⟨task, unfinished, stuck⟩, ?_⟩
  intro waiter member
  rcases member with ⟨waits, leads⟩
  have idle : ¬ CanGoOn program indexes state waiter := fun goes => leads ⟨waiter, .refl, goes⟩
  cases stack : state.stack waiter with
  | nil => exact absurd stack waits
  | cons frame rest =>
      have asks : ∃ lock mode body, frame = .await lock mode body := by
        by_contra plain
        refine idle (canGoOn_of_plain some_ waits ?_)
        intro lock mode body asked
        rw [stack] at asked
        rcases List.mem_cons.mp asked with top | below
        · exact plain ⟨lock, mode, body, top.symm⟩
        · exact queued.plain_rest stack lock mode body below
      rcases asks with ⟨lock, mode, body, rfl⟩
      rcases queued.canGoOn_or_blocked stack with goes | ⟨other, blocked⟩
      · exact absurd goes idle
      · have further : ¬ ∃ last, Relation.ReflTransGen state.BlockedBy other last ∧
            CanGoOn program indexes state last := by
          intro found
          rcases found with ⟨last, chain, goes⟩
          exact leads ⟨last, .head blocked chain, goes⟩
        have inside := ordered.unfinished_of_blocks blocked
        rcases blocked with ⟨wanted, waiting, blocks⟩
        exact ⟨wanted, waiting, other, ⟨inside, further⟩, blocks⟩

/-! ## The end -/

/-- A step changes one stack, and where it goes on it makes it smaller. -/
theorem stack_of_step (indexes : Finset Index)
    (stepped : LockOrder.step program state action = some next) :
    ∃ stack, next.stack = Function.update state.stack action.task stack ∧
      (Continues indexes state action →
        stackSize indexes stack < stackSize indexes (state.stack action.task)) := by
  cases action with
  | spawn task entry =>
      simp only [LockOrder.step] at stepped
      split at stepped
      · cases stepped
        exact ⟨_, rfl, False.elim⟩
      · cases stepped
  | go task =>
      simp only [LockOrder.step] at stepped
      split at stepped
      all_goals cases stepped
      all_goals
        rename_i stack
        refine ⟨_, rfl, fun _ => ?_⟩
        simp only [Action.task, stack, stackSize_cons, Frame.size, LockProgram.size]
        omega
  | left task =>
      simp only [LockOrder.step] at stepped
      split at stepped
      · rename_i left right rest stack
        cases stepped
        refine ⟨_, rfl, fun _ => ?_⟩
        have less := Nat.le_max_left (left.size indexes) (right.size indexes)
        simp only [Action.task, stack, stackSize_cons, Frame.size, LockProgram.size]
        omega
      · rename_i body rest stack
        cases stepped
        exact ⟨_, rfl, fun leaves => absurd stack (leaves body rest)⟩
      · cases stepped
  | right task =>
      simp only [LockOrder.step] at stepped
      split at stepped
      · rename_i left right rest stack
        cases stepped
        refine ⟨_, rfl, fun _ => ?_⟩
        have less := Nat.le_max_right (left.size indexes) (right.size indexes)
        simp only [Action.task, stack, stackSize_cons, Frame.size, LockProgram.size]
        omega
      · rename_i stack
        cases stepped
        refine ⟨_, rfl, fun _ => ?_⟩
        simp only [Action.task, stack, stackSize_cons, Frame.size, LockProgram.size]
        omega
      · cases stepped
  | pick task index =>
      simp only [LockOrder.step] at stepped
      split at stepped
      · rename_i body rest stack
        cases stepped
        refine ⟨_, rfl, fun member => ?_⟩
        have less := LockProgram.size_pick_lt member body
        simp only [Action.task, stack, stackSize_cons, Frame.size]
        exact Nat.add_lt_add_right less _
      · cases stepped
  | acquire task =>
      simp only [LockOrder.step] at stepped
      split at stepped
      · rename_i stack
        split at stepped
        · cases stepped
          refine ⟨_, rfl, fun _ => ?_⟩
          simp only [Action.task, stack, stackSize_cons, Frame.size]
          omega
        · cases stepped
      · cases stepped
  | abandon task =>
      simp only [LockOrder.step] at stepped
      split at stepped
      · cases stepped
        exact ⟨_, rfl, False.elim⟩
      · cases stepped
  | cancel task =>
      cases stepped
      exact ⟨_, rfl, False.elim⟩

def Among (tasks : Finset Task) (state : State Task Lock Index) : Prop :=
  ∀ task, task ∉ tasks → state.stack task = []

theorem Among.step {tasks : Finset Task} (among : Among tasks state)
    (stepped : LockOrder.step program state action = some next) :
    Among (insert action.task tasks) next := by
  rcases stack_of_step ∅ stepped with ⟨stack, changed, _⟩
  intro task outside
  rw [Finset.mem_insert, not_or] at outside
  rw [changed, Function.update_of_ne outside.1]
  exact among task outside.2

theorem exists_among_of_reachable (reachable : (system program).Reachable state) :
    ∃ tasks, Among tasks state := by
  induction reachable with
  | refl => exact ⟨∅, fun _ _ => rfl⟩
  | step _ _ stepped induction =>
      rcases induction with ⟨tasks, among⟩
      exact ⟨_, among.step stepped⟩

/-- A reachable state in which these tasks are left. -/
structure Known (program : Entry → LockProgram Lock Index) (tasks : Finset Task)
    (state : State Task Lock Index) : Prop where
  reachable : (system program).Reachable state
  among : Among tasks state

theorem Known.less {indexes : Finset Index} {tasks : Finset Task}
    (known : Known program tasks state) (continues : Continues indexes state action)
    (stepped : LockOrder.step program state action = some next) :
    Known program tasks next ∧ next.work indexes tasks < state.work indexes tasks := by
  rcases stack_of_step indexes stepped with ⟨stack, changed, smaller⟩
  have less := smaller continues
  have inside : action.task ∈ tasks := by
    by_contra outside
    rw [known.among _ outside] at less
    exact absurd less (Nat.not_lt_zero _)
  refine ⟨⟨.step known.reachable trivial stepped, ?_⟩, ?_⟩
  · have among := known.among.step stepped
    rwa [Finset.insert_eq_of_mem inside] at among
  · refine Finset.sum_lt_sum (fun task _ => ?_) ⟨action.task, inside, ?_⟩
    · rw [changed]
      by_cases own : task = action.task
      · rw [own, Function.update_self]
        exact Nat.le_of_lt less
      · rw [Function.update_of_ne own]
    · rwa [changed, Function.update_self]

/-- When every program takes its locks in the order of the rank, the tasks come to an end,
however they take turns. -/
theorem drains {rank : Lock → Nat} {limit : Nat} {indexes : Finset Index}
    (orders : ∀ entry, (program entry).Above rank 0) (limited : ∀ lock, rank lock < limit)
    (some_ : indexes.Nonempty) (tasks : Finset Task) :
    (system program).Drains (Continues indexes) (Known program tasks) (State.work indexes tasks)
      State.Finished where
  kept := fun _ _ _ known continues stepped => (known.less continues stepped).1
  less := fun _ _ _ known continues stepped => (known.less continues stepped).2
  progress := by
    intro state known unfinished
    have ordered := ordered_of_reachable orders known.reachable
    have active : ∃ task, state.stack task ≠ [] := by
      by_contra idle
      refine unfinished (finished_of_stacks ordered fun task => ?_)
      by_contra active
      exact idle ⟨task, active⟩
    rcases active with ⟨task, active⟩
    have leads : ∃ other, Relation.ReflTransGen state.BlockedBy task other ∧
        CanGoOn program indexes state other :=
      ordered.leads_on limited (queued_of_reachable known.reachable) some_ active
    rcases leads with ⟨_, _, action, next, _, goes⟩
    exact ⟨action, next, goes⟩

end

end LockOrder

end IoGateway

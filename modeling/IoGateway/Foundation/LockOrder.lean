import IoGateway.Foundation.TransitionSystem
import Mathlib.Data.List.Nodup
import Mathlib.Data.Set.Basic
import Mathlib.Logic.Function.Basic

/-! # Tasks that take locks in an order

Tasks take read and write guards on locks and drop them. A request joins the
lock's queue; the head of the queue gets its guard when the guards that are held
admit it, so that nobody overtakes a request that came before. When every task
takes its locks in the order of a rank, no set of tasks waits for itself.
-/

namespace IoGateway

inductive LockMode
  | read
  | write
deriving DecidableEq, Repr

/-- The acquisitions and releases of a function, up to what it computes: a guard is
held around a body, branches may go either way, loops may end after any round, and a
lock may be picked among many. -/
inductive LockProgram (Lock : Type u) (Index : Type v)
  | skip
  | seq (first second : LockProgram Lock Index)
  | choice (left right : LockProgram Lock Index)
  | loop (body : LockProgram Lock Index)
  | pick (body : Index → LockProgram Lock Index)
  | hold (lock : Lock) (mode : LockMode) (body : LockProgram Lock Index)

namespace LockProgram

variable {Lock : Type u} {Index : Type v} {rank : Lock → Nat}

def all : List (LockProgram Lock Index) → LockProgram Lock Index
  | [] => skip
  | program :: rest => seq program (all rest)

def oneOf : List (LockProgram Lock Index) → LockProgram Lock Index
  | [] => skip
  | program :: rest => choice program (oneOf rest)

/-- A guard that is dropped as soon as it is there. -/
def touch (lock : Lock) (mode : LockMode) : LockProgram Lock Index :=
  hold lock mode skip

/-- The program takes locks of at least this rank, and above those it holds. -/
def Above (rank : Lock → Nat) : Nat → LockProgram Lock Index → Prop
  | _, skip => True
  | bound, seq first second => Above rank bound first ∧ Above rank bound second
  | bound, choice left right => Above rank bound left ∧ Above rank bound right
  | bound, loop body => Above rank bound body
  | bound, pick body => ∀ index, Above rank bound (body index)
  | bound, hold lock _ body => bound ≤ rank lock ∧ Above rank (rank lock + 1) body

theorem Above.mono {program : LockProgram Lock Index} {bound lower : Nat}
    (above : program.Above rank bound) (le : lower ≤ bound) : program.Above rank lower := by
  induction program generalizing bound lower with
  | skip => trivial
  | seq first second inductionFirst inductionSecond =>
      exact ⟨inductionFirst above.1 le, inductionSecond above.2 le⟩
  | choice left right inductionLeft inductionRight =>
      exact ⟨inductionLeft above.1 le, inductionRight above.2 le⟩
  | loop body induction =>
      have inner : body.Above rank bound := above
      exact induction inner le
  | pick body induction => exact fun index => induction index (above index) le
  | hold lock mode body induction => exact ⟨Nat.le_trans le above.1, above.2⟩

section

variable {bound : Nat} {first second left right body : LockProgram Lock Index} {lock : Lock}
  {mode : LockMode} {program : LockProgram Lock Index} {rest : List (LockProgram Lock Index)}

@[simp] theorem above_skip : (skip : LockProgram Lock Index).Above rank bound := trivial

@[simp] theorem above_seq :
    (seq first second).Above rank bound ↔ first.Above rank bound ∧ second.Above rank bound :=
  Iff.rfl

@[simp] theorem above_choice :
    (choice left right).Above rank bound ↔ left.Above rank bound ∧ right.Above rank bound :=
  Iff.rfl

@[simp] theorem above_loop : (loop body).Above rank bound ↔ body.Above rank bound := Iff.rfl

@[simp] theorem above_pick {body : Index → LockProgram Lock Index} :
    (pick body).Above rank bound ↔ ∀ index, (body index).Above rank bound := Iff.rfl

@[simp] theorem above_hold :
    (hold lock mode body).Above rank bound ↔
      bound ≤ rank lock ∧ body.Above rank (rank lock + 1) := Iff.rfl

@[simp] theorem above_touch :
    (touch lock mode : LockProgram Lock Index).Above rank bound ↔ bound ≤ rank lock :=
  ⟨fun above => above.1, fun le => ⟨le, trivial⟩⟩

@[simp] theorem above_all_nil : (all [] : LockProgram Lock Index).Above rank bound := trivial

@[simp] theorem above_all_cons :
    (all (program :: rest)).Above rank bound ↔
      program.Above rank bound ∧ (all rest).Above rank bound := Iff.rfl

@[simp] theorem above_oneOf_nil : (oneOf [] : LockProgram Lock Index).Above rank bound := trivial

@[simp] theorem above_oneOf_cons :
    (oneOf (program :: rest)).Above rank bound ↔
      program.Above rank bound ∧ (oneOf rest).Above rank bound := Iff.rfl

end

end LockProgram

namespace LockOrder

/-- What a task has still to do: programs to run, a guard it has asked for with what it
does under it, guards to drop. -/
inductive Frame (Lock : Type u) (Index : Type v)
  | run (program : LockProgram Lock Index)
  | await (lock : Lock) (mode : LockMode) (body : LockProgram Lock Index)
  | release (lock : Lock) (mode : LockMode)

structure State (Task : Type w) (Lock : Type u) (Index : Type v) where
  stack : Task → List (Frame Lock Index)
  holders : Lock → List (Task × LockMode)
  queue : Lock → List (Task × LockMode)

/-- A task may be spawned at any time. A request may be given up and a task may be
cancelled, as by a timeout or an abort. -/
inductive Action (Task : Type w) (Index : Type v) (Entry : Type x)
  | spawn (task : Task) (entry : Entry)
  | go (task : Task)
  | left (task : Task)
  | right (task : Task)
  | pick (task : Task) (index : Index)
  | acquire (task : Task)
  | abandon (task : Task)
  | cancel (task : Task)

variable {Task : Type w} {Lock : Type u} {Index : Type v} {Entry : Type x}

def Admits (holders : List (Task × LockMode)) : LockMode → Prop
  | .read => ∀ holder ∈ holders, holder.2 = .read
  | .write => holders = []

instance [DecidableEq Task] (holders : List (Task × LockMode)) (mode : LockMode) :
    Decidable (Admits holders mode) :=
  match mode with
  | .read => inferInstanceAs (Decidable (∀ holder ∈ holders, holder.2 = .read))
  | .write => inferInstanceAs (Decidable (holders = []))

namespace State

def idle : State Task Lock Index where
  stack := fun _ => []
  holders := fun _ => []
  queue := fun _ => []

variable [DecidableEq Task] [DecidableEq Lock]

def setStack (state : State Task Lock Index) (task : Task) (stack : List (Frame Lock Index)) :
    State Task Lock Index :=
  { state with stack := Function.update state.stack task stack }

def request (state : State Task Lock Index) (task : Task) (lock : Lock) (mode : LockMode)
    (body : LockProgram Lock Index) (rest : List (Frame Lock Index)) : State Task Lock Index :=
  { state.setStack task (.await lock mode body :: rest) with
    queue := Function.update state.queue lock (state.queue lock ++ [(task, mode)]) }

def grant (state : State Task Lock Index) (task : Task) (lock : Lock) (mode : LockMode)
    (body : LockProgram Lock Index) (rest : List (Frame Lock Index)) : State Task Lock Index :=
  { state.setStack task (.run body :: .release lock mode :: rest) with
    queue := Function.update state.queue lock (state.queue lock).tail
    holders := Function.update state.holders lock ((task, mode) :: state.holders lock) }

def drop (state : State Task Lock Index) (task : Task) (lock : Lock) (mode : LockMode)
    (rest : List (Frame Lock Index)) : State Task Lock Index :=
  { state.setStack task rest with
    holders := Function.update state.holders lock ((state.holders lock).erase (task, mode)) }

def withdraw (state : State Task Lock Index) (task : Task) (lock : Lock)
    (rest : List (Frame Lock Index)) : State Task Lock Index :=
  { state.setStack task rest with
    queue := Function.update state.queue lock
      ((state.queue lock).filter fun waiter => waiter.1 ≠ task) }

def forget (state : State Task Lock Index) (task : Task) : State Task Lock Index where
  stack := Function.update state.stack task []
  holders := fun lock => (state.holders lock).filter fun holder => holder.1 ≠ task
  queue := fun lock => (state.queue lock).filter fun waiter => waiter.1 ≠ task

end State

section

variable [DecidableEq Task] [DecidableEq Lock]

def step (program : Entry → LockProgram Lock Index) (state : State Task Lock Index) :
    Action Task Index Entry → Option (State Task Lock Index)
  | .spawn task entry =>
      match state.stack task with
      | [] => some (state.setStack task [.run (program entry)])
      | _ => none
  | .go task =>
      match state.stack task with
      | .run .skip :: rest => some (state.setStack task rest)
      | .run (.seq first second) :: rest =>
          some (state.setStack task (.run first :: .run second :: rest))
      | .run (.hold lock mode body) :: rest => some (state.request task lock mode body rest)
      | .release lock mode :: rest => some (state.drop task lock mode rest)
      | _ => none
  | .left task =>
      match state.stack task with
      | .run (.choice left _) :: rest => some (state.setStack task (.run left :: rest))
      | .run (.loop body) :: rest =>
          some (state.setStack task (.run body :: .run (.loop body) :: rest))
      | _ => none
  | .right task =>
      match state.stack task with
      | .run (.choice _ right) :: rest => some (state.setStack task (.run right :: rest))
      | .run (.loop _) :: rest => some (state.setStack task rest)
      | _ => none
  | .pick task index =>
      match state.stack task with
      | .run (.pick body) :: rest => some (state.setStack task (.run (body index) :: rest))
      | _ => none
  | .acquire task =>
      match state.stack task with
      | .await lock mode body :: rest =>
          if (state.queue lock).head? = some (task, mode) ∧ Admits (state.holders lock) mode then
            some (state.grant task lock mode body rest)
          else none
      | _ => none
  | .abandon task =>
      match state.stack task with
      | .await lock _ _ :: rest => some (state.withdraw task lock rest)
      | _ => none
  | .cancel task => some (state.forget task)

def system (program : Entry → LockProgram Lock Index) :
    TransitionSystem (State Task Lock Index) (Action Task Index Entry) where
  start := .idle
  step := step program

end

/-! ## Waiting -/

namespace State

def Holds (state : State Task Lock Index) (task : Task) (lock : Lock) : Prop :=
  ∃ mode, (task, mode) ∈ state.holders lock

def Waits (state : State Task Lock Index) (task : Task) (lock : Lock) : Prop :=
  ∃ mode, (task, mode) ∈ state.queue lock

/-- The one task has asked for the lock before the other, and both still wait. -/
def Ahead (state : State Task Lock Index) (lock : Lock) (task other : Task) : Prop :=
  ∃ front mode back, state.queue lock = front ++ (other, mode) :: back ∧
    ∃ earlier, (task, earlier) ∈ front

/-- Each task of the set waits for a lock that another one of the set holds, or has
asked for before. -/
def Deadlocked (state : State Task Lock Index) (tasks : Set Task) : Prop :=
  tasks.Nonempty ∧ ∀ task ∈ tasks, ∃ lock, state.Waits task lock ∧
    ∃ other ∈ tasks, state.Holds other lock ∨ state.Ahead lock other task

end State

/-! ## Tasks that follow the rank -/

section

variable (rank : Lock → Nat)

def bound : List (Frame Lock Index) → Nat
  | [] => 0
  | .release lock _ :: rest => max (rank lock + 1) (bound rest)
  | _ :: rest => bound rest

def StackOrdered : List (Frame Lock Index) → Prop
  | [] => True
  | .run program :: rest => program.Above rank (bound rank rest) ∧ StackOrdered rest
  | .await lock mode body :: rest =>
      (LockProgram.hold lock mode body).Above rank (bound rank rest) ∧ StackOrdered rest
  | .release _ _ :: rest => StackOrdered rest

variable {rank}

theorem rank_lt_bound {stack : List (Frame Lock Index)} {lock : Lock} {mode : LockMode}
    (held : .release lock mode ∈ stack) : rank lock < bound rank stack := by
  induction stack with
  | nil => cases held
  | cons frame rest induction =>
      cases held with
      | head => exact Nat.lt_of_succ_le (Nat.le_max_left _ _)
      | tail _ later =>
          have below := induction later
          cases frame with
          | release other _ => exact Nat.lt_of_lt_of_le below (Nat.le_max_right _ _)
          | run => exact below
          | await => exact below

end

/-- The tables agree with the stacks, and the stacks follow the rank. -/
structure Ordered (rank : Lock → Nat) (state : State Task Lock Index) : Prop where
  stack : ∀ task, StackOrdered rank (state.stack task)
  holders : ∀ lock task mode, (task, mode) ∈ state.holders lock →
    .release lock mode ∈ state.stack task
  holdersNodup : ∀ lock, (state.holders lock).Nodup
  queue : ∀ lock task mode, (task, mode) ∈ state.queue lock →
    ∃ body rest, state.stack task = .await lock mode body :: rest
  queueNodup : ∀ lock, ((state.queue lock).map Prod.fst).Nodup

section

variable {rank : Lock → Nat} {state next : State Task Lock Index} {task : Task}
  {rest : List (Frame Lock Index)}

theorem ordered_idle : Ordered rank (State.idle : State Task Lock Index) where
  stack := fun _ => trivial
  holders := fun _ _ _ held => by cases held
  holdersNodup := fun _ => List.nodup_nil
  queue := fun _ _ _ queued => by cases queued
  queueNodup := fun _ => List.nodup_nil

/-- A task that is not at a request is in no queue. -/
theorem Ordered.not_mem_queue (ordered : Ordered rank state)
    (running : ∀ lock mode body rest, state.stack task ≠ .await lock mode body :: rest)
    (lock : Lock) (mode : LockMode) : (task, mode) ∉ state.queue lock := by
  intro queued
  rcases ordered.queue lock task mode queued with ⟨body, rest, stack⟩
  exact running lock mode body rest stack

/-- A task waits for the lock of its topmost request only. -/
theorem Ordered.lock_eq {lock key : Lock} {mode asked : LockMode} {body : LockProgram Lock Index}
    (ordered : Ordered rank state) (stack : state.stack task = .await lock mode body :: rest)
    (queued : (task, asked) ∈ state.queue key) : key = lock ∧ asked = mode := by
  rcases ordered.queue key task asked queued with ⟨other, below, same⟩
  rw [stack] at same
  injection same with frames
  injection frames with locks modes
  exact ⟨locks.symm, modes.symm⟩

/-- A task that holds a lock waits for one of a higher rank, if for any. -/
theorem Ordered.rank_lt {held wanted : Lock} (ordered : Ordered rank state)
    (holds : state.Holds task held) (waits : state.Waits task wanted) :
    rank held < rank wanted := by
  rcases holds with ⟨mode, holder⟩
  rcases waits with ⟨asked, waiter⟩
  rcases ordered.queue wanted task asked waiter with ⟨body, rest, stack⟩
  have inStack := ordered.holders held task mode holder
  have follows := ordered.stack task
  rw [stack] at inStack follows
  have inRest : .release held mode ∈ rest := by simpa using inStack
  exact Nat.lt_of_lt_of_le (rank_lt_bound inRest) follows.1.1

theorem Ordered.waits_unique {first second : Lock} (ordered : Ordered rank state)
    (one : state.Waits task first) (two : state.Waits task second) : first = second := by
  rcases one with ⟨mode, waiter⟩
  rcases two with ⟨asked, again⟩
  rcases ordered.queue first task mode waiter with ⟨body, rest, stack⟩
  exact (ordered.lock_eq stack again).1.symm

variable [DecidableEq Task]

/-! ## No deadlock -/

theorem idxOf_lt_of_ahead {other : Task} (nodup : ((state.queue lock).map Prod.fst).Nodup)
    (ahead : state.Ahead lock other task) :
    ((state.queue lock).map Prod.fst).idxOf other <
      ((state.queue lock).map Prod.fst).idxOf task := by
  rcases ahead with ⟨front, mode, back, queue, earlier, inFront⟩
  rw [queue, List.map_append, List.map_cons] at nodup ⊢
  have member : other ∈ front.map Prod.fst := List.mem_map.mpr ⟨_, inFront, rfl⟩
  have outside : task ∉ front.map Prod.fst := by
    intro inside
    exact (List.nodup_append.mp nodup).2.2 task inside task (List.mem_cons_self ..) rfl
  rw [List.idxOf_append_of_mem member, List.idxOf_append_of_notMem outside]
  exact Nat.lt_add_right _ (List.idxOf_lt_length_of_mem member)

theorem Ordered.not_deadlocked {limit : Nat} (ordered : Ordered rank state)
    (limited : ∀ lock, rank lock < limit) (tasks : Set Task) : ¬ state.Deadlocked tasks := by
  rintro ⟨⟨task, member⟩, deadlocked⟩
  -- downwards on the rank of the lock waited for, then along its queue
  have unwaited : ∀ distance position lock task, limit - rank lock = distance →
      ((state.queue lock).map Prod.fst).idxOf task = position → task ∈ tasks →
      ¬ state.Waits task lock := by
    intro distance
    induction distance using Nat.strong_induction_on with
    | _ distance higher =>
        intro position
        induction position using Nat.strong_induction_on with
        | _ position earlier =>
            intro lock task ranks places member waits
            rcases deadlocked task member with ⟨wanted, waiting, other, inside, blocks⟩
            cases ordered.waits_unique waits waiting
            rcases deadlocked other inside with ⟨next, otherWaits, _⟩
            cases blocks with
            | inl holds =>
                have above := ordered.rank_lt holds otherWaits
                have below := limited next
                exact higher (limit - rank next) (by omega) _ next other rfl rfl inside otherWaits
            | inr ahead =>
                have before := idxOf_lt_of_ahead (ordered.queueNodup lock) ahead
                have same : state.Waits other lock := by
                  rcases ahead with ⟨front, mode, back, queue, asked, inFront⟩
                  exact ⟨asked, by rw [queue]; exact List.mem_append_left _ inFront⟩
                exact earlier _ (by omega) lock other ranks rfl inside same
  rcases deadlocked task member with ⟨lock, waits, _⟩
  exact unwaited _ _ lock task rfl rfl member waits

/-! ## Steps -/

theorem Ordered.update {stack : List (Frame Lock Index)} (ordered : Ordered rank state)
    (changed : next.stack = Function.update state.stack task stack)
    (follows : StackOrdered rank stack)
    (held : ∀ lock mode, (task, mode) ∈ next.holders lock → .release lock mode ∈ stack)
    (otherHolders : ∀ lock other mode, other ≠ task → (other, mode) ∈ next.holders lock →
      (other, mode) ∈ state.holders lock)
    (holdersNodup : ∀ lock, (next.holders lock).Nodup)
    (queued : ∀ lock mode, (task, mode) ∈ next.queue lock →
      ∃ body rest, stack = .await lock mode body :: rest)
    (otherWaiters : ∀ lock other mode, other ≠ task → (other, mode) ∈ next.queue lock →
      (other, mode) ∈ state.queue lock)
    (queueNodup : ∀ lock, ((next.queue lock).map Prod.fst).Nodup) : Ordered rank next := by
  refine ⟨?_, ?_, holdersNodup, ?_, queueNodup⟩
  · intro other
    rw [changed]
    by_cases equal : other = task
    · subst equal
      rwa [Function.update_self]
    · rw [Function.update_of_ne equal]
      exact ordered.stack other
  · intro lock other mode holds
    rw [changed]
    by_cases equal : other = task
    · subst equal
      rw [Function.update_self]
      exact held lock mode holds
    · rw [Function.update_of_ne equal]
      exact ordered.holders lock other mode (otherHolders lock other mode equal holds)
  · intro lock other mode waits
    rw [changed]
    by_cases equal : other = task
    · subst equal
      rw [Function.update_self]
      exact queued lock mode waits
    · rw [Function.update_of_ne equal]
      exact ordered.queue lock other mode (otherWaiters lock other mode equal waits)

theorem Ordered.setStack {stack : List (Frame Lock Index)} (ordered : Ordered rank state)
    (running : ∀ lock mode body rest, state.stack task ≠ .await lock mode body :: rest)
    (follows : StackOrdered rank stack)
    (held : ∀ lock mode, .release lock mode ∈ state.stack task → .release lock mode ∈ stack) :
    Ordered rank (state.setStack task stack) :=
  ordered.update rfl follows
    (fun lock mode holds => held lock mode (ordered.holders lock task mode holds))
    (fun _ _ _ _ holds => holds) ordered.holdersNodup
    (fun lock mode queued => absurd queued (ordered.not_mem_queue running lock mode))
    (fun _ _ _ _ queued => queued) ordered.queueNodup

theorem Ordered.run (frames : List (Frame Lock Index)) {current : LockProgram Lock Index}
    (ordered : Ordered rank state) (stack : state.stack task = .run current :: rest)
    (follows : current.Above rank (bound rank rest) → StackOrdered rank rest →
      StackOrdered rank (frames ++ rest)) :
    Ordered rank (state.setStack task (frames ++ rest)) := by
  have before := ordered.stack task
  rw [stack] at before
  refine ordered.setStack (by simp [stack]) (follows before.1 before.2) ?_
  intro lock mode held
  rw [stack] at held
  cases held with
  | tail _ later => exact List.mem_append_right _ later

theorem Ordered.forget (ordered : Ordered rank state) : Ordered rank (state.forget task) := by
  refine ordered.update rfl trivial ?_ ?_ ?_ ?_ ?_ ?_
  · intro lock mode holds
    exact absurd rfl (of_decide_eq_true (List.mem_filter.mp holds).2)
  · intro lock other mode _ holds
    exact (List.mem_filter.mp holds).1
  · intro lock
    exact (ordered.holdersNodup lock).filter _
  · intro lock mode queued
    exact absurd rfl (of_decide_eq_true (List.mem_filter.mp queued).2)
  · intro lock other mode _ queued
    exact (List.mem_filter.mp queued).1
  · intro lock
    exact (ordered.queueNodup lock).sublist (List.filter_sublist.map _)

variable [DecidableEq Lock] {lock : Lock} {mode : LockMode} {body : LockProgram Lock Index}

theorem mem_of_mem_update {α : Type*} {table : Lock → List α} {entries : List α} {entry : α}
    {key : Lock} (member : entry ∈ Function.update table lock entries key) :
    (key = lock ∧ entry ∈ entries) ∨ (key ≠ lock ∧ entry ∈ table key) := by
  by_cases equal : key = lock
  · subst equal
    rw [Function.update_self] at member
    exact .inl ⟨rfl, member⟩
  · rw [Function.update_of_ne equal] at member
    exact .inr ⟨equal, member⟩

theorem forall_update {α : Type*} {table : Lock → List α} {entries : List α}
    (holds : List α → Prop) (new : holds entries) (old : ∀ key, holds (table key)) (key : Lock) :
    holds (Function.update table lock entries key) :=
  (Function.forall_update_iff table fun _ => holds).mpr ⟨new, fun other _ => old other⟩ key

theorem Ordered.request (ordered : Ordered rank state)
    (stack : state.stack task = .run (.hold lock mode body) :: rest) :
    Ordered rank (state.request task lock mode body rest) := by
  have outside : ∀ key asked, (task, asked) ∉ state.queue key :=
    ordered.not_mem_queue (by simp [stack])
  have follows := ordered.stack task
  rw [stack] at follows
  have queue : ∀ key waiter, waiter ∈ (state.request task lock mode body rest).queue key →
      waiter ∈ state.queue key ∨ key = lock ∧ waiter = (task, mode) := by
    intro key waiter queued
    rcases mem_of_mem_update queued with ⟨rfl, queued⟩ | ⟨-, queued⟩
    · simpa using queued
    · exact Or.inl queued
  refine ordered.update rfl follows ?_ (fun _ _ _ _ holds => holds) ordered.holdersNodup ?_ ?_ ?_
  · intro key held holds
    have before := ordered.holders key task held holds
    rw [stack] at before
    simpa using before
  · intro key asked queued
    cases queue key _ queued with
    | inl before => exact absurd before (outside key asked)
    | inr added =>
        rcases added with ⟨rfl, equal⟩
        injection equal with _ modes
        subst modes
        exact ⟨body, rest, rfl⟩
  · intro key other asked different queued
    cases queue key _ queued with
    | inl before => exact before
    | inr added =>
        injection added.2 with tasks _
        exact absurd tasks different
  · refine forall_update (fun waiters => (waiters.map Prod.fst).Nodup) ?_ ordered.queueNodup
    rw [List.map_append]
    refine List.nodup_append.mpr ⟨ordered.queueNodup lock, List.nodup_singleton _, ?_⟩
    intro other queued added new same
    subst same
    have equal : other = task := by simpa using new
    subst equal
    rcases List.mem_map.mp queued with ⟨⟨_, asked⟩, member, rfl⟩
    exact outside lock asked member

theorem Ordered.grant (ordered : Ordered rank state)
    (stack : state.stack task = .await lock mode body :: rest)
    (head : (state.queue lock).head? = some (task, mode)) :
    Ordered rank (state.grant task lock mode body rest) := by
  have follows := ordered.stack task
  rw [stack] at follows
  rcases follows with ⟨⟨above, inner⟩, below⟩
  rcases queue : state.queue lock with _ | ⟨first, waiters⟩
  · rw [queue] at head
    cases head
  rw [queue] at head
  injection head with head
  subst head
  -- the lock ranks above all that the task holds, so that the guard is its only one
  have fresh : ∀ held, .release lock held ∉ rest := fun held holds =>
    absurd (rank_lt_bound holds) (Nat.not_lt.mpr above)
  have nodup := ordered.queueNodup lock
  rw [queue, List.map_cons, List.nodup_cons] at nodup
  refine ordered.update rfl ⟨?_, below⟩ ?_ ?_ ?_ ?_ ?_ ?_
  · change body.Above rank (max (rank lock + 1) (bound rank rest))
    rwa [Nat.max_eq_left (Nat.le_succ_of_le above)]
  · intro key held holds
    have before : (task, held) ∈ state.holders key → .release key held ∈ rest := by
      intro member
      have inStack := ordered.holders key task held member
      rw [stack] at inStack
      simpa using inStack
    rcases mem_of_mem_update holds with ⟨rfl, holds⟩ | ⟨-, holds⟩
    · cases holds with
      | head => simp
      | tail _ earlier => exact absurd (before earlier) (fresh held)
    · exact List.mem_cons_of_mem _ (List.mem_cons_of_mem _ (before holds))
  · intro key other held different holds
    rcases mem_of_mem_update holds with ⟨rfl, holds⟩ | ⟨-, holds⟩
    · simpa [different] using holds
    · exact holds
  · refine forall_update List.Nodup ?_ ordered.holdersNodup
    refine List.nodup_cons.mpr ⟨?_, ordered.holdersNodup lock⟩
    intro holds
    have inStack := ordered.holders lock task mode holds
    rw [stack] at inStack
    exact fresh mode (by simpa using inStack)
  · intro key asked queued
    rcases mem_of_mem_update queued with ⟨rfl, queued⟩ | ⟨different, queued⟩
    · rw [queue] at queued
      exact absurd (List.mem_map.mpr ⟨_, queued, rfl⟩) nodup.1
    · exact absurd (ordered.lock_eq stack queued).1 different
  · intro key other asked _ queued
    rcases mem_of_mem_update queued with ⟨rfl, queued⟩ | ⟨-, queued⟩
    · exact List.mem_of_mem_tail queued
    · exact queued
  · refine forall_update (fun waiters => (waiters.map Prod.fst).Nodup) ?_ ordered.queueNodup
    rw [queue]
    exact nodup.2

theorem Ordered.drop (ordered : Ordered rank state)
    (stack : state.stack task = .release lock mode :: rest) :
    Ordered rank (state.drop task lock mode rest) := by
  have follows := ordered.stack task
  rw [stack] at follows
  have holders : ∀ key holder, holder ∈ (state.drop task lock mode rest).holders key →
      holder ∈ state.holders key ∧ (key = lock → holder ≠ (task, mode)) := by
    intro key holder holds
    rcases mem_of_mem_update holds with ⟨rfl, holds⟩ | ⟨different, holds⟩
    · have both := ((ordered.holdersNodup key).mem_erase_iff).mp holds
      exact ⟨both.2, fun _ => both.1⟩
    · exact ⟨holds, fun same => absurd same different⟩
  refine ordered.update rfl follows ?_ ?_ ?_ ?_ (fun _ _ _ _ queued => queued) ordered.queueNodup
  · intro key held holds
    rcases holders key _ holds with ⟨before, remaining⟩
    have inStack := ordered.holders key task held before
    rw [stack] at inStack
    cases inStack with
    | head => exact absurd rfl (remaining rfl)
    | tail _ later => exact later
  · intro key other held _ holds
    exact (holders key _ holds).1
  · exact forall_update List.Nodup ((ordered.holdersNodup lock).erase _) ordered.holdersNodup
  · intro key asked queued
    exact absurd queued (ordered.not_mem_queue (by simp [stack]) key asked)

theorem Ordered.withdraw (ordered : Ordered rank state)
    (stack : state.stack task = .await lock mode body :: rest) :
    Ordered rank (state.withdraw task lock rest) := by
  have follows := ordered.stack task
  rw [stack] at follows
  have queue : ∀ key waiter, waiter ∈ (state.withdraw task lock rest).queue key →
      waiter ∈ state.queue key ∧ (key = lock → waiter.1 ≠ task) := by
    intro key waiter queued
    rcases mem_of_mem_update queued with ⟨rfl, queued⟩ | ⟨different, queued⟩
    · simpa using queued
    · exact ⟨queued, fun same => absurd same different⟩
  refine ordered.update rfl follows.2 ?_ (fun _ _ _ _ holds => holds) ordered.holdersNodup ?_ ?_ ?_
  · intro key held holds
    have inStack := ordered.holders key task held holds
    rw [stack] at inStack
    simpa using inStack
  · intro key asked queued
    rcases queue key _ queued with ⟨before, others⟩
    exact absurd rfl (others (ordered.lock_eq stack before).1)
  · intro key other asked _ queued
    exact (queue key _ queued).1
  · exact forall_update (fun waiters => (waiters.map Prod.fst).Nodup)
      ((ordered.queueNodup lock).sublist (List.filter_sublist.map _)) ordered.queueNodup

/-! ## Runs -/

variable {program : Entry → LockProgram Lock Index} {action : Action Task Index Entry}

theorem Ordered.step (orders : ∀ entry, (program entry).Above rank 0)
    (ordered : Ordered rank state) (stepped : step program state action = some next) :
    Ordered rank next := by
  cases action with
  | spawn task entry =>
      simp only [LockOrder.step] at stepped
      split at stepped
      · rename_i empty
        cases stepped
        refine ordered.setStack (by simp [empty]) ⟨orders entry, trivial⟩ ?_
        simp [empty]
      · cases stepped
  | go task =>
      simp only [LockOrder.step] at stepped
      split at stepped
      · rename_i rest stack
        cases stepped
        exact ordered.run [] stack fun _ below => below
      · rename_i first second rest stack
        cases stepped
        exact ordered.run [.run first, .run second] stack
          fun above below => ⟨above.1, above.2, below⟩
      · rename_i stack
        cases stepped
        exact ordered.request stack
      · rename_i stack
        cases stepped
        exact ordered.drop stack
      · cases stepped
  | left task =>
      simp only [LockOrder.step] at stepped
      split at stepped
      · rename_i left right rest stack
        cases stepped
        exact ordered.run [.run left] stack fun above below => ⟨above.1, below⟩
      · rename_i body rest stack
        cases stepped
        exact ordered.run [.run body, .run (.loop body)] stack
          fun above below => ⟨above, above, below⟩
      · cases stepped
  | right task =>
      simp only [LockOrder.step] at stepped
      split at stepped
      · rename_i left right rest stack
        cases stepped
        exact ordered.run [.run right] stack fun above below => ⟨above.2, below⟩
      · rename_i body rest stack
        cases stepped
        exact ordered.run [] stack fun _ below => below
      · cases stepped
  | pick task index =>
      simp only [LockOrder.step] at stepped
      split at stepped
      · rename_i body rest stack
        cases stepped
        exact ordered.run [.run (body index)] stack
          fun above below => ⟨above index, below⟩
      · cases stepped
  | acquire task =>
      simp only [LockOrder.step] at stepped
      split at stepped
      · rename_i lock mode body rest stack
        split at stepped
        · rename_i ready
          cases stepped
          exact ordered.grant stack ready.1
        · cases stepped
      · cases stepped
  | abandon task =>
      simp only [LockOrder.step] at stepped
      split at stepped
      · rename_i stack
        cases stepped
        exact ordered.withdraw stack
      · cases stepped
  | cancel task =>
      cases stepped
      exact ordered.forget

theorem ordered_of_reachable (orders : ∀ entry, (program entry).Above rank 0)
    (reachable : (system program).Reachable state) : Ordered rank state :=
  reachable.invariant ordered_idle fun _ _ _ _ ordered _ stepped => ordered.step orders stepped

/-- When every program takes its locks in the order of the rank, tasks never wait
for each other in a circle. -/
theorem not_deadlocked_of_reachable {limit : Nat} (orders : ∀ entry, (program entry).Above rank 0)
    (limited : ∀ lock, rank lock < limit) (reachable : (system program).Reachable state)
    (tasks : Set Task) : ¬ state.Deadlocked tasks :=
  (ordered_of_reachable orders reachable).not_deadlocked limited tasks

end

end LockOrder

end IoGateway

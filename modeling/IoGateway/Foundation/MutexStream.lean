import IoGateway.Foundation.TransitionSystem
import Mathlib.Data.List.Perm.Basic
import Mathlib.Logic.Function.Basic

/-! # A stream written by many tasks under one mutex

Each task has a list of messages to send. It queues for the mutex with one
message at a time, writes the message's chunks one by one while it holds the
mutex, drops it, and then updates an account under some other lock. Tasks
interleave at every one of these steps, in any order.

The log records the messages in the order in which their tasks dropped the
mutex. It is history only: no step depends on it.
-/

namespace IoGateway.MutexStream

/-- The writes of one message and its effect on the account. -/
structure Protocol (Message : Type u) (Item : Type v) (Account : Type w) where
  chunks : Message → List (List Item)
  settle : Account → Message → Account

namespace Protocol

def bytes (protocol : Protocol Message Item Account) (message : Message) : List Item :=
  (protocol.chunks message).flatten

end Protocol

inductive Phase (Message : Type u) (Item : Type v)
  | idle
  | queued (message : Message)
  | writing (message : Message) (remaining : List (List Item))
  | released (message : Message)

/-- The message a task has begun and not yet logged. -/
def Phase.current : Phase Message Item → List Message
  | .idle => []
  | .queued message => [message]
  | .writing message _ => [message]
  | .released _ => []

structure State (Task Message Item Account : Type*) where
  todo : Task → List Message
  phase : Task → Phase Message Item
  holder : Option Task
  stream : List Item
  account : Account
  log : List (Task × Message)

inductive Action (Task : Type u)
  | begin (task : Task)
  | acquire (task : Task)
  | write (task : Task)
  | release (task : Task)
  | settle (task : Task)

variable {Task Message Item Account : Type*} [DecidableEq Task]

def step (protocol : Protocol Message Item Account) (state : State Task Message Item Account) :
    Action Task → Option (State Task Message Item Account)
  | .begin task =>
      match state.phase task, state.todo task with
      | .idle, message :: rest =>
          some { state with
            todo := Function.update state.todo task rest
            phase := Function.update state.phase task (.queued message) }
      | _, _ => none
  | .acquire task =>
      match state.phase task, state.holder with
      | .queued message, none =>
          some { state with
            phase := Function.update state.phase task (.writing message (protocol.chunks message))
            holder := some task }
      | _, _ => none
  | .write task =>
      match state.phase task with
      | .writing message (chunk :: remaining) =>
          some { state with
            phase := Function.update state.phase task (.writing message remaining)
            stream := state.stream ++ chunk }
      | _ => none
  | .release task =>
      match state.phase task with
      | .writing message [] =>
          some { state with
            phase := Function.update state.phase task (.released message)
            holder := none
            log := state.log ++ [(task, message)] }
      | _ => none
  | .settle task =>
      match state.phase task with
      | .released message =>
          some { state with
            phase := Function.update state.phase task .idle
            account := protocol.settle state.account message }
      | _ => none

def system (protocol : Protocol Message Item Account) (todo : Task → List Message)
    (account : Account) :
    TransitionSystem (State Task Message Item Account) (Action Task) where
  start := {
    todo := todo
    phase := fun _ => .idle
    holder := none
    stream := []
    account := account
    log := [] }
  step := step protocol

def entriesOf (log : List (Task × Message)) (task : Task) : List Message :=
  (log.filter fun entry => entry.1 = task).map Prod.snd

@[simp] theorem entriesOf_nil (task : Task) :
    entriesOf ([] : List (Task × Message)) task = [] := rfl

theorem entriesOf_append_single (log : List (Task × Message)) (owner task : Task)
    (message : Message) :
    entriesOf (log ++ [(owner, message)]) task =
      entriesOf log task ++ if owner = task then [message] else [] := by
  by_cases equal : owner = task
  · simp [entriesOf, equal]
  · simp [entriesOf, equal]

/-- `merged` contains every list's elements exactly once, each list in order. -/
def Interleaves (lists : Task → List Message) (merged : List Message) : Prop :=
  ∃ log : List (Task × Message),
    log.map Prod.snd = merged ∧ ∀ task, entriesOf log task = lists task

theorem Interleaves.map {Other : Type*} {lists : Task → List Message} {merged : List Message}
    (interleaves : Interleaves lists merged) (transform : Message → Other) :
    Interleaves (fun task => (lists task).map transform) (merged.map transform) := by
  rcases interleaves with ⟨log, logged, perTask⟩
  refine ⟨log.map fun entry => (entry.1, transform entry.2), ?_, ?_⟩
  · rw [← logged]
    simp
  · intro task
    simp only [← perTask task]
    simp [entriesOf, List.filter_map, Function.comp_def]

theorem Interleaves.mem {lists : Task → List Message} {merged : List Message}
    (interleaves : Interleaves lists merged) {message : Message} (member : message ∈ merged) :
    ∃ task, message ∈ lists task := by
  rcases interleaves with ⟨log, logged, perTask⟩
  rw [← logged] at member
  rcases List.mem_map.mp member with ⟨entry, member, equal⟩
  refine ⟨entry.1, ?_⟩
  rw [← perTask entry.1]
  exact List.mem_map.mpr ⟨entry, by simp [member], equal⟩

/-! ## The invariant -/

/-- The stream is the logged messages followed by what the holder of the mutex
has written of its own, and every task's messages are logged in order. -/
structure Coherent (protocol : Protocol Message Item Account) (todo : Task → List Message)
    (state : State Task Message Item Account) : Prop where
  exclusive : ∀ task message remaining,
    state.phase task = .writing message remaining → state.holder = some task
  streamed : ∃ part,
    state.stream = state.log.flatMap (fun entry => protocol.bytes entry.2) ++ part ∧
      match state.holder with
      | none => part = []
      | some task => ∃ message remaining,
          state.phase task = .writing message remaining ∧
            part ++ remaining.flatten = protocol.bytes message
  ordered : ∀ task,
    entriesOf state.log task ++ (state.phase task).current ++ state.todo task = todo task

variable {protocol : Protocol Message Item Account} {todo : Task → List Message}
variable {account : Account} {state next : State Task Message Item Account}

theorem coherent_start : Coherent protocol todo (system protocol todo account).start where
  exclusive := by
    intro task message remaining writing
    cases writing
  streamed := ⟨[], rfl, rfl⟩
  ordered := by
    intro task
    rfl

/-- A task that does not write can change its own phase without disturbing the
holder, as long as its current message and its list stay together. -/
theorem Coherent.update_phase (coherent : Coherent protocol todo state) (task : Task)
    (phase : Phase Message Item) (rest : List Message) (account : Account)
    (before : ∀ message remaining, state.phase task ≠ .writing message remaining)
    (after : ∀ message remaining, phase ≠ .writing message remaining)
    (current : phase.current ++ rest = (state.phase task).current ++ state.todo task) :
    Coherent protocol todo { state with
      todo := Function.update state.todo task rest
      phase := Function.update state.phase task phase
      account := account } where
  exclusive := by
    intro other message remaining writing
    by_cases equal : other = task
    · subst equal
      simp only [Function.update_self] at writing
      exact absurd writing (after message remaining)
    · simp only [Function.update_of_ne equal] at writing
      exact coherent.exclusive other message remaining writing
  streamed := by
    rcases coherent.streamed with ⟨part, stream, held⟩
    refine ⟨part, stream, ?_⟩
    cases holder : state.holder with
    | none => simpa [holder] using held
    | some owner =>
        simp only [holder] at held ⊢
        rcases held with ⟨message, remaining, writing, written⟩
        have different : owner ≠ task := by
          intro equal
          subst equal
          exact before message remaining writing
        exact ⟨message, remaining, by rw [Function.update_of_ne different, writing], written⟩
  ordered := by
    intro other
    have ordered := coherent.ordered other
    by_cases equal : other = task
    · subst equal
      simp only [Function.update_self]
      rw [List.append_assoc, current, ← List.append_assoc]
      exact ordered
    · simpa [Function.update_of_ne equal] using ordered

theorem Coherent.acquire (coherent : Coherent protocol todo state) {task : Task}
    {message : Message} (queued : state.phase task = .queued message)
    (free : state.holder = none) :
    Coherent protocol todo { state with
      phase := Function.update state.phase task (.writing message (protocol.chunks message))
      holder := some task } where
  exclusive := by
    intro other current remaining writing
    by_cases equal : other = task
    · rw [equal]
    · simp only [Function.update_of_ne equal] at writing
      have held := coherent.exclusive other current remaining writing
      rw [free] at held
      cases held
  streamed := by
    rcases coherent.streamed with ⟨part, stream, held⟩
    simp only [free] at held
    subst held
    exact ⟨[], stream, message, protocol.chunks message, by simp, rfl⟩
  ordered := by
    intro other
    have ordered := coherent.ordered other
    by_cases equal : other = task
    · subst equal
      simpa [queued, Phase.current] using ordered
    · simpa [Function.update_of_ne equal] using ordered

theorem Coherent.write (coherent : Coherent protocol todo state) {task : Task}
    {message : Message} {chunk : List Item} {remaining : List (List Item)}
    (writing : state.phase task = .writing message (chunk :: remaining)) :
    Coherent protocol todo { state with
      phase := Function.update state.phase task (.writing message remaining)
      stream := state.stream ++ chunk } where
  exclusive := by
    intro other current rest stillWriting
    by_cases equal : other = task
    · subst equal
      exact coherent.exclusive other message (chunk :: remaining) writing
    · simp only [Function.update_of_ne equal] at stillWriting
      exact coherent.exclusive other current rest stillWriting
  streamed := by
    have holder := coherent.exclusive task message (chunk :: remaining) writing
    rcases coherent.streamed with ⟨part, stream, held⟩
    simp only [holder] at held ⊢
    rcases held with ⟨current, rest, sameWriting, written⟩
    rw [writing] at sameWriting
    cases sameWriting
    refine ⟨part ++ chunk, ?_, message, remaining, by simp, ?_⟩
    · rw [stream, List.append_assoc]
    · rw [← written, List.flatten_cons, List.append_assoc]
  ordered := by
    intro other
    have ordered := coherent.ordered other
    by_cases equal : other = task
    · subst equal
      simpa [writing, Phase.current] using ordered
    · simpa [Function.update_of_ne equal] using ordered

theorem Coherent.release (coherent : Coherent protocol todo state) {task : Task}
    {message : Message} (writing : state.phase task = .writing message []) :
    Coherent protocol todo { state with
      phase := Function.update state.phase task (.released message)
      holder := none
      log := state.log ++ [(task, message)] } where
  exclusive := by
    intro other current rest stillWriting
    by_cases equal : other = task
    · subst equal
      simp at stillWriting
    · simp only [Function.update_of_ne equal] at stillWriting
      have mine := coherent.exclusive task message [] writing
      have theirs := coherent.exclusive other current rest stillWriting
      rw [mine] at theirs
      exact absurd (Option.some.inj theirs).symm equal
  streamed := by
    have holder := coherent.exclusive task message [] writing
    rcases coherent.streamed with ⟨part, stream, held⟩
    simp only [holder] at held
    rcases held with ⟨current, rest, sameWriting, written⟩
    rw [writing] at sameWriting
    cases sameWriting
    refine ⟨[], ?_, rfl⟩
    simp only [List.flatten_nil, List.append_nil] at written
    simp [stream, written]
  ordered := by
    intro other
    have ordered := coherent.ordered other
    rw [entriesOf_append_single]
    by_cases equal : other = task
    · subst equal
      simpa [writing, Phase.current] using ordered
    · have different : ¬ task = other := fun same => equal same.symm
      simpa [Function.update_of_ne equal, different] using ordered

theorem Coherent.step (coherent : Coherent protocol todo state) {action : Action Task}
    (stepped : MutexStream.step protocol state action = some next) :
    Coherent protocol todo next := by
  cases action with
  | begin task =>
      simp only [MutexStream.step] at stepped
      split at stepped
      · rename_i message rest idle pending
        cases stepped
        exact coherent.update_phase _ _ _ _ (by simp [idle]) (by simp)
          (by simp [idle, pending, Phase.current])
      · cases stepped
  | acquire task =>
      simp only [MutexStream.step] at stepped
      split at stepped
      · rename_i message queued free
        cases stepped
        exact coherent.acquire queued free
      · cases stepped
  | write task =>
      simp only [MutexStream.step] at stepped
      split at stepped
      · rename_i writing
        cases stepped
        exact coherent.write writing
      · cases stepped
  | release task =>
      simp only [MutexStream.step] at stepped
      split at stepped
      · rename_i message writing
        cases stepped
        exact coherent.release writing
      · cases stepped
  | settle task =>
      simp only [MutexStream.step] at stepped
      split at stepped
      · rename_i message released
        cases stepped
        have settled := coherent.update_phase task .idle (state.todo task)
          (protocol.settle state.account message)
          (by simp [released]) (by simp) (by simp [released, Phase.current])
        simpa using settled
      · cases stepped

theorem coherent_of_reachable
    (reachable : (system protocol todo account).Reachable state) :
    Coherent protocol todo state :=
  reachable.invariant coherent_start fun _ _ _ _ coherent _ stepped => coherent.step stepped

/-! ## Consequences -/

/-- While nobody holds the mutex the stream is a sequence of whole messages. -/
theorem stream_of_unlocked
    (reachable : (system protocol todo account).Reachable state)
    (unlocked : state.holder = none) :
    state.stream = state.log.flatMap fun entry => protocol.bytes entry.2 := by
  rcases (coherent_of_reachable reachable).streamed with ⟨part, stream, held⟩
  rw [unlocked] at held
  rw [stream, held, List.append_nil]

/-- Only messages that some task was given are sent. -/
theorem mem_todo_of_log (reachable : (system protocol todo account).Reachable state)
    {task : Task} {message : Message} (logged : (task, message) ∈ state.log) :
    message ∈ todo task := by
  rw [← (coherent_of_reachable reachable).ordered task]
  apply List.mem_append_left
  apply List.mem_append_left
  exact List.mem_map.mpr ⟨(task, message), by simp [logged], rfl⟩

def Finished (state : State Task Message Item Account) : Prop :=
  ∀ task, state.todo task = [] ∧ (state.phase task).current = []

theorem unlocked_of_finished
    (reachable : (system protocol todo account).Reachable state)
    (finished : Finished state) : state.holder = none := by
  rcases (coherent_of_reachable reachable).streamed with ⟨part, stream, held⟩
  cases holder : state.holder with
  | none => rfl
  | some task =>
      simp only [holder] at held
      rcases held with ⟨message, remaining, writing, -⟩
      have none := (finished task).2
      simp [writing, Phase.current] at none

/-- When every task has sent its list, the stream is an interleaving of the
lists, message by message. -/
theorem stream_of_finished
    (reachable : (system protocol todo account).Reachable state)
    (finished : Finished state) :
    ∃ merged, Interleaves todo merged ∧ state.stream = merged.flatMap protocol.bytes := by
  refine ⟨state.log.map Prod.snd, ⟨state.log, rfl, ?_⟩, ?_⟩
  · intro task
    have ordered := (coherent_of_reachable reachable).ordered task
    rw [(finished task).1, (finished task).2] at ordered
    simpa using ordered
  · rw [stream_of_unlocked reachable (unlocked_of_finished reachable finished)]
    simp [List.flatMap_map]

/-! ## The account -/

/-- The message a task has logged and not yet brought to account. -/
def Phase.unsettled : Phase Message Item → List Message
  | .released message => [message]
  | _ => []

/-- The account holds the messages that some list says, and every task's logged messages
are those of the list and the one it has not settled. -/
def Accounted (protocol : Protocol Message Item Account) (account : Account)
    (state : State Task Message Item Account) : Prop :=
  ∃ settled : List (Task × Message),
    state.account = (settled.map Prod.snd).foldl protocol.settle account ∧
    ∀ task, entriesOf settled task ++ (state.phase task).unsettled = entriesOf state.log task

theorem accounted_start : Accounted protocol account (system protocol todo account).start :=
  ⟨[], rfl, fun _ => rfl⟩

theorem Accounted.update_phase (accounted : Accounted protocol account state) {task : Task}
    {phase : Phase Message Item} {todo : Task → List Message} {holder : Option Task}
    {stream : List Item} (same : phase.unsettled = (state.phase task).unsettled) :
    Accounted protocol account { state with
      todo := todo
      phase := Function.update state.phase task phase
      holder := holder
      stream := stream } := by
  rcases accounted with ⟨settled, total, perTask⟩
  refine ⟨settled, total, ?_⟩
  intro other
  by_cases equal : other = task
  · subst equal
    simpa only [Function.update_self, same] using perTask other
  · simpa only [Function.update_of_ne equal] using perTask other

theorem Accounted.release (accounted : Accounted protocol account state) {task : Task}
    {message : Message} (writing : state.phase task = .writing message []) :
    Accounted protocol account { state with
      phase := Function.update state.phase task (.released message)
      holder := none
      log := state.log ++ [(task, message)] } := by
  rcases accounted with ⟨settled, total, perTask⟩
  refine ⟨settled, total, ?_⟩
  intro other
  have before := perTask other
  rw [entriesOf_append_single]
  by_cases equal : other = task
  · subst equal
    simpa [writing, Phase.unsettled] using before
  · have different : ¬ task = other := fun same => equal same.symm
    simpa [Function.update_of_ne equal, different] using before

theorem Accounted.settle (accounted : Accounted protocol account state) {task : Task}
    {message : Message} (released : state.phase task = .released message) :
    Accounted protocol account { state with
      phase := Function.update state.phase task .idle
      account := protocol.settle state.account message } := by
  rcases accounted with ⟨settled, total, perTask⟩
  refine ⟨settled ++ [(task, message)], ?_, ?_⟩
  · rw [List.map_append, List.foldl_append, ← total]
    rfl
  · intro other
    have before := perTask other
    rw [entriesOf_append_single]
    by_cases equal : other = task
    · subst equal
      simpa [released, Phase.unsettled] using before
    · have different : ¬ task = other := fun same => equal same.symm
      simpa [Function.update_of_ne equal, different] using before

theorem Accounted.step (accounted : Accounted protocol account state) {action : Action Task}
    (stepped : MutexStream.step protocol state action = some next) :
    Accounted protocol account next := by
  cases action with
  | begin task =>
      simp only [MutexStream.step] at stepped
      split at stepped
      · rename_i idle _
        cases stepped
        exact accounted.update_phase (by rw [idle]; rfl)
      · cases stepped
  | acquire task =>
      simp only [MutexStream.step] at stepped
      split at stepped
      · rename_i queued _
        cases stepped
        exact accounted.update_phase (by rw [queued]; rfl)
      · cases stepped
  | write task =>
      simp only [MutexStream.step] at stepped
      split at stepped
      · rename_i writing
        cases stepped
        exact accounted.update_phase (by rw [writing]; rfl)
      · cases stepped
  | release task =>
      simp only [MutexStream.step] at stepped
      split at stepped
      · rename_i writing
        cases stepped
        exact accounted.release writing
      · cases stepped
  | settle task =>
      simp only [MutexStream.step] at stepped
      split at stepped
      · rename_i released
        cases stepped
        exact accounted.settle released
      · cases stepped

theorem accounted_of_reachable
    (reachable : (system protocol todo account).Reachable state) :
    Accounted protocol account state :=
  reachable.invariant accounted_start fun _ _ _ _ accounted _ stepped => accounted.step stepped

theorem entriesOf_cons (owner task : Task) (message : Message) (log : List (Task × Message)) :
    entriesOf ((owner, message) :: log) task =
      (if owner = task then [message] else []) ++ entriesOf log task := by
  by_cases equal : owner = task
  · simp [entriesOf, equal]
  · simp [entriesOf, equal]

theorem count_entriesOf [DecidableEq Message] (task : Task) (message : Message) :
    ∀ log : List (Task × Message),
      (entriesOf log task).count message = log.count (task, message)
  | [] => rfl
  | (owner, other) :: log => by
      have induction := count_entriesOf task message log
      rw [entriesOf_cons, List.count_append, induction, List.count_cons, Nat.add_comm]
      by_cases equal : owner = task
      · simp [equal, List.count_singleton]
      · simp [equal]

theorem perm_of_entriesOf {first second : List (Task × Message)}
    (same : ∀ task, entriesOf first task = entriesOf second task) : first.Perm second := by
  classical
  apply List.perm_iff_count.mpr
  rintro ⟨task, message⟩
  rw [← count_entriesOf, ← count_entriesOf, same task]

/-- When no task has a message still to settle, the account holds the log, provided that
the order in which messages are settled does not matter. -/
theorem account_of_settled
    (reachable : (system protocol todo account).Reachable state)
    (settled : ∀ task, (state.phase task).unsettled = [])
    (comm : ∀ account first second, protocol.settle (protocol.settle account first) second =
      protocol.settle (protocol.settle account second) first) :
    state.account = (state.log.map Prod.snd).foldl protocol.settle account := by
  rcases accounted_of_reachable reachable with ⟨entries, total, perTask⟩
  have same : ∀ task, entriesOf entries task = entriesOf state.log task := by
    intro task
    rw [← perTask task, settled task, List.append_nil]
  rw [total]
  apply ((perm_of_entriesOf same).map Prod.snd).foldl_eq'
  intro first _ second _ account
  exact comm account first second

end IoGateway.MutexStream

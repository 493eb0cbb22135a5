import IoGateway.Foundation.LockProgress
import IoGateway.Locks

/-! # Waiting for locks

A socket operation that does not return holds up the tasks that wait for its task, and no
other ones. Where all of them return, the tasks of a process come to an end as soon as no
task is spawned and their loops are left.
-/

namespace IoGateway.Locks

open LockOrder

variable {TaskId : Type u} [DecidableEq TaskId]

/-- In every reachable state of a process, whatever tasks are stalled: where none of the others
can go on, each task that has not ended leads to a stalled one along tasks of which each waits
for a lock that the next one holds or has asked for before. As long as nothing is spawned,
given up or done once more, every run is bounded; where it cannot go on all tasks have ended
and nothing is locked or queued, and that can be reached. -/
theorem tasks_end (process : Process) {state : State TaskId Lock Nat}
    (reachable : (LockOrder.system process.program).Reachable state) (indexes : Finset Nat)
    (some_ : indexes.Nonempty) :
    (∀ stalled : Set TaskId,
      (∀ task, task ∉ stalled → ¬ CanGoOn process.program indexes state task) →
      ∀ task, state.stack task ≠ [] →
        ∃ other ∈ stalled, Relation.ReflTransGen state.BlockedBy task other) ∧
    (∃ bound, ∀ count final,
      (LockOrder.system process.program).ReachesIn (Continues indexes) state count final →
        count ≤ bound ∧
        (final.Finished ∨ ∃ task, CanGoOn process.program indexes final task)) ∧
    ∃ count final,
      (LockOrder.system process.program).ReachesIn (Continues indexes) state count final ∧
        final.Finished := by
  rcases exists_among_of_reachable reachable with ⟨tasks, among⟩
  have ends := drains process.above rank_lt some_ tasks
  refine ⟨fun stalled idle task active => ?_, ⟨state.work indexes tasks, ?_⟩, ?_⟩
  · have ordered := ordered_of_reachable process.above reachable
    rcases ordered.leads_on rank_lt (queued_of_reachable reachable) some_ active with
      ⟨other, chain, goes⟩
    refine ⟨other, ?_, chain⟩
    by_contra outside
    exact idle other outside goes
  · intro count final run
    have counted := ends.count_add_work_le ⟨reachable, among⟩ run
    refine ⟨Nat.le_trans (Nat.le_add_right _ _) counted, ?_⟩
    by_cases finished : final.Finished
    · exact .inl finished
    · have known := ends.known_of_run ⟨reachable, among⟩ run
      rcases ends.progress final known finished with ⟨action, next, goes⟩
      exact .inr ⟨action.task, action, next, rfl, goes⟩
  · exact ends.exists_done ⟨reachable, among⟩

/-- While the statistics are printed, a shutdown and a received packet wait. -/
theorem tasks_end_queued :
    ∃ state : State Nat Lock Nat, state.Holds 0 .links ∧ state.Waits 1 .links ∧
      state.Waits 2 .statistics ∧ ∃ count final,
        (LockOrder.system Process.server.program).ReachesIn (Continues {0}) state count final ∧
          final.Finished := by
  have executed : ((LockOrder.system Process.server.program).runChecked (fun _ _ => true)
      (LockOrder.State.idle : State Nat Lock Nat)
      [.spawn 0 .stdinLoopServer, .left 0, .go 0, .right 0, .go 0, .go 0, .go 0, .acquire 0,
        .go 0, .acquire 0,
        .spawn 1 .shutdown, .go 1, .go 1, .go 1,
        .spawn 2 (.clientExchange 0), .go 2, .left 2, .go 2, .go 2, .acquire 2, .left 2, .go 2,
        .go 2]).any (fun state => decide ((0, .read) ∈ state.holders .links ∧
          (1, .write) ∈ state.queue .links ∧ (2, .write) ∈ state.queue .statistics)) =
      true := by
    decide +kernel
  rcases TransitionSystem.exists_reaches_of_runChecked executed with ⟨state, reaches, found⟩
  rcases of_decide_eq_true found with ⟨holds, waits, counts⟩
  have ends := tasks_end .server reaches.always {0} (Finset.singleton_nonempty 0)
  exact ⟨state, ⟨_, holds⟩, ⟨_, waits⟩, ⟨_, counts⟩, ends.2.2⟩

end IoGateway.Locks

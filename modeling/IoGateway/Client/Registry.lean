import IoGateway.Client.Opening
import IoGateway.Client.Teardown

/-! # Registered links and their tasks

A link in the client's registry is held by its own task, across all gateway connections:
whatever the server sends and however connections end, a task that has ended has left no
link of its own behind.
-/

namespace IoGateway

namespace Client

variable {zstd : Zstd} {client next : Client} {action : ClientAction} {linkId : UInt16}
  {link : LinkRef}

theorem holds_of_opening? (opening : client.run.opening? = some (linkId, link)) :
    client.Holds linkId link := by
  generalize run : client.run = task at opening
  cases task with
  | onConnection connection point =>
      cases point with
      | exchanging point =>
          cases point with
          | connecting point => exact .opening run opening
          | _ => cases opening
      | _ => cases opening
  | _ => cases opening

theorem Holds.cases (held : client.Holds linkId link) :
    client.run.opening? = some (linkId, link) ∨
      ∃ writer point, client.app link = .running linkId writer point := by
  cases held with
  | task running => exact .inr ⟨_, _, running⟩
  | opening run opening =>
      rw [run]
      exact .inl opening

theorem lookup_of_step (stepped : step zstd client action = some next)
    (found : next.shared.base.links.lookup linkId = some link) :
    client.shared.base.links.lookup linkId = some link ∨
      link = client.linkCount ∧ next.linkCount = client.linkCount + 1 ∧
        client.run.addsLink? = some linkId := by
  cases dataStep_of_step stepped with
  | quiet quiet => exact .inl (quiet.kept.shrink linkId link found)
  | created run links _ _ linkCount =>
      rw [links, FiniteMap.lookup_insert] at found
      split at found
      · rename_i equal
        subst equal
        cases found
        refine .inr ⟨rfl, linkCount, ?_⟩
        rw [run]
        rfl
      · exact .inl found
  | forwarded _ _ _ shared => exact .inl (by rw [shared] at found; exact found)
  | read _ shared => exact .inl (by rw [shared] at found; exact found)

/-- Each registered link is held; a link is not handed to its task twice. -/
structure Tended (client : Client) : Prop where
  held : ∀ linkId link, client.shared.base.links.lookup linkId = some link →
    client.Holds linkId link
  opening : ∀ linkId link, client.run.opening? = some (linkId, link) →
    link < client.linkCount ∧ client.app link = .absent
  vacant : ∀ link, client.linkCount ≤ link → client.app link = .absent

theorem tended_new : Tended Client.new where
  held := fun _ _ found => by cases found
  opening := fun _ _ opening => by cases opening
  vacant := fun _ _ => rfl

theorem Tended.kept (tended : client.Tended) (opening : next.run.opening? = client.run.opening?)
    (app : next.app = client.app) (linkCount : next.linkCount = client.linkCount)
    (stepped : step zstd client action = some next) : next.Tended where
  held := by
    intro linkId link found
    rcases lookup_of_step stepped found with before | ⟨_, grown, _⟩
    · rcases (tended.held linkId link before).cases with opened | ⟨writer, point, running⟩
      · exact holds_of_opening? (opening.trans opened)
      · exact .task (app ▸ running)
    · exact absurd (grown.symm.trans linkCount) (Nat.succ_ne_self _)
  opening := by
    rw [opening, app, linkCount]
    exact tended.opening
  vacant := by
    rw [app, linkCount]
    exact tended.vacant

theorem Tended.created (tended : client.Tended) {connection : ConnectionRef}
    (run : client.run = .onConnection connection (.exchanging (.connecting (.addLink linkId))))
    (nextRun : next.run = .onConnection connection
      (.exchanging (.connecting (.setConnected linkId client.linkCount))))
    (app : next.app = client.app) (linkCount : next.linkCount = client.linkCount + 1)
    (stepped : step zstd client action = some next) : next.Tended where
  held := by
    intro key link found
    rcases lookup_of_step stepped found with before | ⟨new, _, added⟩
    · rcases (tended.held key link before).cases with opened | ⟨writer, point, running⟩
      · rw [run] at opened
        cases opened
      · exact .task (app ▸ running)
    · rw [run] at added
      cases added
      exact .opening nextRun (new ▸ rfl)
  opening := by
    intro key link opening
    rw [nextRun] at opening
    cases opening
    rw [app, linkCount]
    exact ⟨Nat.lt_succ_self _, tended.vacant _ (Nat.le_refl _)⟩
  vacant := by
    intro link beyond
    rw [app]
    rw [linkCount] at beyond
    exact tended.vacant link (Nat.le_of_succ_le beyond)

theorem Tended.spawned (tended : client.Tended) {connection : ConnectionRef}
    (run : client.run = .onConnection connection (.exchanging (.connecting (.spawn linkId link))))
    (nextRun : next.run = .onConnection connection (.exchanging .receive))
    (app : next.app = Function.update client.app link (.running linkId connection .read))
    (linkCount : next.linkCount = client.linkCount) (shared : next.shared = client.shared) :
    next.Tended := by
  have opening := tended.opening linkId link (by rw [run]; rfl)
  refine ⟨?_, ?_, ?_⟩
  · intro key other found
    rcases (tended.held key other (shared ▸ found)).cases with opened | ⟨writer, point, running⟩
    · rw [run] at opened
      cases opened
      exact .task (by rw [app, Function.update_self])
    · have different : other ≠ link := by
        intro equal
        rw [equal, opening.2] at running
        cases running
      exact .task (by rw [app, Function.update_of_ne different]; exact running)
  · intro key other opened
    rw [nextRun] at opened
    cases opened
  · intro other beyond
    rw [linkCount] at beyond
    rw [app, Function.update_of_ne (Nat.ne_of_gt (Nat.lt_of_lt_of_le opening.1 beyond))]
    exact tended.vacant other beyond

/-- The task of a link runs on, or has taken its identifier out of the registry. -/
theorem running_of_appStep {shared after : GatewayClient} {task : ClientAppTask} {input : Input}
    {writer : ConnectionRef} {point : ClientAppExchange}
    (moved : shared.AppStep zstd link (.running linkId writer point) input after task) :
    (∃ point, task = .running linkId writer point) ∨
      after.base.links.lookup linkId = none := by
  cases moved with
  | removeLink => exact .inr ((FiniteMap.lookup_erase ..).trans (if_pos rfl))
  | _ => exact .inl ⟨_, rfl⟩

theorem Tended.app (tended : client.Tended) {moving : LinkRef} {input : Input}
    {shared : GatewayClient} {task : ClientAppTask}
    (moved : client.shared.AppStep zstd moving (client.app moving) input shared task)
    (stepped : step zstd client action = some { client with
      shared := shared, app := Function.update client.app moving task }) :
    Tended { client with shared := shared, app := Function.update client.app moving task } := by
  have present : client.app moving ≠ .absent := by
    intro absent
    rw [absent] at moved
    cases moved
  have untouched : ∀ {link}, client.app link = .absent →
      Function.update client.app moving task link = .absent := by
    intro link absent
    have different : link ≠ moving := fun equal => present (equal ▸ absent)
    rwa [Function.update_of_ne different]
  refine ⟨?_, ?_, ?_⟩
  · intro linkId link found
    rcases lookup_of_step stepped found with before | ⟨_, grown, _⟩
    · rcases (tended.held linkId link before).cases with opened | ⟨writer, point, running⟩
      · exact holds_of_opening? opened
      · by_cases own : link = moving
        · subst own
          rw [running] at moved
          rcases running_of_appStep moved with ⟨later, is⟩ | removed
          · subst is
            exact .task (Function.update_self ..)
          · exact absurd (found.symm.trans removed) (Option.some_ne_none link)
        · have same := (Function.update_of_ne own task client.app).trans running
          exact .task same
    · exact absurd grown.symm (Nat.succ_ne_self _)
  · intro linkId link opened
    have before := tended.opening linkId link opened
    exact ⟨before.1, untouched before.2⟩
  · intro link beyond
    exact untouched (tended.vacant link beyond)

theorem Tended.step (tended : client.Tended) (stepped : step zstd client action = some next) :
    next.Tended := by
  cases openingStep_of_step stepped with
  | kept opening app linkCount => exact tended.kept opening.opening app linkCount stepped
  | announced _ run nextRun app linkCount =>
      exact tended.kept (by rw [run, nextRun]; rfl) app linkCount stepped
  | created run nextRun app linkCount => exact tended.created run nextRun app linkCount stepped
  | opened run nextRun app linkCount =>
      exact tended.kept (by rw [run, nextRun]; rfl) app linkCount stepped
  | spawned run nextRun app linkCount shared =>
      exact tended.spawned run nextRun app linkCount shared
  | refused run nextRun app linkCount =>
      exact tended.kept (by rw [run, nextRun]; rfl) app linkCount stepped
  | app moved => exact tended.app moved stepped

theorem tended_of_reachable (reachable : (system zstd).Reachable client) : client.Tended :=
  reachable.invariant tended_new fun _ _ _ _ tended _ stepped => tended.step stepped

/-- In every run, over any number of gateway connections and whatever the server sends: a
registered link has its own task running under its identifier, or `connect_client` about to
start it; a task that has ended has not left its link registered; and when all tasks have
ended the registry is empty. -/
theorem no_leaked_links (zstd : Zstd) (client : Client)
    (reachable : (system zstd).Reachable client) :
    (∀ linkId link, client.shared.base.links.lookup linkId = some link →
      client.Holds linkId link) ∧
    (∀ link, client.app link = .finished →
      ∀ linkId, client.shared.base.links.lookup linkId ≠ some link) ∧
    ((∀ link < client.linkCount, client.app link = .finished) →
      client.shared.base.links = ∅) := by
  have tended := tended_of_reachable reachable
  have unheld : ∀ {link}, client.app link = .finished →
      ∀ linkId, client.shared.base.links.lookup linkId ≠ some link := by
    intro link ended linkId found
    rcases (tended.held linkId link found).cases with opening | ⟨writer, point, running⟩
    · cases (tended.opening linkId link opening).2.symm.trans ended
    · cases running.symm.trans ended
  refine ⟨tended.held, fun _ => unheld, fun ended => ?_⟩
  rw [FiniteMap.eq_empty_iff]
  intro linkId
  cases found : client.shared.base.links.lookup linkId with
  | none => rfl
  | some link =>
      have created := ((epochs_of_reachable reachable).links linkId link found).2
      exact absurd found (unheld (ended link created) linkId)

/-- The task of a link from before a reconnection has removed the link that had its
identifier since; the task of that one runs on. -/
theorem no_leaked_links_reopened :
    ∃ client : Client, client.app 0 = .finished ∧ client.app 1 = .running 1 1 .read ∧
      (∀ linkId, client.shared.base.links.lookup linkId ≠ some 0) ∧
      ∀ linkId link, client.shared.base.links.lookup linkId = some link →
        client.Holds linkId link := by
  have executed : ((system .runLength).runChecked (fun _ _ => true) .new
      (reopened ++ [.app 0 .go])).any
      (fun client => client.app 0 = .finished ∧ client.app 1 = .running 1 1 .read) = true := by
    decide +kernel
  rcases TransitionSystem.exists_reaches_of_runChecked executed with ⟨client, reaches, found⟩
  rcases of_decide_eq_true found with ⟨ended, running⟩
  have held := no_leaked_links .runLength client reaches.always
  exact ⟨client, ended, running, held.2.1 0 ended, held.1⟩

end Client

end IoGateway

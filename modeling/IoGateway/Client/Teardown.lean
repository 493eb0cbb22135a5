import IoGateway.Client.Separation

/-! # Removal of a link by its own task

`app_exchange` removes its link by identifier. It removes no other link as long as
no `Open` reuses the identifier of a task that is still running.
-/

namespace IoGateway

def ConnectClient.opening? : ConnectClient → Option (UInt16 × LinkRef)
  | .setConnected linkId link => some (linkId, link)
  | .openedId linkId link => some (linkId, link)
  | .sendOpened linkId link _ => some (linkId, link)
  | .spawn linkId link => some (linkId, link)
  | _ => none

def RunTask.addsLink? : RunTask → Option UInt16
  | .onConnection _ (.exchanging (.connecting (.addLink linkId))) => some linkId
  | _ => none

def ClientAppTask.runsUnder (linkId : UInt16) : ClientAppTask → Bool
  | .running id _ _ => id = linkId
  | _ => false

namespace Client

variable {zstd : Zstd} {client next : Client} {action : ClientAction} {input : Input}

inductive Holds (client : Client) (linkId : UInt16) (link : LinkRef) : Prop
  | task {writer : ConnectionRef} {point : ClientAppExchange}
      (running : client.app link = .running linkId writer point)
  | opening {connection : ConnectionRef} {point : ConnectClient}
      (run : client.run = .onConnection connection (.exchanging (.connecting point)))
      (opening : point.opening? = some (linkId, link))

/-- Who holds an identifier is the only one to be registered under it. -/
def OwnRegistered (client : Client) : Prop :=
  ∀ linkId link, client.Holds linkId link → ∀ registered,
    client.shared.base.links.lookup linkId = some registered → registered = link

/-- The step that registers a link finds no task of an older one running under the
same identifier. -/
def IdentifierFree (client : Client) : ClientAction → Prop
  | .run _ => ∀ linkId ∈ client.run.addsLink?, ∀ link < client.linkCount,
      (client.app link).runsUnder linkId = false
  | _ => True

instance (client : Client) : (action : ClientAction) → Decidable (client.IdentifierFree action)
  | .run _ =>
      decidable_of_iff (client.run.addsLink?.all fun linkId =>
        (List.range client.linkCount).all fun link => !(client.app link).runsUnder linkId)
        (by cases added : client.run.addsLink? <;> simp [IdentifierFree, added])
  | .app _ _ | .ping _ _ | .beginCommand | .command _ | .resetGateway _ | .beginShutdown
  | .shutdown => .isTrue trivial

/-- A link is held under an identifier only from its registration on. -/
theorem ExchangeStep.opening {serving connection : ConnectionRef} {point : GatewayExchange}
    {created : ConnectClient} {linkId : UInt16} {link : LinkRef}
    (stepped : ExchangeStep zstd serving client point input next)
    (nextRun : next.run = .onConnection connection (.exchanging (.connecting created)))
    (opening : created.opening? = some (linkId, link)) :
    (∃ before, point = .connecting before ∧ before.opening? = some (linkId, link)) ∨
      next.shared.base.links.lookup linkId = some link := by
  cases stepped with
  | receive dispatched =>
      cases nextRun
      unfold GatewayClient.dispatch at dispatched
      split at dispatched
      · cases dispatched
      · cases dispatched
        cases opening
      · cases dispatched
      · split at dispatched <;> cases dispatched
      · cases dispatched
      · cases dispatched
  | connecting stepped =>
      cases stepped with
      | addLink =>
          cases nextRun
          cases opening
          exact .inr (by simp)
      | setConnected =>
          cases nextRun
          exact .inl ⟨_, rfl, opening⟩
      | openedId =>
          cases nextRun
          exact .inl ⟨_, rfl, opening⟩
      | sendOpened =>
          cases nextRun
          exact .inl ⟨_, rfl, opening⟩
      | connected =>
          cases nextRun
          cases opening
      | refused =>
          cases nextRun
          cases opening
      | openFailId =>
          cases nextRun
          cases opening
      | _ => cases nextRun
  | _ => cases nextRun

theorem RunStep.opening {connection : ConnectionRef} {created : ConnectClient}
    {linkId : UInt16} {link : LinkRef} (stepped : RunStep zstd client client.run input next)
    (nextRun : next.run = .onConnection connection (.exchanging (.connecting created)))
    (opening : created.opening? = some (linkId, link)) :
    client.Holds linkId link ∨ next.shared.base.links.lookup linkId = some link := by
  generalize run : client.run = task at stepped
  cases stepped with
  | onConnection stepped =>
      cases stepped with
      | exchanging stepped =>
          rcases stepped.opening nextRun opening with ⟨before, rfl, held⟩ | registered
          · exact .inl (.opening run held)
          · exact .inr registered
      | _ => cases nextRun
  | onDisconnection stepped => cases stepped <;> cases nextRun
  | _ => cases nextRun

/-- Every holder has been one before, but for a link that is registered by the step. -/
theorem holds_of_step {linkId : UInt16} {link : LinkRef}
    (stepped : step zstd client action = some next) (held : next.Holds linkId link) :
    client.Holds linkId link ∨ next.shared.base.links.lookup linkId = some link := by
  cases transition_of_step stepped with
  | run moved =>
      cases held with
      | opening run opening => exact moved.opening run opening
      | task running =>
          rcases moved.app with same | ⟨connection, id, spawned, spawn, same⟩
          · exact .inl (.task (same ▸ running))
          · rw [same] at running
            by_cases equal : link = spawned
            · subst equal
              rw [Function.update_self] at running
              cases running
              exact .inl (.opening spawn rfl)
            · rw [Function.update_of_ne equal] at running
              exact .inl (.task running)
  | @app moving input shared task moved =>
      cases held with
      | opening run opening => exact .inl (.opening run opening)
      | task running =>
          change Function.update client.app moving task link = _ at running
          by_cases equal : link = moving
          · subst equal
            rw [Function.update_self] at running
            rcases moved.running running with ⟨before, was⟩
            exact .inl (.task was)
          · rw [Function.update_of_ne equal] at running
            exact .inl (.task running)
  | shutdown moved =>
      generalize client.shutdown = task at moved
      cases held with
      | opening run opening => cases moved <;> exact .inl (.opening run opening)
      | task running => cases moved <;> exact .inl (.task running)
  | _ =>
      cases held with
      | opening run opening => exact .inl (.opening run opening)
      | task running => exact .inl (.task running)

theorem OwnRegistered.step (own : OwnRegistered client) (epochs : Epochs client)
    (free : IdentifierFree client action) (stepped : step zstd client action = some next) :
    OwnRegistered next := by
  intro linkId link held registered found
  rcases holds_of_step stepped held with holder | newest
  · have shrunk := own linkId link holder registered
    cases dataStep_of_step stepped with
    | quiet quiet => exact shrunk (quiet.kept.shrink linkId registered found)
    | @created connection opened next run links =>
        rw [links, FiniteMap.lookup_insert] at found
        split at found
        · rename_i equal
          subst equal
          cases holder with
          | @task writer point running =>
              have created := (epochs.tasks link linkId writer point running).2
              have other := free linkId (by rw [run]; rfl) link created
              simp [running, ClientAppTask.runsUnder] at other
          | opening opening held =>
              rw [run] at opening
              cases opening
              cases held
        · exact shrunk found
    | forwarded run lookup sent shared => exact shrunk (by rw [shared] at found; exact found)
    | read running shared => exact shrunk (by rw [shared] at found; exact found)
  · exact Option.some.inj (found.symm.trans newest)

theorem ownRegistered_of_reachable
    (reachable : (system zstd).ReachableUnder IdentifierFree client) : OwnRegistered client := by
  refine reachable.invariant ?_ fun _ _ _ earlier own free stepped =>
    own.step (epochs_of_reachable earlier.always) free stepped
  intro linkId link held registered found
  cases found

/-- In every run, over any number of gateway connections, in which no link is registered
under the identifier of a task that is still running: the removal at the end of a
link's task finds that link or nothing. -/
theorem app_exchange_removes_own_link (zstd : Zstd) (client : Client) (link removed : LinkRef)
    (linkId : UInt16) (writer : ConnectionRef)
    (reachable : (system zstd).ReachableUnder IdentifierFree client)
    (ending : client.app link = .running linkId writer .removeLink)
    (found : (client.shared.base.removeLink linkId).1 = some removed) : removed = link :=
  ownRegistered_of_reachable reachable linkId link (.task ending) removed found

def endTask (link : LinkRef) : List ClientAction :=
  [.app link .ended, .app link .go, .app link (.write .ok)]

theorem app_exchange_removes_own_link_openLink :
    ∃ client : Client, client.app 0 = .running 1 0 .removeLink ∧
      ∀ removed, (client.shared.base.removeLink 1).1 = some removed → removed = 0 := by
  have executed : ((system .runLength).runChecked
      (fun client action => IdentifierFree client action) .new
      (.run .go :: connect ++ openLink 1 ++ endTask 0)).any
      (fun client => client.app 0 = .running 1 0 .removeLink) = true := by decide +kernel
  rcases TransitionSystem.exists_reaches_of_runChecked executed with ⟨client, reaches, found⟩
  have ending := of_decide_eq_true found
  exact ⟨client, ending, fun removed => app_exchange_removes_own_link .runLength client 0 removed
    1 0 (reaches.mono fun _ _ passed => of_decide_eq_true passed) ending⟩

/-- Within one connection the server uses an identifier in one `Open`. -/
def opensOnce (client : Client) : ClientAction → Bool
  | .run (.frame packet _) =>
      match client.run with
      | .onConnection connection _ =>
          packet.packetType ≠ .open_ ||
            (client.shared.sockets.received connection).all fun frame =>
              frame.1.packetType ≠ .open_ || frame.1.linkId ≠ packet.linkId
      | _ => true
  | _ => true

/-- The runs that the law is about: an identifier may come back on another connection. -/
def OpensOnce (client : Client) (action : ClientAction) : Prop := client.opensOnce action = true

/-- The gateway is restarted while the application of a link is still connected, and
opens a link with the same identifier; then the first application disconnects. -/
def reopened : List ClientAction :=
  .run .go :: connect ++ openLink 1 ++ [.run .ended, .run .go, .run .go, .run .go, .run .go] ++
    .run .go :: connect ++ openLink 1 ++ endTask 0

/-- The task of the first link removes the second. -/
theorem app_exchange_removes_other_link :
    ¬ ∀ (client : Client) (link removed : LinkRef) (linkId : UInt16) (writer : ConnectionRef),
      (system .runLength).ReachableUnder OpensOnce client →
      client.app link = .running linkId writer .removeLink →
      (client.shared.base.removeLink linkId).1 = some removed → removed = link := by
  intro own
  have executed : ((system .runLength).runChecked
      opensOnce .new reopened).any
      (fun client => client.app 0 = .running 1 0 .removeLink ∧
        (client.shared.base.removeLink 1).1 = some 1) = true := by decide +kernel
  rcases TransitionSystem.exists_reaches_of_runChecked executed with ⟨client, reaches, found⟩
  rcases of_decide_eq_true found with ⟨ending, removed⟩
  have equal := own client 0 1 1 0 reaches ending removed
  cases equal

end Client

end IoGateway

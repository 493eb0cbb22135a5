import IoGateway.Server.Reconnection

/-! # The state flag of the server

The state is `Connected` while there are sessions. The flag and the sessions are
behind different locks: a handler sets the flag before it registers its session,
and `cleanup_client` looks at the sessions before it resets the flag.
-/

namespace IoGateway

open TransitionSystem (ReachableUnder)

def GatewayTask.settling : GatewayTask → Bool
  | .handling _ _ => true
  | .exchanging _ _ (.cleanup _) => true
  | _ => false

/-- The handler has set the flag and has yet to register its session. -/
def GatewayTask.connecting : GatewayTask → Bool
  | .handling _ .saveSession => true
  | .handling _ (.insertSession _) => true
  | _ => false

namespace GatewayServer

variable {zstd : Zstd} {server after : GatewayServer} {input : Input}

inductive FlagStep (server : GatewayServer) (task : GatewayTask) :
    Input → GatewayServer → GatewayTask → Prop
  | kept {input : Input} {after : GatewayServer} {next : GatewayTask}
      (state : after.base.state = server.base.state)
      (shrunk : after.clientSessions ≠ ∅ → server.clientSessions ≠ ∅)
      (emptied : after.clientSessions = ∅ → server.clientSessions = ∅ ∨ next.settling = true)
      (connecting : next.connecting = true → task.connecting = true)
      (settling : task.settling = true → next.settling = true) :
      FlagStep server task input after next
  | setConnected {input : Input} {after : GatewayServer} {next : GatewayTask}
      (state : after.base.state = .connected)
      (settling : next.settling = true) :
      FlagStep server task input after next
  | insert {input : Input} {after : GatewayServer} {next : GatewayTask}
      (registering : task.connecting = true) (state : after.base.state = server.base.state)
      (nonempty : after.clientSessions ≠ ∅) :
      FlagStep server task input after next
  | deny {addr : SocketAddr} (running : task = .handling addr .authenticate) :
      FlagStep server task (.verdict false) server .rejected
  | clients {input : Input} (nonempty : server.clientSessions ≠ ∅) :
      FlagStep server task input server .finished
  | setWaiting {addr : SocketAddr} {sessionId : Uuid} {input : Input} {after : GatewayServer}
      (running : task = .exchanging addr sessionId (.cleanup .setWaiting))
      (state : after.base.state = .waiting)
      (sessions : after.clientSessions = server.clientSessions) :
      FlagStep server task input after .finished

theorem clientSessions_ne_empty {addr : SocketAddr} {session : ClientSession}
    (found : server.clientSessions.lookup addr = some session) : server.clientSessions ≠ ∅ := by
  intro empty
  rw [empty] at found
  cases found

/-- Sessions that only shrink were not empty before. -/
theorem ne_empty_of_kept (nonempty : after.clientSessions ≠ ∅)
    (kept : ∀ addr session, after.clientSessions.lookup addr = some session →
      server.clientSessions.lookup addr = some session) : server.clientSessions ≠ ∅ := by
  intro empty
  apply nonempty
  rw [FiniteMap.eq_empty_iff]
  intro addr
  cases found : after.clientSessions.lookup addr with
  | none => rfl
  | some session => exact absurd empty (clientSessions_ne_empty (kept addr session found))

theorem FlagStep.ofSame {task next : GatewayTask} (same : SameSessions server after)
    (connecting : next.connecting = true → task.connecting = true)
    (settling : task.settling = true → next.settling = true) :
    FlagStep server task input after next :=
  .kept same.state (fun nonempty => same.clientSessions ▸ nonempty)
    (fun empty => .inl (same.clientSessions ▸ empty)) connecting settling

theorem FlagStep.ofErase {task next : GatewayTask} {addr : SocketAddr}
    (state : after.base.state = server.base.state)
    (sessions : after.clientSessions = server.clientSessions.erase addr)
    (connecting : next.connecting = false) (settling : next.settling = true) :
    FlagStep server task input after next := by
  refine .kept state ?_ (fun _ => .inr settling) ?_ fun _ => settling
  · intro nonempty
    apply ne_empty_of_kept nonempty
    intro key session found
    rw [sessions] at found
    exact (FiniteMap.lookup_of_erase found).2
  · intro registering
    rw [connecting] at registering
    cases registering

theorem GatewayStep.flagStep {ref : ConnectionRef} {task next : GatewayTask}
    (stepped : server.GatewayStep zstd ref task input after next) :
    FlagStep server task input after next := by
  cases stepped with
  | handling stepped =>
      cases stepped with
      | evict => exact .ofErase rfl rfl rfl rfl
      | evictNone => exact .ofErase rfl rfl rfl rfl
      | challengeId => exact .ofSame ⟨rfl, rfl, rfl⟩ id fun _ => rfl
      | accept => exact .ofSame ⟨rfl, rfl, rfl⟩ id fun _ => rfl
      | deny => exact .deny rfl
      | setConnected => exact .setConnected rfl rfl
      | saveSession => exact .kept rfl id .inl (fun _ => rfl) fun _ => rfl
      | insertSession =>
          exact .insert rfl rfl (clientSessions_ne_empty (Finmap.lookup_insert _))
  | exchanging stepped =>
      cases stepped with
      | sendPong sent => exact .ofSame sent.sameSessions id id
      | removing removal => exact .ofSame removal.sameSessions id id
      | removed removal => exact .ofSame removal.sameSessions id id
      | cleanup cleaning =>
          cases cleaning with
          | session => exact .ofErase rfl rfl rfl rfl
          | store => exact .kept rfl id .inl id id
          | _ => exact .ofSame ⟨rfl, rfl, rfl⟩ id fun _ => rfl
      | cleaned cleaning =>
          cases cleaning with
          | clients nonempty => exact .clients nonempty
          | setWaiting => exact .setWaiting rfl rfl rfl
      | receive => exact .ofSame ⟨rfl, rfl, rfl⟩ id (by simp [GatewayTask.settling])
      | ended => exact .ofSame ⟨rfl, rfl, rfl⟩ id fun _ => rfl
      | _ => exact .ofSame ⟨rfl, rfl, rfl⟩ id id

end GatewayServer

namespace Server

variable {zstd : Zstd} {server next : Server} {action : ServerAction}

def settledByOther (server : Server) (ref : ConnectionRef) : Bool :=
  (List.range server.gatewayCount).any fun other =>
    other ≠ ref && (server.gateway other).settling

/-- No handler stands between its setting of the flag and its registration. -/
def noneConnecting (server : Server) : Bool :=
  (List.range server.gatewayCount).all fun other => !(server.gateway other).connecting

/-- Three steps can leave the flag wrong. A failed authentication must not be the last
word on an empty server that is still `Connected`; `cleanup_client` resets the flag
only while there is still no session and none to come; `shutdown` has no session to
drain. -/
def keepsFlag (server : Server) : ServerAction → Bool
  | .gateway ref input =>
      match server.gateway ref, input with
      | .handling _ .authenticate, .verdict false =>
          server.shared.clientSessions ≠ ∅ || server.shared.base.state ≠ .connected ||
            server.settledByOther ref
      | .exchanging _ _ (.cleanup .setWaiting), _ =>
          server.shared.clientSessions = ∅ && server.noneConnecting
      | _, _ => true
  | .shutdown _ => server.shutdown ≠ .closeSession || server.shared.clientSessions = ∅
  | _ => true

def KeepsFlag (server : Server) (action : ServerAction) : Prop := server.keepsFlag action = true

/-- Neither `handle_gateway_connection` nor `cleanup_client` is in progress. -/
def AtRest (server : Server) : Prop :=
  ∀ ref < server.gatewayCount, (server.gateway ref).settling = false

instance (server : Server) : Decidable (AtRest server) :=
  inferInstanceAs (Decidable (∀ ref < server.gatewayCount, _))

structure FlagFollows (server : Server) : Prop where
  connected : server.shared.clientSessions ≠ ∅ → server.shared.base.state = .connected
  connecting : ∀ ref, (server.gateway ref).connecting = true →
    server.shared.base.state = .connected
  settling : server.shared.base.state = .connected →
    server.shared.clientSessions ≠ ∅ ∨ ∃ ref, (server.gateway ref).settling = true

theorem FlagFollows.ofSame (follows : FlagFollows server)
    (sessions : next.shared.clientSessions = server.shared.clientSessions)
    (state : next.shared.base.state = server.shared.base.state)
    (tasks : next.gateway = server.gateway) : FlagFollows next where
  connected := by
    rw [sessions, state]
    exact follows.connected
  connecting := by
    rw [tasks, state]
    exact follows.connecting
  settling := by
    rw [tasks, sessions, state]
    exact follows.settling

theorem exists_settling_update {tasks : ConnectionRef → GatewayTask} {ref other : ConnectionRef}
    {task : GatewayTask} (settling : (tasks other).settling = true)
    (kept : other = ref → task.settling = true) :
    ∃ found, (Function.update tasks ref task found).settling = true := by
  by_cases same : other = ref
  · exact ⟨ref, by rw [Function.update_self]; exact kept same⟩
  · exact ⟨other, by rw [Function.update_of_ne same]; exact settling⟩

theorem exists_settling_own {tasks : ConnectionRef → GatewayTask} {ref : ConnectionRef}
    {task : GatewayTask} (settling : task.settling = true) :
    ∃ found, (Function.update tasks ref task found).settling = true :=
  ⟨ref, by rw [Function.update_self]; exact settling⟩

theorem connecting_update {tasks : ConnectionRef → GatewayTask} {ref other : ConnectionRef}
    {task : GatewayTask} (held : (Function.update tasks ref task other).connecting = true) :
    task.connecting = true ∨ (tasks other).connecting = true := by
  by_cases same : other = ref
  · subst same
    rw [Function.update_self] at held
    exact .inl held
  · rw [Function.update_of_ne same] at held
    exact .inr held

theorem exists_settling_of_settledByOther {ref : ConnectionRef} {task : GatewayTask}
    (settled : server.settledByOther ref = true) :
    ∃ found, (Function.update server.gateway ref task found).settling = true := by
  simp only [settledByOther, List.any_eq_true, Bool.and_eq_true, decide_eq_true_eq] at settled
  rcases settled with ⟨other, _, different, settling⟩
  exact exists_settling_update settling fun same => absurd same different

theorem FlagFollows.gateway (follows : FlagFollows server) (slots : SlotsInOrder server)
    {ref : ConnectionRef} {input : Input} {shared : GatewayServer} {task : GatewayTask}
    (keeps : KeepsFlag server (.gateway ref input))
    (moved : server.shared.FlagStep (server.gateway ref) input shared task) :
    FlagFollows { server with
      shared := shared, gateway := Function.update server.gateway ref task } := by
  generalize running : server.gateway ref = before at moved
  cases moved with
  | kept state shrunk emptied connecting settling =>
      refine ⟨fun nonempty => state.trans (follows.connected (shrunk nonempty)), ?_, ?_⟩
      · intro other held
        refine state.trans ?_
        rcases connecting_update held with own | held
        · exact follows.connecting ref (running ▸ connecting own)
        · exact follows.connecting other held
      · intro connected
        rcases follows.settling (state.symm.trans connected) with nonempty | ⟨other, settles⟩
        · by_cases empty : shared.clientSessions = ∅
          · rcases emptied empty with before | settles
            · exact absurd before nonempty
            · exact .inr (exists_settling_own settles)
          · exact .inl empty
        · refine .inr (exists_settling_update settles fun same => ?_)
          rw [same, running] at settles
          exact settling settles
  | setConnected state settling =>
      exact ⟨fun _ => state, fun _ _ => state, fun _ => .inr (exists_settling_own settling)⟩
  | insert registering state nonempty =>
      have connected := state.trans (follows.connecting ref (running ▸ registering))
      exact ⟨fun _ => connected, fun _ _ => connected, fun _ => .inl nonempty⟩
  | deny denied =>
      subst denied
      refine ⟨follows.connected, ?_, ?_⟩
      · intro other held
        rcases connecting_update held with own | held
        · cases own
        · exact follows.connecting other held
      · intro connected
        simp only [KeepsFlag, keepsFlag, running, Bool.or_eq_true, decide_eq_true_eq] at keeps
        rcases keeps with (nonempty | waiting) | settled
        · exact .inl nonempty
        · exact absurd connected waiting
        · exact .inr (exists_settling_of_settledByOther settled)
  | clients nonempty =>
      refine ⟨follows.connected, ?_, fun _ => .inl nonempty⟩
      intro other held
      rcases connecting_update held with own | held
      · cases own
      · exact follows.connecting other held
  | setWaiting resetting state sessions =>
      subst resetting
      simp only [KeepsFlag, keepsFlag, running, Bool.and_eq_true, decide_eq_true_eq] at keeps
      refine ⟨fun nonempty => absurd (sessions.trans keeps.1) nonempty, ?_, ?_⟩
      · intro other held
        rcases connecting_update held with own | held
        · cases own
        · have used : other < server.gatewayCount := by
            apply slots.gateway_lt
            intro absent
            rw [absent] at held
            cases held
          have none := List.all_eq_true.mp keeps.2 other (List.mem_range.mpr used)
          rw [held] at none
          cases none
      · intro connected
        cases state.symm.trans connected

theorem FlagFollows.step (follows : FlagFollows server) (slots : SlotsInOrder server)
    (keeps : KeepsFlag server action) (stepped : step zstd server action = some next) :
    FlagFollows next := by
  cases transition_of_step stepped with
  | acceptApp => exact follows.ofSame rfl rfl rfl
  | acceptGateway =>
      refine ⟨follows.connected, ?_, ?_⟩
      · intro ref held
        rcases connecting_update held with own | held
        · cases own
        · exact follows.connecting ref held
      · exact fun _ => .inr (exists_settling_own rfl)
  | app moved => exact follows.ofSame moved.sameSessions.clientSessions moved.sameSessions.state rfl
  | gateway moved => exact follows.gateway slots keeps moved.flagStep
  | resetGateway => exact follows.ofSame rfl rfl rfl
  | beginShutdown => exact follows.ofSame rfl rfl rfl
  | shutdown moved =>
      generalize running : server.shutdown = task at moved
      cases moved with
      | closeSession found =>
          simp only [KeepsFlag, keepsFlag, running, ne_eq, not_true, decide_false,
            Bool.false_or, decide_eq_true_eq] at keeps
          rw [keeps] at found
          cases found
      | _ => exact follows.ofSame rfl rfl rfl

theorem flagFollows_of_reachable (reachable : (system zstd).ReachableUnder KeepsFlag server) :
    FlagFollows server := by
  refine ReachableUnder.invariant reachable ?_ ?_
  · refine ⟨fun nonempty => absurd rfl nonempty, ?_, ?_⟩
    · intro ref connecting
      cases connecting
    · intro connected
      cases connected
  · intro _ _ _ earlier follows keeps stepped
    exact follows.step (slotsInOrder_of_reachable earlier.always) keeps stepped

/-- In every run whose steps keep the flag, it says whether there are sessions whenever
no connection is being set up or torn down. -/
theorem connected_iff_sessions (zstd : Zstd) (server : Server)
    (reachable : (system zstd).ReachableUnder KeepsFlag server) (rest : AtRest server) :
    server.shared.base.state = .connected ↔ server.shared.clientSessions ≠ ∅ := by
  have follows := flagFollows_of_reachable reachable
  refine ⟨fun connected => ?_, follows.connected⟩
  rcases follows.settling connected with nonempty | ⟨ref, settling⟩
  · exact nonempty
  · have used : ref < server.gatewayCount := by
      apply (slotsInOrder_of_reachable reachable.always).gateway_lt
      intro absent
      rw [absent] at settling
      cases settling
    rw [rest ref used] at settling
    cases settling

theorem connected_iff_sessions_replaced :
    ∃ server : Server, server.shared.base.state = .connected ∧
      server.shared.clientSessions ≠ ∅ := by
  have executed : ((system .runLength).runChecked (fun server action => keepsFlag server action)
      .new (Registrations.connect 0 localClient 7 ++
        Registrations.connect 1 { localClient with port := 9001 } 8 ++
        Registrations.leave 0)).any
      (fun server => AtRest server ∧ server.shared.base.state = .connected) = true := by
    decide +kernel
  rcases TransitionSystem.exists_reaches_of_runChecked executed with ⟨server, reaches, found⟩
  rcases of_decide_eq_true found with ⟨rest, connected⟩
  exact ⟨server, connected,
    (connected_iff_sessions .runLength server reaches rest).mp connected⟩

/-- A client is evicted by a connection that then fails to authenticate; and a client
goes away while the handler of the next one stands between the flag and the session. -/
theorem connected_without_sessions :
    (∃ server : Server, (system .runLength).Reachable server ∧ AtRest server ∧
      server.shared.base.state = .connected ∧ server.shared.clientSessions = ∅) ∧
    ∃ server : Server, (system .runLength).Reachable server ∧ AtRest server ∧
      server.shared.base.state = .waiting ∧ server.shared.clientSessions ≠ ∅ := by
  constructor
  · have executed : ((system .runLength).runChecked (fun _ _ => true) .new
        (Registrations.connect 0 localClient 7 ++
          [.acceptGateway localClient, .gateway 1 .go, .gateway 1 .go,
            .gateway 1 (.verdict false)])).any
        (fun server => AtRest server ∧ server.shared.base.state = .connected ∧
          server.shared.clientSessions = ∅) = true := by
      decide +kernel
    rcases TransitionSystem.exists_reaches_of_runChecked executed with ⟨server, reaches, found⟩
    exact ⟨server, reaches.always, of_decide_eq_true found⟩
  · have executed : ((system .runLength).runChecked (fun _ _ => true) .new
        (Registrations.connect 0 localClient 7 ++
          (Registrations.connect 1 { localClient with port := 9001 } 8).take 5 ++
          Registrations.leave 0 ++ [.gateway 0 .go, .gateway 1 (.session 8), .gateway 1 .go])).any
        (fun server => AtRest server ∧ server.shared.base.state = .waiting ∧
          server.shared.clientSessions ≠ ∅) = true := by
      decide +kernel
    rcases TransitionSystem.exists_reaches_of_runChecked executed with ⟨server, reaches, found⟩
    exact ⟨server, reaches.always, of_decide_eq_true found⟩

end Server

end IoGateway

import IoGateway.Server.Release
import IoGateway.Server.Sending

/-! # Abandoned gateway connections of the server

`cleanup_client` forgets the session, so no application is bound to the connection
after it; those that have been bound before keep its writer.
-/

namespace IoGateway

def AppTask.maySendOn (connection : ConnectionRef) : AppTask → Bool
  | .handling (.addLink _ writer _) => writer = connection
  | .handling (.insertRoute _ writer _) => writer = connection
  | .handling (.openId _ writer) => writer = connection
  | .handling (.sendOpen _ writer _) => writer = connection
  | .handling (.setWaiting _ writer) => writer = connection
  | .exchanging _ _ (.removing _) => false
  | .exchanging _ writer _ => writer = connection
  | _ => false

def GatewayTask.completesCleanup (server : GatewayServer) : GatewayTask → Bool
  | .exchanging _ _ (.cleanup .check) => server.clientSessions ≠ ∅
  | .exchanging _ _ (.cleanup .setWaiting) => true
  | _ => false

namespace GatewayServer

variable {zstd : Zstd} {server after : GatewayServer} {input : Input}

/-- Applications are bound to a connection through its session only. -/
theorem AppStep.maySendOn {link : LinkRef} {task next : AppTask} {connection : ConnectionRef}
    (stepped : server.AppStep zstd link task input after next)
    (may : next.maySendOn connection = true) :
    task.maySendOn connection = true ∨ ∃ addr session,
      server.clientSessions.lookup addr = some session ∧ session.writer = connection := by
  cases stepped with
  | handling stepped =>
      cases stepped with
      | @pickClient linkId addr session found =>
          exact .inr ⟨addr, session, found, of_decide_eq_true may⟩
      | nextLinkId => cases may
      | noClient => cases may
      | reject => cases may
      | _ => exact .inl may
  | exchanging stepped =>
      cases stepped with
      | sendClose => cases may
      | removing => cases may
      | removed => cases may
      | _ => exact .inl may

/-- The exchange loop and its cleanup register nothing. -/
theorem ClientExchangeStep.session_kept {ref : ConnectionRef} {addr : SocketAddr}
    {sessionId : Uuid} {point : ClientExchange} {next : GatewayTask}
    (stepped : ClientExchangeStep zstd ref addr sessionId server point input after next)
    {key : SocketAddr} {session : ClientSession}
    (found : after.clientSessions.lookup key = some session) :
    server.clientSessions.lookup key = some session := by
  cases stepped with
  | sendPong sent => exact sent.sameSessions.clientSessions ▸ found
  | removing removal => exact removal.sameSessions.clientSessions ▸ found
  | removed removal => exact removal.sameSessions.clientSessions ▸ found
  | cleanup cleaning =>
      cases cleaning with
      | session => exact (FiniteMap.lookup_of_erase found).2
      | _ => exact found
  | cleaned cleaning => cases cleaning <;> exact found
  | _ => exact found

/-- The session of a connection is registered by the task of that connection. -/
theorem GatewayStep.session_writer {ref : ConnectionRef} {task next : GatewayTask}
    (stepped : server.GatewayStep zstd ref task input after next) {addr : SocketAddr}
    {session : ClientSession} (found : after.clientSessions.lookup addr = some session) :
    server.clientSessions.lookup addr = some session ∨
      session.writer = ref ∧ next.HoldsSession (addr, session.sessionId) := by
  cases stepped with
  | handling stepped =>
      cases stepped with
      | evict => exact .inl (FiniteMap.lookup_of_erase found).2
      | evictNone => exact .inl (FiniteMap.lookup_of_erase found).2
      | insertSession =>
          rw [FiniteMap.lookup_insert] at found
          split at found
          · rename_i same
            cases found
            exact .inr ⟨rfl, by rw [same]; rfl⟩
          · exact .inl found
      | _ => exact .inl found
  | exchanging stepped => exact .inl (stepped.session_kept found)

theorem GatewayStep.finished {ref : ConnectionRef} {task : GatewayTask}
    (stepped : server.GatewayStep zstd ref task input after .finished) :
    task.completesCleanup server = true := by
  cases stepped with
  | handling stepped => cases stepped
  | exchanging stepped =>
      cases stepped with
      | cleaned cleaning =>
          cases cleaning with
          | clients some => simpa [GatewayTask.completesCleanup] using some
          | setWaiting => rfl

end GatewayServer

namespace Server

variable {zstd : Zstd} {server next : Server} {action : ServerAction}

/-- `client_exchange` has left its loop and `cleanup_client` has completed. -/
def TornDown (server : Server) (connection : ConnectionRef) : Prop :=
  server.gateway connection = .finished

/-- No frame can be sent on the connection any more. -/
def Quiet (server : Server) (connection : ConnectionRef) : Prop :=
  (server.shared.sockets.writer connection).half.dead = true ∨
    ∀ link < server.appCount, (server.app link).maySendOn connection = false

/-- The last step of `cleanup_client` finds the connection quiet. -/
def QuietCleanup (server : Server) : ServerAction → Prop
  | .gateway connection _ =>
      (server.gateway connection).completesCleanup server.shared = true → server.Quiet connection
  | _ => True

instance (server : Server) (connection : ConnectionRef) :
    Decidable (server.Quiet connection) :=
  inferInstanceAs (Decidable (_ ∨ _))

instance (server : Server) : (action : ServerAction) → Decidable (server.QuietCleanup action)
  | .gateway _ _ => inferInstanceAs (Decidable (_ → _))
  | .acceptApp | .acceptGateway _ | .app _ _ | .resetGateway _ | .beginShutdown
  | .shutdown _ => .isTrue trivial

/-! ## Sessions and their connections -/

/-- The session of a connection is registered only until `cleanup_client` looks for it. -/
def SessionsHeld (server : Server) : Prop :=
  ∀ addr session, server.shared.clientSessions.lookup addr = some session →
    (server.gateway session.writer).HoldsSession (addr, session.sessionId)

theorem SessionsHeld.step (sessions : SessionsHeld server) (slots : SlotsInOrder server)
    (stepped : step zstd server action = some next) : SessionsHeld next := by
  intro addr session found
  cases transition_of_step stepped with
  | acceptGateway =>
      have held := sessions addr session found
      have different : session.writer ≠ server.gatewayCount := by
        intro equal
        rw [equal, slots.gateway _ (Nat.le_refl _)] at held
        exact held
      simpa [different] using held
  | app moved =>
      exact sessions addr session (moved.sameSessions.clientSessions ▸ found)
  | @gateway ref input shared task moved =>
      change (Function.update server.gateway ref task session.writer).HoldsSession _
      rcases moved.session_writer found with before | ⟨equal, held⟩
      · have held := sessions addr session before
        by_cases equal : session.writer = ref
        · rw [equal] at held ⊢
          rw [Function.update_self]
          exact moved.session_kept _ held ⟨session, found, rfl⟩
        · rw [Function.update_of_ne equal]
          exact held
      · rw [equal, Function.update_self]
        exact held
  | shutdown moved =>
      generalize server.shutdown = task at moved
      cases moved with
      | closeSession => exact sessions addr session (FiniteMap.lookup_of_erase found).2
      | _ => exact sessions addr session found
  | _ => exact sessions addr session found

theorem sessionsHeld_of_reachable (reachable : (system zstd).Reachable server) :
    SessionsHeld server := by
  refine reachable.invariant ?_ fun _ _ _ earlier sessions _ stepped =>
    sessions.step (slotsInOrder_of_reachable earlier) stepped
  intro addr session found
  cases found

/-! ## Silence after the cleanup -/

def SessionReleased (server : Server) (connection : ConnectionRef) : Prop :=
  ∀ key, ¬ (server.gateway connection).HoldsSession key

theorem TornDown.sessionReleased {connection : ConnectionRef}
    (tornDown : server.TornDown connection) : server.SessionReleased connection := by
  intro key held
  rw [show server.gateway connection = .finished from tornDown] at held
  exact held

theorem sessionReleased_of_completesCleanup {connection : ConnectionRef}
    (completes : (server.gateway connection).completesCleanup server.shared = true) :
    server.SessionReleased connection := by
  intro key held
  generalize server.gateway connection = task at completes held
  unfold GatewayTask.completesCleanup at completes
  split at completes
  · exact held
  · exact held
  · cases completes

/-- A task is bound to a connection only while its session is registered. -/
theorem maySendOn_of_step (stepped : step zstd server action = some next) {link : LinkRef}
    {connection : ConnectionRef} (may : (next.app link).maySendOn connection = true) :
    (server.app link).maySendOn connection = true ∨ ∃ addr session,
      server.shared.clientSessions.lookup addr = some session ∧ session.writer = connection := by
  cases transition_of_step stepped with
  | acceptApp =>
      change (Function.update server.app server.appCount _ link).maySendOn _ = true at may
      by_cases equal : link = server.appCount
      · rw [equal, Function.update_self] at may
        cases may
      · rw [Function.update_of_ne equal] at may
        exact .inl may
  | @app moving input shared task moved =>
      change (Function.update server.app moving task link).maySendOn _ = true at may
      by_cases equal : link = moving
      · subst equal
        rw [Function.update_self] at may
        exact moved.maySendOn may
      · rw [Function.update_of_ne equal] at may
        exact .inl may
  | _ => exact .inl may

theorem SlotsInOrder.maySendOn_lt (slots : SlotsInOrder server) {link : LinkRef}
    {connection : ConnectionRef} (may : (server.app link).maySendOn connection = true) :
    link < server.appCount := by
  apply slots.app_lt
  intro absent
  rw [absent] at may
  cases may

/-- A quiet connection without a session stays quiet, and no frame is sent on it. -/
theorem Quiet.step {connection : ConnectionRef} (quiet : server.Quiet connection)
    (slots : SlotsInOrder server) (sessions : SessionsHeld server)
    (released : server.SessionReleased connection)
    (stepped : step zstd server action = some next) :
    next.Quiet connection ∧ (next.shared.sockets.writer connection).frames =
      (server.shared.sockets.writer connection).frames := by
  have moved := writerStep_of_step stepped connection
  rcases quiet with dead | app
  · cases moved with
    | silent silent => exact ⟨.inl (silent.dead dead), silent.frames⟩
    | sent sending sent =>
        have silent := GatewayWriter.send_of_dead sent dead
        exact ⟨.inl silent.2, silent.1⟩
  · have noSender : ∀ {link task}, server.app link = task →
        task.maySendOn connection ≠ true := by
      intro link task running may
      subst running
      rw [app link (slots.maySendOn_lt may)] at may
      cases may
    constructor
    · refine .inr fun link _ => Bool.eq_false_iff.mpr ?_
      intro may
      rcases maySendOn_of_step stepped may with before | ⟨addr, session, found, bound⟩
      · exact noSender rfl before
      · exact released _ (bound ▸ sessions addr session found)
    · cases moved with
      | silent silent => exact silent.frames
      | sent sending sent =>
          exfalso
          cases sending with
          | open_ running => exact noSender running (decide_eq_true rfl)
          | regular running => exact noSender running (decide_eq_true rfl)
          | close running => exact noSender running (decide_eq_true rfl)
          | @pong _ addr sessionId packetId input running =>
              exact released (addr, sessionId) (by rw [running]; rfl)

theorem tornDown_of_step {connection : ConnectionRef} (slots : SlotsInOrder server)
    (stepped : step zstd server action = some next) :
    (server.TornDown connection → next.TornDown connection) ∧
      (next.TornDown connection → server.TornDown connection ∨ ∃ input,
        action = .gateway connection input ∧
          (server.gateway connection).completesCleanup server.shared = true) := by
  cases transition_of_step stepped with
  | acceptGateway =>
      simp only [TornDown]
      by_cases equal : connection = server.gatewayCount
      · subst equal
        rw [slots.gateway _ (Nat.le_refl _), Function.update_self]
        constructor
        · intro tornDown
          cases tornDown
        · intro tornDown
          cases tornDown
      · rw [Function.update_of_ne equal]
        exact ⟨id, .inl⟩
  | @gateway ref input shared task moved =>
      simp only [TornDown]
      by_cases equal : connection = ref
      · subst equal
        rw [Function.update_self]
        constructor
        · intro finished
          rw [finished] at moved
          cases moved
        · intro finished
          subst finished
          exact .inr ⟨input, rfl, moved.finished⟩
      · rw [Function.update_of_ne equal]
        exact ⟨id, .inl⟩
  | _ => exact ⟨id, .inl⟩

def Silenced (server : Server) : Prop :=
  ∀ connection, server.TornDown connection → server.Quiet connection

theorem silenced_of_reachable (reachable : (system zstd).ReachableUnder QuietCleanup server) :
    Silenced server := by
  refine reachable.invariant ?_ ?_
  · intro connection tornDown
    cases tornDown
  intro before action after earlier quiet permitted stepped connection tornDown
  change step zstd before action = some after at stepped
  have slots := slotsInOrder_of_reachable earlier.always
  have sessions := sessionsHeld_of_reachable earlier.always
  rcases (tornDown_of_step slots stepped).2 tornDown with torn | ⟨input, rfl, completes⟩
  · exact ((quiet connection torn).step slots sessions torn.sessionReleased stepped).1
  · exact ((permitted completes).step slots sessions
      (sessionReleased_of_completesCleanup completes) stepped).1

/-- No frame is sent on a torn down connection in any later state. -/
theorem frames_of_tornDown {torn later : Server} {connection : ConnectionRef}
    (reachable : (system zstd).ReachableUnder QuietCleanup torn)
    (tornDown : torn.TornDown connection)
    (reaches : (system zstd).Reaches QuietCleanup torn later) :
    later.TornDown connection ∧ (later.shared.sockets.writer connection).frames =
      (torn.shared.sockets.writer connection).frames := by
  induction reaches with
  | refl => exact ⟨tornDown, rfl⟩
  | step earlier _ stepped induction =>
      have before := reachable.trans earlier
      have slots := slotsInOrder_of_reachable before.always
      have quiet := silenced_of_reachable before connection induction.1
      have silent := quiet.step slots (sessionsHeld_of_reachable before.always)
        induction.1.sessionReleased stepped
      exact ⟨(tornDown_of_step slots stepped).1 induction.1, silent.2.trans induction.2⟩

end Server

end IoGateway

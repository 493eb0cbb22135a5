import IoGateway.Server.Abandoned

/-! # Reconnections from one address

The handler of a connection evicts the session found under the peer's socket
address and registers its own session after the handshake. A history of the
registrations tells which connections of one IP address came before which. The
write half of a socket shuts it down when the last reference to it is dropped.
-/

namespace IoGateway

def GatewayTask.authenticated : GatewayTask → Bool
  | .exchanging _ _ _ => true
  | .finished => true
  | _ => false

def GatewayTask.holdsWriter : GatewayTask → Bool
  | .handling _ _ => true
  | .exchanging _ _ _ => true
  | _ => false

def GatewayTask.inHandler : GatewayTask → Bool
  | .handling _ _ => true
  | _ => false

theorem GatewayTask.HoldsSession.exchanging {task : GatewayTask} {addr : SocketAddr}
    {sessionId : Uuid} (holds : task.HoldsSession (addr, sessionId)) :
    ∃ point, task = .exchanging addr sessionId point := by
  unfold HoldsSession at holds
  split at holds
  · exact holds.elim
  · exact holds.elim
  · exact holds.elim
  · cases holds
    exact ⟨_, rfl⟩
  · exact holds.elim

/-! ## The writers that have been shut down -/

theorem GatewayWriter.shut_of_send {zstd : Zstd} {writer after : GatewayWriter} {call : SendCall}
    {outcome : WriteOutcome} (sent : writer.send zstd call outcome = some after) :
    after.half.shut = writer.half.shut := by
  rcases Option.map_eq_some_iff.mp sent with ⟨half, wrote, equal⟩
  cases outcome with
  | ok =>
      subst equal
      rw [(WriteHalf.writeAll_ok_eq_some.mp wrote).2]
  | failed accepted =>
      subst equal
      rw [(WriteHalf.writeAll_failed_eq_some.mp wrote).2]

namespace GatewayServer

variable {zstd : Zstd} {server after : GatewayServer} {input : Input}

def ShutKept (server after : GatewayServer) : Prop :=
  ∀ ref, (server.sockets.writer ref).half.shut = true →
    (after.sockets.writer ref).half.shut = true

theorem ShutKept.ofEq (same : after.sockets = server.sockets) : ShutKept server after := by
  intro ref shut
  rw [same]
  exact shut

theorem Sent.shutKept {writer : ConnectionRef} {call : SendCall} {outcome : WriteOutcome}
    (sent : server.Sent zstd writer call outcome after) : ShutKept server after := by
  intro ref shut
  rcases sent.writer ref with same | ⟨rfl, wrote⟩
  · rw [same]
    exact shut
  · rw [GatewayWriter.shut_of_send wrote]
    exact shut

theorem ShutKept.ofUpdate {writer : ConnectionRef} {update : GatewayWriter → GatewayWriter}
    (kept : ∀ writer : GatewayWriter, writer.half.shut = true → (update writer).half.shut = true)
    (updated : after.sockets = server.sockets.updateWriter writer update) :
    ShutKept server after := by
  intro ref shut
  rw [updated]
  by_cases same : ref = writer
  · subst same
    simpa [GatewaySockets.updateWriter] using kept _ shut
  · simpa [GatewaySockets.updateWriter, same] using shut

theorem AppStep.shutKept {ref : LinkRef} {task next : AppTask}
    (stepped : server.AppStep zstd ref task input after next) : ShutKept server after := by
  cases stepped with
  | handling stepped =>
      cases stepped with
      | sendOpen sent => exact sent.shutKept
      | _ => exact fun _ => id
  | exchanging stepped =>
      cases stepped with
      | sendRegular sent => exact sent.shutKept
      | sendFailed sent => exact sent.shutKept
      | sendClose sent => exact sent.shutKept
      | removing removal => exact .ofEq removal.sockets
      | removed removal => exact .ofEq removal.sockets
      | _ => exact fun _ => id

theorem GatewayStep.shutKept {ref : ConnectionRef} {task next : GatewayTask}
    (stepped : server.GatewayStep zstd ref task input after next) : ShutKept server after := by
  cases stepped with
  | handling stepped =>
      cases stepped with
      | evict => exact .ofUpdate (fun _ _ => rfl) rfl
      | _ => exact fun _ => id
  | exchanging stepped =>
      cases stepped with
      | sendPong sent => exact sent.shutKept
      | removing removal => exact .ofEq removal.sockets
      | removed removal => exact .ofEq removal.sockets
      | cleanup cleaning => exact .ofEq cleaning.sockets
      | cleaned cleaning => exact .ofEq cleaning.sockets
      | _ => exact fun _ => id

/-- A task gets the writer of a gateway connection from a session. -/
theorem AppStep.connection {ref : LinkRef} {task next : AppTask} {client : ConnectionRef}
    (stepped : server.AppStep zstd ref task input after next)
    (bound : next.connection? = some client) : task.connection? = some client ∨
      ∃ addr session, server.clientSessions.lookup addr = some session ∧
        session.writer = client := by
  cases stepped with
  | handling stepped =>
      cases stepped with
      | nextLinkId => cases bound
      | pickClient found => exact .inr ⟨_, _, found, Option.some.inj bound⟩
      | noClient => cases bound
      | reject => cases bound
      | _ => exact .inl bound
  | exchanging stepped =>
      cases stepped with
      | removed => cases bound
      | _ => exact .inl bound

end GatewayServer

theorem Server.shutKept_of_step {zstd : Zstd} {server next : Server} {action : ServerAction}
    (stepped : Server.step zstd server action = some next) :
    server.shared.ShutKept next.shared := by
  cases transition_of_step stepped with
  | app moved => exact moved.shutKept
  | gateway moved => exact moved.shutKept
  | @resetGateway ref =>
      exact @GatewayServer.ShutKept.ofUpdate _ _ ref GatewayWriter.peerReset (fun _ => id) rfl
  | shutdown moved =>
      generalize server.shutdown = task at moved
      cases moved with
      | closeSession => exact .ofUpdate (fun _ _ => rfl) rfl
      | _ => exact fun _ => id
  | _ => exact fun _ => id

/-! ## The history of registrations -/

/-- The server with the history of its registrations, the newest first, and for
each handler the connection whose session its eviction has found. -/
structure Registrations where
  server : Server
  registered : List (ConnectionRef × SocketAddr)
  found : ConnectionRef → Option ConnectionRef

namespace Registrations

def record (state : Registrations) (next : Server) : ServerAction → Registrations
  | .gateway ref _ =>
      match state.server.gateway ref with
      | .handling addr .evict =>
          { state with
            server := next
            found := Function.update state.found ref
              ((state.server.shared.clientSessions.lookup addr).map ClientSession.writer) }
      | .handling addr (.insertSession _) =>
          { state with server := next, registered := (ref, addr) :: state.registered }
      | _ => { state with server := next }
  | _ => { state with server := next }

def system (zstd : Zstd) : TransitionSystem Registrations ServerAction where
  start := ⟨.new, [], fun _ => none⟩
  step state action := (Server.step zstd state.server action).map fun next =>
    state.record next action

@[simp] theorem record_server (state : Registrations) (next : Server) (action : ServerAction) :
    (state.record next action).server = next := by
  unfold record
  repeat' split
  all_goals rfl

variable {zstd : Zstd} {state next : Registrations} {action : ServerAction}

theorem step_eq_some (stepped : (system zstd).step state action = some next) :
    Server.step zstd state.server action = some next.server ∧
      next = state.record next.server action := by
  rcases Option.map_eq_some_iff.mp stepped with ⟨server, moved, rfl⟩
  rw [record_server]
  exact ⟨moved, rfl⟩

theorem server_reachable {allowed : Registrations → ServerAction → Prop}
    (reachable : (system zstd).ReachableUnder allowed state) :
    (Server.system zstd).Reachable state.server := by
  induction reachable with
  | refl => exact .refl
  | step _ _ stepped induction => exact .step induction trivial (step_eq_some stepped).1

/-- The history restricts no run of the server. -/
theorem exists_registrations {server : Server} (reachable : (Server.system zstd).Reachable server) :
    ∃ state, (system zstd).Reachable state ∧ state.server = server := by
  induction reachable with
  | refl => exact ⟨_, .refl, rfl⟩
  | @step before after action _ _ stepped induction =>
      rcases induction with ⟨state, reachable, rfl⟩
      have moved : (system zstd).step state action = some (state.record after action) :=
        Option.map_eq_some_iff.mpr ⟨after, stepped, rfl⟩
      exact ⟨_, .step reachable trivial moved, record_server _ _ _⟩

/-! ## One live connection for each address -/

/-- A task holds the write half of the connection: its own, or that of an application
which is bound to it. -/
def WriterHeld (server : Server) (ref : ConnectionRef) : Prop :=
  (server.gateway ref).holdsWriter = true ∨
    ∃ slot < server.appCount, (server.app slot).connection? = some ref

/-- The connection has been removed from the sessions and its writer shut down, by an
eviction or by `shutdown`, or because the last task that held it has dropped it. -/
def Closed (server : Server) (ref : ConnectionRef) : Prop :=
  ref ∉ (FiniteMap.values server.shared.clientSessions).map ClientSession.writer ∧
    ((server.shared.sockets.writer ref).half.shut = true ∨ ¬ WriterHeld server ref)

instance (server : Server) (ref : ConnectionRef) : Decidable (WriterHeld server ref) :=
  inferInstanceAs (Decidable (_ ∨ ∃ slot < server.appCount, _))

instance (server : Server) (ref : ConnectionRef) : Decidable (Closed server ref) :=
  inferInstanceAs (Decidable (_ ∧ (_ ∨ ¬ _)))

/-- When the handler registers its session, every earlier connection from its IP address
is the one that its eviction has found under the socket address, or it is closed. -/
def TaskIdentifies (state : Registrations) (ref : ConnectionRef) : GatewayTask → Prop
  | .handling addr (.insertSession _) => ∀ entry ∈ state.registered, entry.2.ip = addr.ip →
      state.found ref = some entry.1 ∨ Closed state.server entry.1
  | _ => True

def AddressIdentifies (state : Registrations) : ServerAction → Prop
  | .gateway ref _ => state.TaskIdentifies ref (state.server.gateway ref)
  | _ => True

instance (state : Registrations) (ref : ConnectionRef) :
    (task : GatewayTask) → Decidable (state.TaskIdentifies ref task)
  | .handling addr (.insertSession _) => inferInstanceAs (Decidable (∀ entry ∈ state.registered,
      entry.2.ip = addr.ip → state.found ref = some entry.1 ∨ Closed state.server entry.1))
  | .handling _ .evict | .handling _ .challengeId | .handling _ .authenticate
  | .handling _ .setConnected | .handling _ .saveSession | .absent | .exchanging _ _ _
  | .rejected | .finished => .isTrue trivial

instance (state : Registrations) :
    (action : ServerAction) → Decidable (state.AddressIdentifies action)
  | .gateway ref _ =>
      inferInstanceAs (Decidable (state.TaskIdentifies ref (state.server.gateway ref)))
  | .acceptApp | .acceptGateway _ | .app _ _ | .resetGateway _ | .beginShutdown
  | .shutdown _ => .isTrue trivial

def Idle (server : Server) : Prop :=
  ∀ ref < server.gatewayCount, (server.gateway ref).inHandler = false

instance (server : Server) : Decidable (Idle server) :=
  inferInstanceAs (Decidable (∀ ref < server.gatewayCount, _))

/-- The sessions are of different IP addresses, and of two connections from one IP
address the earlier is closed. -/
structure OneConnectionPerIp (state : Registrations) : Prop where
  sessions : ∀ addr other session otherSession,
    state.server.shared.clientSessions.lookup addr = some session →
    state.server.shared.clientSessions.lookup other = some otherSession →
    addr.ip = other.ip → addr = other
  closed : state.registered.Pairwise fun later earlier =>
    later.2.ip = earlier.2.ip → Closed state.server earlier.1

inductive RegistrationStep (server : Server) : ServerAction → Server → Prop
  | evict {ref : ConnectionRef} {addr : SocketAddr} {input : Input} {next : Server}
      (point : server.gateway ref = .handling addr .evict)
      (sessions : next.shared.clientSessions = server.shared.clientSessions.erase addr)
      (tasks : next.gateway = Function.update server.gateway ref (.handling addr .challengeId))
      (shut : ∀ old, server.shared.clientSessions.lookup addr = some old →
        (next.shared.sockets.writer old.writer).half.shut = true) :
      RegistrationStep server (.gateway ref input) next
  | insert {ref : ConnectionRef} {addr : SocketAddr} {sessionId : Uuid} {input : Input}
      {next : Server} (point : server.gateway ref = .handling addr (.insertSession sessionId))
      (sessions : next.shared.clientSessions =
        server.shared.clientSessions.insert addr ⟨ref, addr, sessionId⟩)
      (tasks : next.gateway =
        Function.update server.gateway ref (.exchanging addr sessionId .receive)) :
      RegistrationStep server (.gateway ref input) next
  | other {action : ServerAction} {next : Server}
      (unrecorded : ∀ state : Registrations, state.server = server →
        state.record next action = { state with server := next })
      (sessions : ∀ addr session, next.shared.clientSessions.lookup addr = some session →
        server.shared.clientSessions.lookup addr = some session)
      (authenticated : ∀ ref, (server.gateway ref).authenticated = true →
        (next.gateway ref).authenticated = true) :
      RegistrationStep server action next

theorem RegistrationStep.ofGateway {server next : Server} (same : next.gateway = server.gateway)
    (sessions : ∀ addr session, next.shared.clientSessions.lookup addr = some session →
      server.shared.clientSessions.lookup addr = some session)
    (unrecorded : ∀ state : Registrations, state.server = server →
      state.record next action = { state with server := next }) :
    RegistrationStep server action next := by
  refine .other unrecorded sessions fun ref authenticated => ?_
  rwa [same]

theorem RegistrationStep.ofTask {server next : Server} {ref : ConnectionRef} {input : Input}
    {before task : GatewayTask} (running : server.gateway ref = before)
    (moved : next.gateway = Function.update server.gateway ref task)
    (sessions : ∀ addr session, next.shared.clientSessions.lookup addr = some session →
      server.shared.clientSessions.lookup addr = some session)
    (evict : ∀ addr, before ≠ .handling addr .evict)
    (insert : ∀ addr sessionId, before ≠ .handling addr (.insertSession sessionId))
    (authenticated : before.authenticated = true → task.authenticated = true) :
    RegistrationStep server (.gateway ref input) next := by
  refine .other ?_ sessions ?_
  · intro state same
    subst same
    simp only [record, running]
  · intro other held
    rw [moved]
    by_cases same : other = ref
    · subst same
      rw [Function.update_self]
      exact authenticated (running ▸ held)
    · rwa [Function.update_of_ne same]

theorem registrationStep_of_step {server next : Server} (slots : Server.SlotsInOrder server)
    (stepped : Server.step zstd server action = some next) :
    RegistrationStep server action next := by
  cases Server.transition_of_step stepped with
  | acceptApp => exact .ofGateway rfl (fun _ _ => id) fun _ _ => rfl
  | @acceptGateway addr =>
      refine .other (fun _ _ => rfl) (fun _ _ => id) fun ref authenticated => ?_
      have different : ref ≠ server.gatewayCount := by
        intro same
        rw [same, slots.gateway _ (Nat.le_refl _)] at authenticated
        cases authenticated
      simpa [different] using authenticated
  | app moved =>
      refine .ofGateway rfl ?_ fun _ _ => rfl
      intro addr session found
      rwa [moved.sameSessions.clientSessions] at found
  | @gateway ref input shared task moved =>
      generalize running : server.gateway ref = before at moved
      cases moved with
      | handling moved =>
          cases moved with
          | evict found =>
              refine .evict running rfl rfl ?_
              intro old stored
              rw [found] at stored
              cases stored
              simp [GatewaySockets.updateWriter, GatewayWriter.shutdown, WriteHalf.shutdown]
          | evictNone absent =>
              refine .evict running rfl rfl ?_
              intro old stored
              rw [absent] at stored
              cases stored
          | insertSession => exact .insert running rfl rfl
          | _ => exact .ofTask running rfl (fun _ _ => id) (by simp) (by simp) id
      | @exchanging addr sessionId point _ _ _ moved =>
          refine .ofTask running rfl (fun _ _ => moved.session_kept) (by simp) (by simp) ?_
          cases moved <;> exact fun _ => rfl
  | resetGateway => exact .ofGateway rfl (fun _ _ => id) fun _ _ => rfl
  | beginShutdown => exact .ofGateway rfl (fun _ _ => id) fun _ _ => rfl
  | shutdown moved =>
      refine .ofGateway rfl ?_ fun _ _ => rfl
      intro addr session found
      generalize server.shutdown = task at moved
      cases moved with
      | closeSession => exact (FiniteMap.lookup_of_erase found).2
      | _ => exact found

structure Tracked (state : Registrations) : Prop where
  sessions : ∀ addr session, state.server.shared.clientSessions.lookup addr = some session →
    (session.writer, addr) ∈ state.registered
  authenticated : ∀ entry ∈ state.registered,
    (state.server.gateway entry.1).authenticated = true
  found : ∀ ref old, state.found ref = some old →
    (state.server.gateway old).authenticated = true ∧ Closed state.server old
  closed : state.registered.Pairwise fun later earlier =>
    later.2.ip = earlier.2.ip → Closed state.server earlier.1

/-! ## Closed connections stay closed -/

def Unregistered (server : Server) (ref : ConnectionRef) : Prop :=
  ∀ addr session, server.shared.clientSessions.lookup addr = some session → session.writer ≠ ref

theorem closed_iff (server : Server) (ref : ConnectionRef) :
    Closed server ref ↔ Unregistered server ref ∧
      ((server.shared.sockets.writer ref).half.shut = true ∨ ¬ WriterHeld server ref) := by
  refine and_congr_left' ?_
  simp only [Unregistered, Multiset.mem_map, FiniteMap.mem_values]
  constructor
  · intro removed addr session found same
    exact removed ⟨session, ⟨addr, found⟩, same⟩
  · intro unregistered member
    rcases member with ⟨session, ⟨addr, found⟩, same⟩
    exact unregistered addr session found same

/-- A connection that has been registered once is not registered again. -/
theorem Unregistered.step {server next : Server} (slots : Server.SlotsInOrder server)
    (stepped : Server.step zstd server action = some next) {ref : ConnectionRef}
    (authenticated : (server.gateway ref).authenticated = true)
    (unregistered : Unregistered server ref) : Unregistered next ref := by
  intro addr session found
  cases registrationStep_of_step slots stepped with
  | evict _ sessions =>
      rw [sessions] at found
      exact unregistered addr session (FiniteMap.lookup_of_erase found).2
  | insert point sessions =>
      rw [sessions, FiniteMap.lookup_insert] at found
      split at found
      · cases found
        intro same
        rw [← same, point] at authenticated
        cases authenticated
      · exact unregistered addr session found
  | other _ sessions => exact unregistered addr session (sessions addr session found)

/-- Only sessions give writers away, and a writer that nobody holds is in none. -/
theorem not_writerHeld_of_step {server next : Server} (slots : Server.SlotsInOrder server)
    (stepped : Server.step zstd server action = some next) {ref : ConnectionRef}
    (authenticated : (server.gateway ref).authenticated = true)
    (unregistered : Unregistered server ref) (dropped : ¬ WriterHeld server ref) :
    ¬ WriterHeld next ref := by
  intro held
  rcases held with own | ⟨slot, below, bound⟩
  · have move := Server.gatewayMove_of_step stepped ref
    generalize next.gateway ref = task at move own
    cases move with
    | kept => exact dropped (.inl own)
    | accepted free =>
        rw [slots.gateway ref (Nat.le_of_eq free.symm)] at authenticated
        cases authenticated
    | moved moved =>
        refine dropped (.inl ?_)
        generalize server.gateway ref = before at moved
        cases moved <;> rfl
  · cases Server.transition_of_step stepped with
    | acceptApp =>
        change (Function.update server.app server.appCount _ slot).connection? = some ref at bound
        by_cases fresh : slot = server.appCount
        · rw [fresh, Function.update_self] at bound
          cases bound
        · rw [Function.update_of_ne fresh] at bound
          exact dropped (.inr ⟨slot, Nat.lt_of_le_of_ne (Nat.le_of_lt_succ below) fresh, bound⟩)
    | @app moving input shared task moved =>
        change (Function.update server.app moving task slot).connection? = some ref at bound
        by_cases own : slot = moving
        · subst own
          rw [Function.update_self] at bound
          rcases moved.connection bound with before | ⟨addr, session, found, same⟩
          · exact dropped (.inr ⟨slot, below, before⟩)
          · exact unregistered addr session found same
        · rw [Function.update_of_ne own] at bound
          exact dropped (.inr ⟨slot, below, bound⟩)
    | _ => exact dropped (.inr ⟨slot, below, bound⟩)

theorem Closed.step {server next : Server} (slots : Server.SlotsInOrder server)
    (stepped : Server.step zstd server action = some next) {ref : ConnectionRef}
    (authenticated : (server.gateway ref).authenticated = true) (closed : Closed server ref) :
    Closed next ref := by
  rw [closed_iff] at closed ⊢
  refine ⟨closed.1.step slots stepped authenticated, ?_⟩
  rcases closed.2 with shut | dropped
  · exact .inl (Server.shutKept_of_step stepped ref shut)
  · exact .inr (not_writerHeld_of_step slots stepped authenticated closed.1 dropped)

/-! ## Evictions and registrations -/

/-- The session found under the address of a handler is closed by the eviction. -/
theorem closed_of_evict {server next : Server} (held : Server.SessionsHeld server)
    {addr : SocketAddr} {old : ClientSession}
    (stored : server.shared.clientSessions.lookup addr = some old)
    (sessions : next.shared.clientSessions = server.shared.clientSessions.erase addr)
    (shut : (next.shared.sockets.writer old.writer).half.shut = true) :
    Closed next old.writer := by
  refine (closed_iff _ _).mpr ⟨?_, .inl shut⟩
  intro other session remaining same
  rw [sessions] at remaining
  rcases FiniteMap.lookup_of_erase remaining with ⟨different, before⟩
  have holds := held addr old stored
  have holdsOther := held other session before
  rw [same] at holdsOther
  rcases holds.exchanging with ⟨_, running⟩
  rcases holdsOther.exchanging with ⟨_, runningOther⟩
  rw [running] at runningOther
  injection runningOther with same
  exact different same.symm

/-- The task of an authenticated connection is not the one that moves. -/
theorem authenticated_update {server : Server} {ref other : ConnectionRef} {addr : SocketAddr}
    {point : HandleGatewayConnection} {task : GatewayTask}
    (running : server.gateway ref = .handling addr point)
    (authenticated : (server.gateway other).authenticated = true) :
    (Function.update server.gateway ref task other).authenticated = true := by
  have different : other ≠ ref := by
    intro same
    rw [same, running] at authenticated
    cases authenticated
  rwa [Function.update_of_ne different]

/-- Earlier connections stay closed in a step that opens none again. -/
theorem Tracked.closed_kept (tracked : Tracked state) {server : Server}
    (kept : ∀ old, (state.server.gateway old).authenticated = true →
      Closed state.server old → Closed server old) :
    state.registered.Pairwise fun later earlier =>
      later.2.ip = earlier.2.ip → Closed server earlier.1 := by
  refine tracked.closed.imp_of_mem ?_
  intro later earlier _ member closed same
  exact kept earlier.1 (tracked.authenticated earlier member) (closed same)

theorem Tracked.evict (tracked : Tracked state) (held : Server.SessionsHeld state.server)
    {ref : ConnectionRef} {addr : SocketAddr} {server : Server}
    (point : state.server.gateway ref = .handling addr .evict)
    (kept : ∀ old, (state.server.gateway old).authenticated = true →
      Closed state.server old → Closed server old)
    (sessions : server.shared.clientSessions = state.server.shared.clientSessions.erase addr)
    (tasks : server.gateway =
      Function.update state.server.gateway ref (.handling addr .challengeId))
    (shut : ∀ old, state.server.shared.clientSessions.lookup addr = some old →
      (server.shared.sockets.writer old.writer).half.shut = true) :
    Tracked ⟨server, state.registered, Function.update state.found ref
      ((state.server.shared.clientSessions.lookup addr).map ClientSession.writer)⟩ where
  sessions := by
    intro key session found
    rw [sessions] at found
    exact tracked.sessions key session (FiniteMap.lookup_of_erase found).2
  authenticated := by
    intro entry member
    rw [tasks]
    exact authenticated_update point (tracked.authenticated entry member)
  found := by
    intro handler writer found
    change Function.update state.found ref _ handler = some writer at found
    rw [tasks]
    by_cases own : handler = ref
    · rw [own, Function.update_self] at found
      rcases Option.map_eq_some_iff.mp found with ⟨old, stored, rfl⟩
      exact ⟨authenticated_update point
          (tracked.authenticated _ (tracked.sessions addr old stored)),
        closed_of_evict held stored sessions (shut old stored)⟩
    · rw [Function.update_of_ne own] at found
      have before := tracked.found handler writer found
      exact ⟨authenticated_update point before.1, kept writer before.1 before.2⟩
  closed := tracked.closed_kept kept

theorem Tracked.insert (tracked : Tracked state) {ref : ConnectionRef} {addr : SocketAddr}
    {sessionId : Uuid} {server : Server}
    (point : state.server.gateway ref = .handling addr (.insertSession sessionId))
    (identifies : ∀ entry ∈ state.registered, entry.2.ip = addr.ip →
      state.found ref = some entry.1 ∨ Closed state.server entry.1)
    (kept : ∀ old, (state.server.gateway old).authenticated = true →
      Closed state.server old → Closed server old)
    (sessions : server.shared.clientSessions =
      state.server.shared.clientSessions.insert addr ⟨ref, addr, sessionId⟩)
    (tasks : server.gateway =
      Function.update state.server.gateway ref (.exchanging addr sessionId .receive)) :
    Tracked ⟨server, (ref, addr) :: state.registered, state.found⟩ where
  sessions := by
    intro key session found
    rw [sessions, FiniteMap.lookup_insert] at found
    split at found
    · rename_i same
      cases found
      exact same ▸ List.mem_cons_self
    · exact List.mem_cons_of_mem _ (tracked.sessions key session found)
  authenticated := by
    intro entry member
    rw [tasks]
    rcases List.mem_cons.mp member with rfl | member
    · rw [Function.update_self]
      rfl
    · exact authenticated_update point (tracked.authenticated entry member)
  found := by
    intro handler old found
    have before := tracked.found handler old found
    rw [tasks]
    exact ⟨authenticated_update point before.1, kept old before.1 before.2⟩
  closed := by
    refine List.Pairwise.cons ?_ (tracked.closed_kept kept)
    intro entry member same
    refine kept entry.1 (tracked.authenticated entry member) ?_
    rcases identifies entry member same.symm with found | closed
    · exact (tracked.found ref entry.1 found).2
    · exact closed

theorem Tracked.step (tracked : Tracked state)
    (slots : Server.SlotsInOrder state.server) (held : Server.SessionsHeld state.server)
    (identifies : AddressIdentifies state action)
    (stepped : (system zstd).step state action = some next) : Tracked next := by
  rcases step_eq_some stepped with ⟨moved, recorded⟩
  have kept : ∀ old, (state.server.gateway old).authenticated = true →
      Closed state.server old → Closed next.server old := fun old authenticated closed =>
    closed.step slots moved authenticated
  generalize next.server = server at moved recorded kept
  subst recorded
  cases registrationStep_of_step slots moved with
  | evict point sessions tasks shut =>
      simp only [record, point]
      exact tracked.evict held point kept sessions tasks shut
  | insert point sessions tasks =>
      simp only [AddressIdentifies, point, TaskIdentifies] at identifies
      simp only [record, point]
      exact tracked.insert point identifies kept sessions tasks
  | other unrecorded sessions authenticated =>
      rw [unrecorded state rfl]
      exact {
        sessions := fun addr session found =>
          tracked.sessions addr session (sessions addr session found)
        authenticated := fun entry member =>
          authenticated entry.1 (tracked.authenticated entry member)
        found := by
          intro ref old found
          have before := tracked.found ref old found
          exact ⟨authenticated old before.1, kept old before.1 before.2⟩
        closed := tracked.closed_kept kept }

theorem tracked_of_reachable (reachable : (system zstd).ReachableUnder AddressIdentifies state) :
    Tracked state := by
  refine reachable.invariant ?_ ?_
  · refine ⟨?_, ?_, ?_, .nil⟩
    · intro _ _ found
      cases found
    · intro _ member
      cases member
    · intro _ _ found
      cases found
  · intro _ _ _ earlier tracked identifies stepped
    have reached := server_reachable earlier
    exact tracked.step (Server.slotsInOrder_of_reachable reached)
      (Server.sessionsHeld_of_reachable reached) identifies stepped

/-- Of two connections from one IP address one is closed. -/
theorem Tracked.closed_or_closed (tracked : Tracked state) :
    ∀ ⦃entry⦄, entry ∈ state.registered → ∀ ⦃other⦄, other ∈ state.registered →
      entry.2.ip = other.2.ip → entry.2 ≠ other.2 →
      Closed state.server entry.1 ∨ Closed state.server other.1 :=
  List.Pairwise.forall_of_forall_of_flip (fun _ _ _ different => absurd rfl different)
    (tracked.closed.imp fun closed same _ => .inr (closed same))
    (tracked.closed.imp fun closed same _ => .inl (closed same.symm))

/-- As long as a handler registers only when every earlier connection from its IP address
was found by its eviction or is closed, each IP address has one session at most and its
earlier connections are closed. -/
theorem one_connection_per_ip (zstd : Zstd) (state : Registrations)
    (reachable : (system zstd).ReachableUnder AddressIdentifies state) :
    OneConnectionPerIp state := by
  have tracked := tracked_of_reachable reachable
  refine ⟨?_, tracked.closed⟩
  intro addr other session otherSession found foundOther same
  by_contra different
  rcases tracked.closed_or_closed (tracked.sessions addr session found)
    (tracked.sessions other otherSession foundOther) same different with closed | closed
  · exact ((closed_iff _ _).mp closed).1 addr session found rfl
  · exact ((closed_iff _ _).mp closed).1 other otherSession foundOther rfl

def connect (ref : ConnectionRef) (addr : SocketAddr) (sessionId : Uuid) : List ServerAction :=
  [.acceptGateway addr, .gateway ref .go, .gateway ref .go, .gateway ref (.verdict true),
    .gateway ref .go, .gateway ref (.session sessionId), .gateway ref .go]

def leave (ref : ConnectionRef) : List ServerAction :=
  [.gateway ref .ended, .gateway ref .go, .gateway ref .go, .gateway ref .go, .gateway ref .go,
    .gateway ref .go]

/-- A client reconnects from its port, then goes away and comes back from another one. -/
theorem one_connection_per_ip_reconnected :
    ∃ state : Registrations, state.registered.map Prod.fst = [2, 1, 0] ∧
      OneConnectionPerIp state := by
  have executed : ((system .runLength).runChecked
      (fun state action => state.AddressIdentifies action) (system .runLength).start
      (connect 0 localClient 7 ++ connect 1 localClient 8 ++ leave 1 ++ [.gateway 1 .go] ++
        connect 2 { localClient with port := 9001 } 9)).any
      (fun state => state.registered.map Prod.fst = [2, 1, 0]) = true := by
    decide +kernel
  rcases TransitionSystem.exists_reaches_of_runChecked executed with ⟨state, reaches, found⟩
  exact ⟨state, of_decide_eq_true found, one_connection_per_ip .runLength state
    (reaches.mono fun _ _ passed => of_decide_eq_true passed)⟩

/-- The same client from another port: both sessions stay registered. -/
theorem two_connections_per_ip :
    ∃ state : Registrations, (system .runLength).Reachable state ∧ Idle state.server ∧
      ¬OneConnectionPerIp state := by
  have executed : ((system .runLength).runChecked (fun _ _ => true) (system .runLength).start
      (connect 0 localClient 7 ++ connect 1 { localClient with port := 9001 } 8)).any
      (fun state => Idle state.server ∧
        state.server.shared.clientSessions.lookup localClient = some ⟨0, localClient, 7⟩ ∧
        (state.server.shared.clientSessions.lookup { localClient with port := 9001 }).isSome =
          true) = true := by
    decide +kernel
  rcases TransitionSystem.exists_reaches_of_runChecked executed with ⟨state, reaches, found⟩
  rcases of_decide_eq_true found with ⟨idle, first, second⟩
  refine ⟨state, reaches.always, idle, ?_⟩
  intro one
  rcases Option.isSome_iff_exists.mp second with ⟨session, second⟩
  exact absurd (one.sessions _ _ _ _ first second rfl) (by decide)

end Registrations

end IoGateway

import IoGateway.Acceptance
import IoGateway.Server.Abandoned

/-! # Connections that the server turns away

A connection whose handshake fails ends its task; it never gets a session. What
it has done before is the eviction of an earlier session of its own address.
-/

namespace IoGateway

open TransitionSystem (Always)

namespace Server

variable {zstd : Zstd} {server next : Server} {action : ServerAction}

structure Rejected (ref : ConnectionRef) (server : Server) : Prop where
  slots : SlotsInOrder server
  rejected : server.gateway ref = .rejected

theorem Rejected.step {ref : ConnectionRef} (rejected : Rejected ref server)
    (stepped : step zstd server action = some next) : Rejected ref next := by
  refine ⟨rejected.slots.step stepped, ?_⟩
  have ended := rejected.rejected
  cases transition_of_step stepped with
  | acceptGateway =>
      have different : ref ≠ server.gatewayCount := by
        intro equal
        rw [equal, rejected.slots.gateway _ (Nat.le_refl _)] at ended
        cases ended
      simpa [different] using ended
  | @gateway moving input shared task moved =>
      have different : ref ≠ moving := by
        intro equal
        rw [← equal, ended] at moved
        cases moved
      simpa [different] using ended
  | _ => exact ended

theorem rejected_of_verdict {ref : ConnectionRef}
    (stepped : step zstd server (.gateway ref (.verdict false)) = some next) :
    next.gateway ref = .rejected := by
  cases transition_of_step stepped with
  | gateway moved =>
      generalize server.gateway ref = task at moved
      change Function.update _ _ _ _ = _
      rw [Function.update_self]
      cases moved with
      | handling moved => cases moved with | deny => rfl
      | exchanging moved =>
          cases moved with
          | cleanup cleaning => cases cleaning
          | cleaned cleaning => cases cleaning

/-- Nothing that happens later gives a rejected connection a session. -/
theorem no_session_of_rejected (reachable : (system zstd).Reachable server) {later : Server}
    {ref : ConnectionRef} (ended : server.gateway ref = .rejected)
    (reaches : (system zstd).Reaches Always server later) :
    ∀ addr session, later.shared.clientSessions.lookup addr = some session →
      session.writer ≠ ref := by
  have still : Rejected ref later :=
    reaches.invariant ⟨slotsInOrder_of_reachable reachable, ended⟩
      fun _ _ _ rejected _ stepped => rejected.step stepped
  intro addr session found equal
  have held := sessionsHeld_of_reachable (reachable.trans reaches) addr session found
  rw [equal, still.rejected] at held
  exact held

/-- `handle_gateway_connection` of a new connection, to its return after a failed
authentication, with no other task in between. -/
def turnedAway (server : Server) (addr : SocketAddr) : List ServerAction :=
  [.acceptGateway addr, .gateway server.gatewayCount .go, .gateway server.gatewayCount .go,
    .gateway server.gatewayCount (.verdict false)]

def afterTurnedAway (server : Server) (addr : SocketAddr) : Server where
  shared :=
    { server.shared with
      base := server.shared.base.nextPacketId.2
      clientSessions := server.shared.clientSessions.erase addr
      sockets := match server.shared.clientSessions.lookup addr with
        | some old => server.shared.sockets.updateWriter old.writer GatewayWriter.shutdown
        | none => server.shared.sockets }
  app := server.app
  gateway := Function.update server.gateway server.gatewayCount .rejected
  shutdown := server.shutdown
  appCount := server.appCount
  gatewayCount := server.gatewayCount + 1

/-- The handler waits while `shutdown` holds the guard of `client_sessions`. -/
theorem run_turnedAway (zstd : Zstd) (server : Server) (addr : SocketAddr) :
    (system zstd).run server (turnedAway server addr) =
      if server.shutdown.holdsSessions then none else some (server.afterTurnedAway addr) := by
  cases held : server.shutdown.holdsSessions with
  | true =>
      simp [turnedAway, TransitionSystem.run, system, Server.step, held,
        GatewayTask.usesSessions]
  | false =>
      cases found : server.shared.clientSessions.lookup addr <;>
        simp [turnedAway, TransitionSystem.run, system, Server.step, held,
          GatewayServer.gatewayStep, GatewayServer.handleGatewayConnection, found,
          afterTurnedAway, Gateway.nextPacketId]

/-- A failed authentication costs nobody anything but the session that was
registered under the very address of the connection. -/
theorem failed_authentication_effect (zstd : Zstd) (server : Server) (addr : SocketAddr) :
    ∃ next, (system zstd).run server (server.turnedAway addr) =
        (if server.shutdown.holdsSessions then none else some next) ∧
      next.gateway server.gatewayCount = .rejected ∧
      next.shared.linkClients = server.shared.linkClients ∧
      next.shared.base.links = server.shared.base.links ∧
      next.shared.base.link = server.shared.base.link ∧
      next.shared.sessionStore = server.shared.sessionStore ∧
      next.shared.base.state = server.shared.base.state ∧
      next.shared.clientSessions = server.shared.clientSessions.erase addr ∧
      ∀ connection,
        next.shared.sockets.writer connection = server.shared.sockets.writer connection ∨
        ∃ session, server.shared.clientSessions.lookup addr = some session ∧
          session.writer = connection := by
  refine ⟨_, run_turnedAway zstd server addr, ?_, rfl, rfl, rfl, rfl, rfl, rfl, ?_⟩
  · exact Function.update_self _ _ _
  · intro connection
    simp only [afterTurnedAway]
    cases server.shared.clientSessions.lookup addr with
    | none => exact .inl rfl
    | some old =>
        by_cases same : connection = old.writer
        · exact .inr ⟨old, rfl, same.symm⟩
        · exact .inl (Function.update_of_ne same _ _)

/-- A client has registered from an address. A second connection from there, whose
peer closes it at once, ends the session and shuts the client's writer. -/
theorem failed_authentication_evicts :
    ∃ server next : Server, (system .runLength).Reachable server ∧
      (system .runLength).run server (server.turnedAway localClient) = some next ∧
      ((GatewayServer.authenticateClient .truncated [7] zeroNonce
        server.shared.base.nextPacketId.1).run []).value = false ∧
      (server.shared.clientSessions.lookup localClient).isSome = true ∧
      next.shared.clientSessions.lookup localClient = none ∧
      (server.shared.sockets.writer 0).half.shut = false ∧
      (next.shared.sockets.writer 0).half.shut = true := by
  have executed : ((system .runLength).runChecked (fun _ _ => true) .new
      (oneOpenLink.take 7)).any (fun server =>
        server.shared.clientSessions.lookup localClient = some ⟨0, localClient, 7⟩ ∧
        (server.shared.sockets.writer 0).half.shut = false ∧
        server.shutdown.holdsSessions = false) = true := by decide +kernel
  rcases TransitionSystem.exists_reaches_of_runChecked executed with ⟨server, reaches, found⟩
  rcases of_decide_eq_true found with ⟨registered, unshut, unlocked⟩
  have returns := run_turnedAway .runLength server localClient
  rw [unlocked] at returns
  refine ⟨server, _, reaches.always, returns, rfl, ?_, ?_, unshut, ?_⟩
  · rw [registered]
    rfl
  · simp [afterTurnedAway]
  · simp only [afterTurnedAway, registered]
    rfl

end Server

end IoGateway

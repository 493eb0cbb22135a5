import IoGateway.Server.Draining
import IoGateway.Server.Sender

/-! # The server left alone

The steps of the server's tasks that wait for nothing from outside. A frame that is sent
gives less to do to its reader than the send has cost.
-/

namespace IoGateway

/-- The steps between two things that come from outside. A shutdown that has begun goes
on, its pause included. -/
def ServerAction.goesOn : ServerAction → Bool
  | .app _ input => !input.fromOutside
  | .gateway _ input => !input.fromOutside
  | .shutdown _ => true
  | _ => false

def PacketType.serverWork : PacketType → Nat
  | .close => 3
  | .openFail => 3
  | .ping => 2
  | .regular => 2
  | .opened => 2
  | _ => 0

namespace Server

variable {zstd : Zstd} {server next : Server} {action : ServerAction}
  {connection : ConnectionRef}

theorem ends_of_goesOn (goesOn : action.goesOn = true) : Ends server action := by
  unfold Ends
  cases action with
  | app ref input => cases input <;> first | rfl | cases goesOn
  | gateway ref input => cases input <;> first | rfl | cases goesOn
  | shutdown => rfl
  | _ => cases goesOn

/-- The tasks of applications may each send what takes a client many steps, and a
connection that is being set up may add a session. -/
def sendingWork (server : Server) : Nat :=
  128 * totalWork AppTask.work server.appCount server.app +
    4 * totalWork GatewayTask.work server.gatewayCount server.gateway +
    (2 * server.shared.sessionCount + server.shutdown.work)

theorem work_of_dispatch (packet : PacketGW) (data : Option Bytes) :
    (GatewayServer.dispatch packet data).work ≤
      ClientExchange.receive.work + packet.packetType.serverWork := by
  unfold GatewayServer.dispatch
  cases type : packet.packetType <;> simp only
  case regular => cases data <;> simp [ClientExchange.work, PacketType.serverWork]
  all_goals
    simp [ClientExchange.work, CleanupClient.work, RemoveLink.work, PacketType.serverWork]

/-- A frame gives the exchange loop at most so much to do. -/
theorem sendingWork_of_frame {packet : PacketGW} {data : Option Bytes}
    (stepped : step zstd server (.gateway connection (.frame packet data)) = some next) :
    next.sendingWork ≤ server.sendingWork + 4 * packet.packetType.serverWork := by
  rcases receive_of_frame stepped with ⟨addr, sessionId, running, rfl⟩
  have less : (GatewayTask.exchanging addr sessionId (GatewayServer.dispatch packet data)).work ≤
      (server.gateway connection).work + packet.packetType.serverWork := by
    rw [running]
    exact work_of_dispatch packet data
  have total := @totalWork_le_add _ GatewayTask.work server.gatewayCount connection _
    server.gateway (Function.update server.gateway connection
      (.exchanging addr sessionId (GatewayServer.dispatch packet data)))
    (by rwa [Function.update_self])
    fun other different => by rw [Function.update_of_ne different]
  have sessions : (server.shared.updateSockets
      (server.shared.sockets.receive connection (packet, data))).sessionCount =
        server.shared.sessionCount := rfl
  unfold sendingWork
  dsimp only
  omega

theorem gatewayCount_of_goesOn (goesOn : action.goesOn = true)
    (stepped : step zstd server action = some next) : next.gatewayCount = server.gatewayCount := by
  cases transition_of_step stepped with
  | app => rfl
  | gateway => rfl
  | shutdown => rfl
  | _ => cases goesOn

theorem sockets_of_frame {packet : PacketGW} {data : Option Bytes} (slots : SlotsInOrder server)
    (stepped : step zstd server (.gateway connection (.frame packet data)) = some next) :
    connection < server.gatewayCount ∧ next.gatewayCount = server.gatewayCount ∧
      next.shared.sockets = server.shared.sockets.receive connection (packet, data) := by
  rcases receive_of_frame stepped with ⟨addr, sessionId, running, rfl⟩
  exact ⟨slots.gateway_lt fun absent => (by rw [running] at absent; cases absent), rfl, rfl⟩

/-- A step adds at most the frame of one call to what has been sent. -/
theorem sentAtMost_of_step {rank : Frame → Nat} {extra : Nat}
    (bounded : ∀ connection call, server.Sending action connection call →
      rank (Frame.of call) ≤ extra)
    (stepped : step zstd server action = some next) :
    ∃ connection,
      (∀ other, other ≠ connection → (next.shared.sockets.writer other).sent =
        (server.shared.sockets.writer other).sent) ∧
      SentAtMost rank extra (server.shared.sockets.writer connection).sent
        (next.shared.sockets.writer connection).sent := by
  rcases writers_of_step stepped with silent | ⟨connection, call, outcome, sending, wrote, others⟩
  · exact ⟨0, fun other _ => (silent other).sent, .inl (silent 0).sent⟩
  · refine ⟨connection, fun other different => (others other different).sent, ?_⟩
    exact (GatewayWriter.sent_of_send wrote).imp_right
      fun grown => ⟨_, grown, bounded connection call sending⟩

/-- Left alone, the server's tasks have less to do after each step, by more than what
they send gives to its reader. -/
theorem sendingWork_lt_of_step {rank : Frame → Nat} (slots : SlotsInOrder server)
    (bounded : ∀ frame, rank frame ≤ 97) (pong : ∀ frame, frame.packetType = .pong → rank frame ≤ 1)
    (goesOn : action.goesOn = true) (stepped : step zstd server action = some next) :
    ∃ connection extra, next.sendingWork + extra < server.sendingWork ∧
      (∀ other, other ≠ connection → (next.shared.sockets.writer other).sent =
        (server.shared.sockets.writer other).sent) ∧
      SentAtMost rank extra (server.shared.sockets.writer connection).sent
        (next.shared.sockets.writer connection).sent := by
  have ends : Ends server action := ends_of_goesOn goesOn
  cases transition_of_step stepped with
  | @app slot input shared task moved =>
      have below : slot < server.appCount := slots.app_lt fun absent => by
        rw [absent] at moved
        cases moved
      have less := totalWork_update_lt below (moved.work ends)
      have sessions : shared.sessionCount = server.shared.sessionCount :=
        congrArg FiniteMap.size moved.sameSessions.clientSessions
      rcases sentAtMost_of_step (fun _ _ _ => bounded _) stepped with ⟨connection, others, sent⟩
      refine ⟨connection, 97, ?_, others, sent⟩
      unfold sendingWork
      dsimp only
      omega
  | @gateway slot input shared task moved =>
      have below : slot < server.gatewayCount := slots.gateway_lt fun absent => by
        rw [absent] at moved
        cases moved
      have less := totalWork_update_lt below (moved.work ends)
      have sessions := moved.sessionCount
      have answers : ∀ connection call, server.Sending (.gateway slot input) connection call →
          rank (Frame.of call) ≤ 1 := by
        intro connection call sending
        cases sending
        exact pong _ rfl
      rcases sentAtMost_of_step answers stepped with ⟨connection, others, sent⟩
      refine ⟨connection, 1, ?_, others, sent⟩
      unfold sendingWork
      dsimp only
      omega
  | @shutdown input shared task moved =>
      have silent : ∀ connection call, server.Sending (.shutdown input) connection call →
          rank (Frame.of call) ≤ 0 := fun _ _ sending => by cases sending
      rcases sentAtMost_of_step silent stepped with ⟨connection, others, sent⟩
      exact ⟨connection, 0, Nat.add_lt_add_left moved.work _, others, sent⟩
  | _ => cases goesOn

/-! ## Rest -/

structure Resting (server : Server) : Prop where
  app : ∀ ref, (server.app ref).Resting
  gateway : ∀ connection, (server.gateway connection).Resting
  shutdown : server.shutdown.Ended

theorem resting_of_stuck
    (stuck : ∀ action next, action.goesOn = true → step zstd server action ≠ some next) :
    server.Resting := by
  have shutdown : server.shutdown.Ended := by
    by_contra running
    rcases exists_step_of_shutdown zstd running with ⟨input, next, stepped⟩
    exact stuck (.shutdown input) next rfl stepped
  have unlocked := unlocked_of_ended shutdown
  refine ⟨?_, ?_, shutdown⟩
  · intro ref
    by_contra busy
    rcases server.shared.exists_appStep zstd ref busy with ⟨input, result, inside, moved⟩
    rcases exists_step_of_app unlocked moved with ⟨next, stepped⟩
    exact stuck (.app ref input) next (by simp [ServerAction.goesOn, inside]) stepped
  · intro connection
    by_contra busy
    rcases server.shared.exists_gatewayStep zstd connection busy with
      ⟨input, result, inside, moved⟩
    rcases exists_step_of_gateway unlocked moved with ⟨next, stepped⟩
    exact stuck (.gateway connection input) next (by simp [ServerAction.goesOn, inside]) stepped

end Server

end IoGateway

import IoGateway.Requests
import IoGateway.Server.Receiver

/-! # The server's answers

The exchange loop of a gateway connection answers each `Ping` before it reads the next
frame. The applications' tasks send on the same writer.
-/

namespace IoGateway

def ClientExchange.pending : ClientExchange → Option Request
  | .pongId => some .ping
  | .sendPong _ => some .ping
  | _ => none

def GatewayTask.pending : GatewayTask → Option Request
  | .exchanging _ _ point => point.pending
  | _ => none

namespace Server

def answering (server : Server) (connection : ConnectionRef) : Responder Request Answer :=
  responder Frame.ping? Frame.pong? server.shared.sockets connection
    (server.gateway connection).pending

variable {zstd : Zstd} {server next : Server} {connection : ConnectionRef} {input : Input}
  {action : ServerAction}

theorem ping_of_dispatch (packet : PacketGW) (data : Option Bytes) :
    (Frame.of (packet, data)).ping? = (GatewayServer.dispatch packet data).pending := by
  unfold GatewayServer.dispatch
  cases type : packet.packetType <;> simp only [Frame.ping?, Frame.of, type]
  case regular => cases data <;> rfl
  all_goals rfl

theorem answering_beside (stepped : step zstd server action = some next)
    (beside : ∀ input, action ≠ .gateway connection input)
    (same : (next.gateway connection).pending = (server.gateway connection).pending) :
    Responder.Step Answers (server.answering connection) (next.answering connection) := by
  have received : next.shared.sockets.received connection =
      server.shared.sockets.received connection := by
    cases receivedStep_of_step stepped with
    | kept same => rw [same]
    | @received serving addr sessionId packet data _ run sockets =>
        have different : connection ≠ serving := by
          intro equal
          subst equal
          exact beside _ rfl
        simp [sockets, GatewaySockets.receive, different]
  cases writerStep_of_step stepped connection with
  | silent silent => exact responder_kept received silent same
  | sent sending sent =>
      refine responder_other received sent ?_ same
      cases sending with
      | pong => exact absurd rfl (beside _)
      | _ => rfl

theorem answering_of_exchange {addr : SocketAddr} {sessionId : Uuid} {point : ClientExchange}
    {shared : GatewayServer} {task : GatewayTask}
    (stepped : server.shared.ClientExchangeStep zstd connection addr sessionId point input shared
      task)
    (run : server.gateway connection = .exchanging addr sessionId point)
    (moved : next = { server with
      shared := shared, gateway := Function.update server.gateway connection task }) :
    Responder.Step Answers (server.answering connection) (next.answering connection) := by
  have before : (server.gateway connection).pending = point.pending := by rw [run]; rfl
  have after : (next.gateway connection).pending = task.pending := by
    simp [moved]
  have sockets : next.shared.sockets = shared.sockets := by rw [moved]
  have unchanged : shared.sockets = server.shared.sockets → task.pending = point.pending →
      Responder.Step Answers (server.answering connection) (next.answering connection) := by
    intro same working
    rw [answering, answering, sockets, same]
    exact responder_kept rfl (.refl _) (after.trans (working.trans before.symm))
  cases stepped with
  | @receive packet data =>
      refine responder_received (packet, data) ?_ (by rw [sockets]; rfl) before ?_
      · simp [sockets, GatewaySockets.receive]
      · rw [ping_of_dispatch, after]
        rfl
  | sendPong sent =>
      rw [answering, answering, sockets]
      exact responder_answered (congrFun sent.received connection) sent.own rfl before .pong after
  | removing removal => exact unchanged removal.sockets rfl
  | removed removal => exact unchanged removal.sockets rfl
  | cleanup cleaning => exact unchanged cleaning.sockets rfl
  | cleaned cleaning => exact unchanged cleaning.sockets rfl
  | _ => exact unchanged rfl rfl

theorem answering_of_handling {addr : SocketAddr} {point : HandleGatewayConnection}
    {shared : GatewayServer} {task : GatewayTask}
    (stepped : server.shared.HandleGatewayStep connection addr point input shared task)
    (run : server.gateway connection = .handling addr point)
    (moved : next = { server with
      shared := shared, gateway := Function.update server.gateway connection task }) :
    Responder.Step Answers (server.answering connection) (next.answering connection) := by
  have before : (server.gateway connection).pending = none := by rw [run]; rfl
  have after : (next.gateway connection).pending = task.pending := by simp [moved]
  have sockets : next.shared.sockets = shared.sockets := by rw [moved]
  rw [answering, answering, sockets]
  cases stepped with
  | evict =>
      exact responder_kept rfl (GatewaySockets.silent_updateWriter GatewayWriter.silent_shutdown)
        (after.trans before.symm)
  | _ => exact responder_kept rfl (.refl _) (after.trans before.symm)

theorem answering_of_step (slots : SlotsInOrder server)
    (stepped : step zstd server action = some next) (connection : ConnectionRef) :
    Responder.Step Answers (server.answering connection) (next.answering connection) := by
  cases transition_of_step stepped with
  | acceptGateway =>
      refine answering_beside stepped nofun ?_
      by_cases own : connection = server.gatewayCount
      · subst own
        rw [slots.gateway _ (Nat.le_refl _)]
        simp [GatewayTask.pending]
      · simp [own]
  | @gateway ref input shared task moved =>
      by_cases own : connection = ref
      · subst own
        generalize running : server.gateway connection = before at moved
        cases moved with
        | exchanging moved => exact answering_of_exchange moved running rfl
        | handling moved => exact answering_of_handling moved running rfl
      · refine answering_beside stepped ?_ (by simp [own])
        intro input acted
        cases acted
        exact own rfl
  | _ => exact answering_beside stepped nofun rfl

def AnswersInOrder (server : Server) : Prop :=
  ∀ connection, (server.answering connection).InOrder Answers

theorem answersInOrder_of_reachable (reachable : (system zstd).Reachable server) :
    server.AnswersInOrder :=
  reachable.invariant (fun _ => Responder.inOrder_idle)
    fun _ _ _ earlier inOrder _ stepped connection =>
      (inOrder connection).step
        (answering_of_step (slotsInOrder_of_reachable earlier) stepped connection)

/-- In every run, with failing writes and any sharing of the writer with the applications'
tasks: on a connection the server has sent at most one `Pong` for each `Ping` read from
it, and exactly one for each but the one at work as long as no write has failed. -/
theorem pongs_sent (zstd : Zstd) (server : Server) (reachable : (system zstd).Reachable server)
    (connection : ConnectionRef) :
    let asked := (pings ((server.shared.sockets.received connection).map Frame.of)).length
    let answered := (pongs (server.shared.sockets.writer connection).sent).length
    let pending := (server.gateway connection).pending.toList.length
    answered + pending ≤ asked ∧
      ((server.shared.sockets.writer connection).half.failed = false →
        answered + pending = asked) := by
  rcases answersInOrder_of_reachable reachable connection with ⟨served, matched, part, whole⟩
  have same := matched.length_eq
  have shorter := part.length_le
  rw [List.length_append, same] at shorter
  refine ⟨shorter, fun healthy => ?_⟩
  have equal := congrArg List.length (whole healthy)
  rwa [List.length_append, same] at equal

theorem pongs_sent_second :
    ∃ server : Server, (pings (server.shared.heard 0)).length = 2 ∧
      (pongs (server.shared.sockets.writer 0).sent).length + 1 =
        (pings (server.shared.heard 0)).length := by
  have executed : ((system .runLength).runChecked (fun _ _ => true) .new
      (oneOpenLink ++ [.gateway 0 (.frame (PacketGW.new .ping 1 0 0) none), .gateway 0 .go,
        .gateway 0 (.write .ok), .gateway 0 (.frame (PacketGW.new .ping 2 0 0) none)])).any
      (fun server => (pings (server.shared.heard 0)).length = 2 ∧
        (server.shared.sockets.writer 0).half.failed = false ∧
        (server.gateway 0).pending.toList.length = 1) = true := by decide +kernel
  rcases TransitionSystem.exists_reaches_of_runChecked executed with ⟨server, reaches, found⟩
  rcases of_decide_eq_true found with ⟨asked, healthy, working⟩
  have answered := (pongs_sent .runLength server reaches.always 0).2 healthy
  exact ⟨server, asked, by rwa [working] at answered⟩

end Server

end IoGateway

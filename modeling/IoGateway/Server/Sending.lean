import IoGateway.Server.Transitions

/-! # Who writes on a gateway connection of the server

Every `send_gw_packet` call of the server with the program point it is made at, and
the proof that a step changes the writer of a connection only by such a call.
-/

namespace IoGateway

def AppTask.connection? : AppTask → Option ConnectionRef
  | .handling (.addLink _ writer _) => some writer
  | .handling (.insertRoute _ writer _) => some writer
  | .handling (.openId _ writer) => some writer
  | .handling (.sendOpen _ writer _) => some writer
  | .handling (.setWaiting _ writer) => some writer
  | .exchanging _ writer _ => some writer
  | _ => none

namespace GatewayServer

variable {zstd : Zstd} {server after : GatewayServer} {ref : ConnectionRef}
  {call : SendCall} {outcome : WriteOutcome}

theorem Sent.writer (sent : server.Sent zstd ref call outcome after)
    (connection : ConnectionRef) :
    after.sockets.writer connection = server.sockets.writer connection ∨
      connection = ref ∧ (server.sockets.writer ref).send zstd call outcome =
        some (after.sockets.writer ref) := by
  rcases sent with ⟨sockets, sending, rfl⟩
  by_cases equal : connection = ref
  · exact .inr ⟨equal, GatewaySockets.send_own sending⟩
  · exact .inl (GatewaySockets.send_other sending equal)

theorem Sent.own (sent : server.Sent zstd ref call outcome after) :
    (server.sockets.writer ref).send zstd call outcome = some (after.sockets.writer ref) := by
  rcases sent with ⟨sockets, sending, rfl⟩
  exact GatewaySockets.send_own sending

theorem Sent.received (sent : server.Sent zstd ref call outcome after) :
    after.sockets.received = server.sockets.received := by
  rcases sent with ⟨sockets, sending, rfl⟩
  exact GatewaySockets.send_received sending

theorem RemoveLinkStep.sockets {point : RemoveLink} {next : Option RemoveLink}
    (removal : RemoveLinkStep server point after next) : after.sockets = server.sockets := by
  cases removal <;> rfl

theorem CleanupStep.sockets {addr : SocketAddr} {sessionId : Uuid} {point : CleanupClient}
    {input : Input} {next : Option CleanupClient}
    (cleaning : CleanupStep addr sessionId server point input after next) :
    after.sockets = server.sockets := by
  cases cleaning <;> rfl

end GatewayServer

namespace Server

/-- The calls of `send_gw_packet`: the action that makes it, the connection whose
writer it is given, and the packet. -/
inductive Sending (server : Server) : ServerAction → ConnectionRef → SendCall → Prop
  | open_ {connection : ConnectionRef} {link : LinkRef} {linkId : UInt16} {packetId : UInt64}
      {input : Input}
      (point : server.app link = .handling (.sendOpen linkId connection packetId)) :
      Sending server (.app link input) connection (PacketGW.new .open_ packetId linkId 0, none)
  | regular {connection : ConnectionRef} {link : LinkRef} {linkId : UInt16} {bytes : Bytes}
      {packetId : UInt64} {input : Input}
      (point : server.app link = .exchanging linkId connection (.sendRegular bytes packetId)) :
      Sending server (.app link input) connection
        (PacketGW.new .regular packetId linkId (UInt16.ofNat bytes.length), some bytes)
  | close {connection : ConnectionRef} {link : LinkRef} {linkId : UInt16} {packetId : UInt64}
      {input : Input}
      (point : server.app link = .exchanging linkId connection (.sendClose packetId)) :
      Sending server (.app link input) connection (PacketGW.new .close packetId linkId 0, none)
  | pong {connection : ConnectionRef} {addr : SocketAddr} {sessionId : Uuid}
      {packetId : UInt64} {input : Input}
      (point : server.gateway connection = .exchanging addr sessionId (.sendPong packetId)) :
      Sending server (.gateway connection input) connection
        (PacketGW.new .pong packetId 0 0, none)

inductive WriterStep (zstd : Zstd) (server : Server) (action : ServerAction)
    (connection : ConnectionRef) (after : GatewayWriter) : Prop
  | silent (silent : (server.shared.sockets.writer connection).Silent after)
  | sent {call : SendCall} {outcome : WriteOutcome}
      (sending : server.Sending action connection call)
      (sent : (server.shared.sockets.writer connection).send zstd call outcome = some after)

variable {zstd : Zstd} {server next : Server} {action : ServerAction}
  {connection : ConnectionRef}

theorem WriterStep.unchanged {after : GatewayWriter}
    (same : after = server.shared.sockets.writer connection) :
    WriterStep zstd server action connection after :=
  .silent (same ▸ .refl _)

theorem WriterStep.ofSent {writer : ConnectionRef} {call : SendCall} {outcome : WriteOutcome}
    {after : GatewayServer} (sent : server.shared.Sent zstd writer call outcome after)
    (sending : server.Sending action writer call) :
    WriterStep zstd server action connection (after.sockets.writer connection) := by
  rcases sent.writer connection with same | ⟨rfl, wrote⟩
  · exact .unchanged same
  · exact .sent sending wrote

theorem WriterStep.ofUpdate {writer : ConnectionRef} {update : GatewayWriter → GatewayWriter}
    (silent : ∀ writer : GatewayWriter, writer.Silent (update writer)) :
    WriterStep zstd server action connection
      ((server.shared.sockets.updateWriter writer update).writer connection) :=
  .silent (GatewaySockets.silent_updateWriter silent)

theorem writerStep_of_step (stepped : step zstd server action = some next)
    (connection : ConnectionRef) :
    WriterStep zstd server action connection (next.shared.sockets.writer connection) := by
  cases transition_of_step stepped with
  | @app link input shared task moved =>
      generalize running : server.app link = before at moved
      cases moved with
      | handling moved =>
          cases moved with
          | sendOpen sent => exact .ofSent sent (.open_ running)
          | _ => exact .unchanged rfl
      | exchanging moved =>
          cases moved with
          | sendRegular sent => exact .ofSent sent (.regular running)
          | sendFailed sent => exact .ofSent sent (.regular running)
          | sendClose sent => exact .ofSent sent (.close running)
          | removing removal => exact .unchanged (by rw [removal.sockets])
          | removed removal => exact .unchanged (by rw [removal.sockets])
          | _ => exact .unchanged rfl
  | @gateway serving input shared task moved =>
      generalize running : server.gateway serving = before at moved
      cases moved with
      | handling moved =>
          cases moved with
          | evict => exact .ofUpdate GatewayWriter.silent_shutdown
          | _ => exact .unchanged rfl
      | exchanging moved =>
          cases moved with
          | sendPong sent => exact .ofSent sent (.pong running)
          | removing removal => exact .unchanged (by rw [removal.sockets])
          | removed removal => exact .unchanged (by rw [removal.sockets])
          | cleanup cleaning => exact .unchanged (by rw [cleaning.sockets])
          | cleaned cleaning => exact .unchanged (by rw [cleaning.sockets])
          | _ => exact .unchanged rfl
  | resetGateway => exact .ofUpdate GatewayWriter.silent_peerReset
  | shutdown moved =>
      generalize server.shutdown = task at moved
      cases moved with
      | closeSession => exact .ofUpdate GatewayWriter.silent_shutdown
      | _ => exact .unchanged rfl
  | _ => exact .unchanged rfl

theorem frames_prefix_of_step (stepped : step zstd server action = some next)
    (connection : ConnectionRef) : (server.shared.sockets.writer connection).frames <+:
      (next.shared.sockets.writer connection).frames := by
  cases writerStep_of_step stepped connection with
  | silent silent => rw [silent.frames]
  | sent sending sent => exact GatewayWriter.frames_prefix_of_send sent

/-! ## What has been read -/

inductive ReceivedStep (server : Server) : ServerAction → Server → Prop
  | kept {action : ServerAction} {next : Server}
      (same : next.shared.sockets.received = server.shared.sockets.received) :
      ReceivedStep server action next
  | received {connection : ConnectionRef} {addr : SocketAddr} {sessionId : Uuid}
      {packet : PacketGW} {data : Option Bytes} {next : Server}
      (run : server.gateway connection = .exchanging addr sessionId .receive)
      (sockets : next.shared.sockets = server.shared.sockets.receive connection (packet, data)) :
      ReceivedStep server (.gateway connection (.frame packet data)) next

theorem receivedStep_of_step (stepped : step zstd server action = some next) :
    ReceivedStep server action next := by
  cases transition_of_step stepped with
  | @app link input shared task moved =>
      generalize server.app link = before at moved
      cases moved with
      | handling moved =>
          cases moved with
          | sendOpen sent => exact .kept sent.received
          | _ => exact .kept rfl
      | exchanging moved =>
          cases moved with
          | sendRegular sent => exact .kept sent.received
          | sendFailed sent => exact .kept sent.received
          | sendClose sent => exact .kept sent.received
          | removing removal => exact .kept (congrArg _ removal.sockets)
          | removed removal => exact .kept (congrArg _ removal.sockets)
          | _ => exact .kept rfl
  | @gateway serving input shared task moved =>
      generalize running : server.gateway serving = before at moved
      cases moved with
      | handling moved => cases moved <;> exact .kept rfl
      | exchanging moved =>
          cases moved with
          | receive => exact .received running rfl
          | sendPong sent => exact .kept sent.received
          | removing removal => exact .kept (congrArg _ removal.sockets)
          | removed removal => exact .kept (congrArg _ removal.sockets)
          | cleanup cleaning => exact .kept (congrArg _ cleaning.sockets)
          | cleaned cleaning => exact .kept (congrArg _ cleaning.sockets)
          | _ => exact .kept rfl
  | shutdown moved =>
      generalize server.shutdown = task at moved
      cases moved <;> exact .kept rfl
  | _ => exact .kept rfl

/-- Only an exchange loop at its head takes a frame. -/
theorem receive_of_frame {connection : ConnectionRef} {packet : PacketGW} {data : Option Bytes}
    (stepped : step zstd server (.gateway connection (.frame packet data)) = some next) :
    ∃ addr sessionId, server.gateway connection = .exchanging addr sessionId .receive ∧
      next = { server with
        shared := server.shared.updateSockets
          (server.shared.sockets.receive connection (packet, data))
        gateway := Function.update server.gateway connection
          (.exchanging addr sessionId (GatewayServer.dispatch packet data)) } := by
  cases transition_of_step stepped with
  | gateway moved =>
      generalize running : server.gateway connection = task at moved
      cases moved with
      | handling moved => cases moved
      | exchanging moved =>
          cases moved with
          | receive => exact ⟨_, _, rfl, rfl⟩
          | cleanup cleaning => cases cleaning
          | cleaned cleaning => cases cleaning

theorem received_of_frame {connection : ConnectionRef} {packet : PacketGW} {data : Option Bytes}
    (stepped : step zstd server (.gateway connection (.frame packet data)) = some next) :
    next.shared.sockets.received = Function.update server.shared.sockets.received connection
      (server.shared.sockets.received connection ++ [(packet, data)]) := by
  rcases receive_of_frame stepped with ⟨addr, sessionId, _, rfl⟩
  rfl

end Server

end IoGateway

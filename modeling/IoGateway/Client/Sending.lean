import IoGateway.Client.Transitions

/-! # Who writes on a gateway connection

Every `send_gw_packet` call of the client with the program point it is made at, and
the proof that a step changes the writer of a connection only by such a call.
-/

namespace IoGateway

namespace GatewayClient

variable {zstd : Zstd} {client after : GatewayClient} {ref : ConnectionRef}
  {call : SendCall} {outcome : WriteOutcome}

theorem Sent.writer (sent : client.Sent zstd ref call outcome after)
    (connection : ConnectionRef) :
    after.sockets.writer connection = client.sockets.writer connection ∨
      connection = ref ∧ (client.sockets.writer ref).send zstd call outcome =
        some (after.sockets.writer ref) := by
  rcases sent with ⟨sockets, sending, rfl⟩
  by_cases equal : connection = ref
  · exact .inr ⟨equal, GatewaySockets.send_own sending⟩
  · exact .inl (GatewaySockets.send_other sending equal)

theorem Sent.own (sent : client.Sent zstd ref call outcome after) :
    (client.sockets.writer ref).send zstd call outcome = some (after.sockets.writer ref) := by
  rcases sent with ⟨sockets, sending, rfl⟩
  exact GatewaySockets.send_own sending

theorem Sent.received (sent : client.Sent zstd ref call outcome after) :
    after.sockets.received = client.sockets.received := by
  rcases sent with ⟨sockets, sending, rfl⟩
  exact GatewaySockets.send_received sending

end GatewayClient

namespace Client

/-- The calls of `send_gw_packet`: the action that makes it, the connection whose
writer it is given, and the packet. -/
inductive Sending (client : Client) : ClientAction → ConnectionRef → SendCall → Prop
  | opened {connection : ConnectionRef} {linkId : UInt16} {link : LinkRef}
      {packetId : UInt64} {input : Input}
      (point : client.run = .onConnection connection
        (.exchanging (.connecting (.sendOpened linkId link packetId)))) :
      Sending client (.run input) connection (PacketGW.new .opened packetId linkId 0, none)
  | openFail {connection : ConnectionRef} {linkId : UInt16} {packetId : UInt64} {input : Input}
      (point : client.run = .onConnection connection
        (.exchanging (.connecting (.sendOpenFail linkId packetId)))) :
      Sending client (.run input) connection (PacketGW.new .openFail packetId linkId 0, none)
  | pong {connection : ConnectionRef} {packetId : UInt64} {input : Input}
      (point : client.run = .onConnection connection (.exchanging (.sendPong packetId))) :
      Sending client (.run input) connection (PacketGW.new .pong packetId 0 0, none)
  | regular {connection : ConnectionRef} {link : LinkRef} {linkId : UInt16} {bytes : Bytes}
      {packetId : UInt64} {input : Input}
      (point : client.app link = .running linkId connection (.sendRegular bytes packetId)) :
      Sending client (.app link input) connection
        (PacketGW.new .regular packetId linkId (UInt16.ofNat bytes.length), some bytes)
  | close {connection : ConnectionRef} {link : LinkRef} {linkId : UInt16} {packetId : UInt64}
      {input : Input}
      (point : client.app link = .running linkId connection (.sendClose packetId)) :
      Sending client (.app link input) connection (PacketGW.new .close packetId linkId 0, none)
  | ping {connection : ConnectionRef} {packetId : UInt64} {input : Input}
      (point : client.ping connection = .sendPing packetId) :
      Sending client (.ping connection input) connection (PacketGW.new .ping packetId 0 0, none)
  | command {connection : ConnectionRef} {packetId : UInt64} {input : Input}
      (point : client.command = .sendPing connection packetId) :
      Sending client (.command input) connection (PacketGW.new .ping packetId 0 0, none)

inductive WriterStep (zstd : Zstd) (client : Client) (action : ClientAction)
    (connection : ConnectionRef) (after : GatewayWriter) : Prop
  | silent (silent : (client.shared.sockets.writer connection).Silent after)
  | sent {call : SendCall} {outcome : WriteOutcome}
      (sending : client.Sending action connection call)
      (sent : (client.shared.sockets.writer connection).send zstd call outcome = some after)

variable {zstd : Zstd} {client next : Client} {action : ClientAction}
  {connection : ConnectionRef}

theorem WriterStep.unchanged {after : GatewayWriter}
    (same : after = client.shared.sockets.writer connection) :
    WriterStep zstd client action connection after :=
  .silent (same ▸ .refl _)

theorem WriterStep.ofSent {writer : ConnectionRef} {call : SendCall} {outcome : WriteOutcome}
    {after : GatewayClient} (sent : client.shared.Sent zstd writer call outcome after)
    (sending : client.Sending action writer call) :
    WriterStep zstd client action connection (after.sockets.writer connection) := by
  rcases sent.writer connection with same | ⟨rfl, wrote⟩
  · exact .unchanged same
  · exact .sent sending wrote

theorem WriterStep.ofUpdate {writer : ConnectionRef} {update : GatewayWriter → GatewayWriter}
    (silent : ∀ writer : GatewayWriter, writer.Silent (update writer)) :
    WriterStep zstd client action connection
      ((client.shared.sockets.updateWriter writer update).writer connection) :=
  .silent (GatewaySockets.silent_updateWriter silent)

theorem ExchangeStep.writer {serving : ConnectionRef} {point : GatewayExchange} {input : Input}
    (stepped : ExchangeStep zstd serving client point input next)
    (run : client.run = .onConnection serving (.exchanging point)) :
    WriterStep zstd client (.run input) connection
      (next.shared.sockets.writer connection) := by
  cases stepped with
  | connecting stepped =>
      cases stepped with
      | sendOpened sent => exact .ofSent sent (.opened run)
      | sendOpenFail sent => exact .ofSent sent (.openFail run)
      | _ => exact .unchanged rfl
  | sendPong sent => exact .ofSent sent (.pong run)
  | _ => exact .unchanged rfl

theorem RunStep.writer {input : Input} (stepped : RunStep zstd client client.run input next) :
    WriterStep zstd client (.run input) connection
      (next.shared.sockets.writer connection) := by
  generalize run : client.run = task at stepped
  cases stepped with
  | onConnection stepped =>
      cases stepped with
      | exchanging stepped => exact stepped.writer run
      | _ => exact .unchanged rfl
  | onDisconnection stepped => cases stepped <;> exact .unchanged rfl
  | _ => exact .unchanged rfl

theorem writerStep_of_step (stepped : step zstd client action = some next)
    (connection : ConnectionRef) :
    WriterStep zstd client action connection (next.shared.sockets.writer connection) := by
  cases transition_of_step stepped with
  | run moved => exact moved.writer
  | @app link input shared task moved =>
      generalize running : client.app link = before at moved
      cases moved with
      | sendRegular sent => exact .ofSent sent (.regular running)
      | sendFailed sent => exact .ofSent sent (.regular running)
      | sendClose sent => exact .ofSent sent (.close running)
      | _ => exact .unchanged rfl
  | @ping writer input shared task moved =>
      generalize running : client.ping writer = before at moved
      cases moved with
      | sendPing sent => exact .ofSent sent (.ping running)
      | sendFailed sent => exact .ofSent sent (.ping running)
      | _ => exact .unchanged rfl
  | command moved =>
      generalize running : client.command = before at moved
      cases moved with
      | pingId => exact .unchanged rfl
      | sendPing sent => exact .ofSent sent (.command running)
  | resetGateway => exact .ofUpdate GatewayWriter.silent_peerReset
  | shutdown moved =>
      generalize client.shutdown = task at moved
      cases moved with
      | takeWriter => exact .ofUpdate GatewayWriter.silent_shutdown
      | _ => exact .unchanged rfl
  | _ => exact .unchanged rfl

/-! ## What has been read -/

inductive ReceivedStep (client : Client) : ClientAction → Client → Prop
  | kept {action : ClientAction} {next : Client}
      (same : next.shared.sockets.received = client.shared.sockets.received) :
      ReceivedStep client action next
  | received {connection : ConnectionRef} {packet : PacketGW} {data : Option Bytes}
      {next : Client} (run : client.run = .onConnection connection (.exchanging .receive))
      (sockets : next.shared.sockets = client.shared.sockets.receive connection (packet, data)) :
      ReceivedStep client (.run (.frame packet data)) next

theorem ExchangeStep.received {serving : ConnectionRef} {point : GatewayExchange}
    {input : Input} (stepped : ExchangeStep zstd serving client point input next)
    (run : client.run = .onConnection serving (.exchanging point)) :
    ReceivedStep client (.run input) next := by
  cases stepped with
  | receive => exact .received run rfl
  | denied => exact .received run rfl
  | connecting stepped =>
      cases stepped with
      | sendOpened sent => exact .kept sent.received
      | sendOpenFail sent => exact .kept sent.received
      | _ => exact .kept rfl
  | sendPong sent => exact .kept sent.received
  | _ => exact .kept rfl

theorem receivedStep_of_step (stepped : step zstd client action = some next) :
    ReceivedStep client action next := by
  cases transition_of_step stepped with
  | run moved =>
      generalize run : client.run = task at moved
      cases moved with
      | onConnection moved =>
          cases moved with
          | exchanging moved => exact moved.received run
          | _ => exact .kept rfl
      | onDisconnection moved => cases moved <;> exact .kept rfl
      | _ => exact .kept rfl
  | @app link input shared task moved =>
      generalize client.app link = before at moved
      cases moved with
      | sendRegular sent => exact .kept sent.received
      | sendFailed sent => exact .kept sent.received
      | sendClose sent => exact .kept sent.received
      | _ => exact .kept rfl
  | @ping writer input shared task moved =>
      generalize client.ping writer = before at moved
      cases moved with
      | sendPing sent => exact .kept sent.received
      | sendFailed sent => exact .kept sent.received
      | _ => exact .kept rfl
  | command moved =>
      generalize client.command = before at moved
      cases moved with
      | pingId => exact .kept rfl
      | sendPing sent => exact .kept sent.received
  | shutdown moved =>
      generalize client.shutdown = task at moved
      cases moved <;> exact .kept rfl
  | _ => exact .kept rfl

theorem sockets_of_frame {packet : PacketGW} {data : Option Bytes}
    (stepped : step zstd client (.run (.frame packet data)) = some next) :
    ∃ connection, client.run = .onConnection connection (.exchanging .receive) ∧
      next.shared.sockets = client.shared.sockets.receive connection (packet, data) := by
  cases transition_of_step stepped with
  | run moved =>
      generalize run : client.run = task at moved
      cases moved with
      | onConnection moved =>
          cases moved with
          | exchanging moved =>
              cases moved with
              | receive => exact ⟨_, rfl, rfl⟩
              | denied => exact ⟨_, rfl, rfl⟩
              | connecting moved => cases moved

theorem received_prefix_of_step (stepped : step zstd client action = some next)
    (connection : ConnectionRef) :
    client.shared.sockets.received connection <+: next.shared.sockets.received connection := by
  cases receivedStep_of_step stepped with
  | kept same => rw [same]
  | @received serving packet data _ run sockets =>
      rw [sockets]
      by_cases equal : connection = serving
      · subst equal
        simp [GatewaySockets.receive]
      · simp [GatewaySockets.receive, equal]

end Client

end IoGateway

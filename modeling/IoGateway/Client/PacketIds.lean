import IoGateway.Client.Separation
import IoGateway.PacketIds

/-! # Packet identifiers of the client

The tasks of the client as the holders of tickets: between the call of `next_packet_id`
and the end of `send_gw_packet` a task holds the identifier it has drawn.
-/

namespace IoGateway

inductive ClientHolder
  | run
  | app (link : LinkRef)
  | ping (connection : ConnectionRef)
  | command
deriving DecidableEq

def RunTask.packetId? : RunTask → Option UInt64
  | .onConnection _ (.exchanging (.sendPong packetId)) => some packetId
  | .onConnection _ (.exchanging (.connecting (.sendOpened _ _ packetId))) => some packetId
  | .onConnection _ (.exchanging (.connecting (.sendOpenFail _ packetId))) => some packetId
  | _ => none

def ClientAppTask.packetId? : ClientAppTask → Option UInt64
  | .running _ _ (.sendRegular _ packetId) => some packetId
  | .running _ _ (.sendClose packetId) => some packetId
  | _ => none

def PingTask.packetId? : PingTask → Option UInt64
  | .sendPing packetId => some packetId
  | _ => none

def PingCommand.packetId? : PingCommand → Option UInt64
  | .sendPing _ packetId => some packetId
  | _ => none

namespace Client

def held (client : Client) (holder : ClientHolder) : Option Nat :=
  (match holder with
  | .run => client.run.packetId?
  | .app link => (client.app link).packetId?
  | .ping connection => (client.ping connection).packetId?
  | .command => client.command.packetId?).map UInt64.toNat

def tickets (client : Client) : Tickets ClientHolder ConnectionRef :=
  ticketsOf client.shared.base client.shared.sockets client.held

variable {zstd : Zstd} {client next : Client} {input : Input} {holder : ClientHolder}

theorem held_run (app : next.app = client.app) (ping : next.ping = client.ping)
    (command : next.command = client.command) : next.held =
      Function.update client.held .run (next.run.packetId?.map UInt64.toNat) := by
  funext holder
  cases holder <;> simp [held, app, ping, command]

theorem held_app {link : LinkRef} {shared : GatewayClient} {task : ClientAppTask} :
    ({ client with shared := shared, app := Function.update client.app link task } : Client).held =
      Function.update client.held (.app link) (task.packetId?.map UInt64.toNat) := by
  funext holder
  cases holder with
  | app other =>
      by_cases own : other = link
      · subst own
        simp [held]
      · simp [held, own]
  | _ => rfl

theorem held_ping {connection : ConnectionRef} {shared : GatewayClient} {task : PingTask} :
    ({ client with
      shared := shared, ping := Function.update client.ping connection task } : Client).held =
      Function.update client.held (.ping connection) (task.packetId?.map UInt64.toNat) := by
  funext holder
  cases holder with
  | ping other =>
      by_cases own : other = connection
      · subst own
        simp [held]
      · simp [held, own]
  | _ => rfl

theorem held_command {shared : GatewayClient} {command : PingCommand} :
    ({ client with shared := shared, command := command } : Client).held =
      Function.update client.held .command (command.packetId?.map UInt64.toNat) := by
  funext holder
  cases holder <;> rfl

theorem tickets_sent {writer : ConnectionRef} {call : SendCall} {outcome : WriteOutcome}
    {shared : GatewayClient} (sent : client.shared.Sent zstd writer call outcome shared)
    (same : next.shared = shared)
    (drawn : client.held holder = some call.1.packetId.toNat)
    (lost : next.held = Function.update client.held holder none) :
    client.tickets.Step next.tickets := by
  subst same
  have base := sent.base
  rcases sent with ⟨sockets, sending, moved⟩
  have after : next.shared.sockets = sockets := by rw [moved]; rfl
  exact ticketsOf_sent (after ▸ sending) base drawn lost

theorem ConnectStep.tickets {connection : ConnectionRef} {point : ConnectClient}
    (stepped : ConnectStep zstd connection client point input next)
    (run : client.run = .onConnection connection (.exchanging (.connecting point)))
    (left : client.shared.base.PacketIdsLeft) : client.tickets.Step next.tickets := by
  have holding : client.held .run = (RunTask.onConnection connection
      (.exchanging (.connecting point))).packetId?.map UInt64.toNat := by
    rw [← run]
    rfl
  cases stepped with
  | openedId => exact ticketsOf_drawn left rfl (held_run rfl rfl rfl) rfl
  | openFailId => exact ticketsOf_drawn left rfl (held_run rfl rfl rfl) rfl
  | sendOpened sent => exact tickets_sent sent rfl holding (held_run rfl rfl rfl)
  | sendOpenFail sent => exact tickets_sent sent rfl holding (held_run rfl rfl rfl)
  | @spawn linkId link =>
      refine .quiet (Nat.le_refl _) ?_ rfl
      intro holder
      cases holder with
      | run => exact .inr rfl
      | app other =>
          by_cases own : other = link
          · subst own
            exact .inr (by simp [Client.tickets, ticketsOf, held, ClientAppTask.packetId?])
          · exact .inl (by simp [Client.tickets, ticketsOf, held, own])
      | ping => exact .inl rfl
      | command => exact .inl rfl
  | _ => exact ticketsOf_quiet (Nat.le_refl _) (held_run rfl rfl rfl) rfl

/-- A frame is read before an identifier is drawn for the answer to it. -/
theorem packetId_of_dispatch {packet : PacketGW} {data : Option Bytes} {point : GatewayExchange}
    (connection : ConnectionRef)
    (dispatched : GatewayClient.dispatch packet data = some point) :
    (RunTask.onConnection connection (.exchanging point)).packetId?.map UInt64.toNat = none := by
  unfold GatewayClient.dispatch at dispatched
  cases type : packet.packetType <;> simp only [type] at dispatched
  case regular => cases data <;> cases dispatched <;> rfl
  case gwDeny => cases dispatched
  all_goals
    cases dispatched
    rfl

theorem RunStep.tickets (stepped : RunStep zstd client client.run input next)
    (left : client.shared.base.PacketIdsLeft) : client.tickets.Step next.tickets := by
  have drawn : client.shared.base.packetIdCounter.toNat ≤
      client.shared.base.nextPacketId.2.packetIdCounter.toNat := by
    rw [(Gateway.toNat_nextPacketId left).1]
    exact Nat.le_succ _
  generalize run : client.run = task at stepped
  cases stepped with
  | @onConnection connection point input next stepped =>
      cases stepped with
      | responseId => exact ticketsOf_quiet drawn (held_run rfl rfl rfl) rfl
      | startPing =>
          refine .quiet (Nat.le_refl _) ?_ rfl
          intro holder
          cases holder with
          | run => exact .inr rfl
          | app => exact .inl rfl
          | ping other =>
              by_cases own : other = connection
              · subst own
                exact .inr (by simp [Client.tickets, ticketsOf, held, PingTask.packetId?])
              · exact .inl (by simp [Client.tickets, ticketsOf, held, own])
          | command => exact .inl rfl
      | exchanging stepped =>
          cases stepped with
          | pongId => exact ticketsOf_drawn left rfl (held_run rfl rfl rfl) rfl
          | sendPong sent =>
              refine tickets_sent sent rfl ?_ (held_run rfl rfl rfl)
              simp [held, run, RunTask.packetId?, PacketGW.new]
          | connecting stepped => exact stepped.tickets run left
          | @receive packet data point dispatched =>
              have idle := packetId_of_dispatch connection dispatched
              refine ticketsOf_quiet (Nat.le_refl _)
                ((held_run ?_ ?_ ?_).trans (congrArg _ idle)) rfl
              · rfl
              · rfl
              · rfl
          | _ => exact ticketsOf_quiet (Nat.le_refl _) (held_run rfl rfl rfl) rfl
      | _ => exact ticketsOf_quiet (Nat.le_refl _) (held_run rfl rfl rfl) rfl
  | onDisconnection stepped =>
      cases stepped <;> exact ticketsOf_quiet (Nat.le_refl _) (held_run rfl rfl rfl) rfl
  | _ => exact ticketsOf_quiet (Nat.le_refl _) (held_run rfl rfl rfl) rfl

theorem ticketStep_of_step {action : ClientAction} (left : client.shared.base.PacketIdsLeft)
    (stepped : step zstd client action = some next) : client.tickets.Step next.tickets := by
  cases transition_of_step stepped with
  | run moved => exact moved.tickets left
  | @app link input shared task moved =>
      generalize running : client.app link = before at moved
      cases moved with
      | regularId => exact ticketsOf_drawn left rfl held_app rfl
      | sendRegular sent =>
          refine tickets_sent sent rfl ?_ held_app
          simp [held, running, ClientAppTask.packetId?, PacketGW.new]
      | sendFailed sent =>
          refine tickets_sent sent rfl ?_ held_app
          simp [held, running, ClientAppTask.packetId?, PacketGW.new]
      | closeId => exact ticketsOf_drawn left rfl held_app rfl
      | sendClose sent =>
          refine tickets_sent sent rfl ?_ held_app
          simp [held, running, ClientAppTask.packetId?, PacketGW.new]
      | _ => exact ticketsOf_quiet (Nat.le_refl _) held_app rfl
  | @ping connection input shared task moved =>
      generalize running : client.ping connection = before at moved
      cases moved with
      | tick => exact ticketsOf_quiet (Nat.le_refl _) held_ping rfl
      | pingId => exact ticketsOf_drawn left rfl held_ping rfl
      | sendPing sent =>
          refine tickets_sent sent rfl ?_ held_ping
          simp [held, running, PingTask.packetId?, PacketGW.new]
      | sendFailed sent =>
          refine tickets_sent sent rfl ?_ held_ping
          simp [held, running, PingTask.packetId?, PacketGW.new]
  | beginCommand => exact ticketsOf_quiet (Nat.le_refl _) held_command rfl
  | command moved =>
      generalize running : client.command = before at moved
      cases moved with
      | pingId => exact ticketsOf_drawn left rfl held_command rfl
      | sendPing sent =>
          refine tickets_sent sent rfl ?_ held_command
          simp [held, running, PingCommand.packetId?, PacketGW.new]
  | resetGateway =>
      exact .quiet (Nat.le_refl _) (fun _ => .inl rfl)
        (packetIds_of_silent fun _ => GatewaySockets.silent_updateWriter
          GatewayWriter.silent_peerReset)
  | beginShutdown => exact .quiet (Nat.le_refl _) (fun _ => .inl rfl) rfl
  | shutdown moved =>
      generalize client.shutdown = task at moved
      cases moved with
      | takeWriter =>
          exact .quiet (Nat.le_refl _) (fun _ => .inl rfl)
            (packetIds_of_silent fun _ => GatewaySockets.silent_updateWriter
              GatewayWriter.silent_shutdown)
      | _ => exact .quiet (Nat.le_refl _) (fun _ => .inl rfl) rfl

/-- Fewer packet identifiers have been drawn than there are. -/
def PacketIdsLeft (client : Client) (_ : ClientAction) : Prop :=
  client.shared.base.PacketIdsLeft

def UniqueIds (client : Client) : Prop := client.tickets.Unique

theorem uniqueIds_new : UniqueIds new := by
  have fresh : new.tickets = Tickets.new := by
    have idle : new.held = fun _ => none := by
      funext holder
      cases holder <;> rfl
    rw [tickets, idle]
    rfl
  rw [UniqueIds, fresh]
  exact Tickets.unique_new

theorem uniqueIds_of_reachable
    (reachable : (system zstd).ReachableUnder PacketIdsLeft client) : client.UniqueIds :=
  reachable.invariant uniqueIds_new fun _ _ _ _ unique left stepped =>
    Tickets.Unique.step unique (ticketStep_of_step left stepped)

/-- As long as the 64-bit counter of packet identifiers has not come round: whatever the
interleaving of the exchange loop, the forwarding loops, the ping loops and the commands,
all frames that the client has sent on all of its connections have different identifiers,
and none has an identifier that a task is about to send under. -/
theorem packet_ids_unique (zstd : Zstd) (client : Client)
    (reachable : (system zstd).ReachableUnder PacketIdsLeft client) :
    let ids := packetIds client.shared.sockets
    (∀ connection, (ids connection).Nodup ∧ 0 ∉ ids connection) ∧
      (∀ connection other, connection ≠ other → (ids connection).Disjoint (ids other)) ∧
      ∀ holder packetId, client.held holder = some packetId →
        (∀ connection, packetId ∉ ids connection) ∧
          ∀ other, client.held other = some packetId → holder = other := by
  have unique : client.tickets.Unique := uniqueIds_of_reachable reachable
  refine ⟨fun connection => ⟨unique.once connection, ?_⟩, unique.apart, ?_⟩
  · intro member
    exact absurd (unique.issued connection 0 member).1 (Nat.lt_irrefl 0)
  · intro holder packetId held
    exact ⟨unique.unused holder packetId held, fun other too => unique.alone _ _ _ held too⟩

theorem packet_ids_unique_answers :
    ∃ client : Client, packetIds client.shared.sockets 0 = [2, 4, 3] ∧
      (packetIds client.shared.sockets 0).Nodup := by
  have executed : ((system .runLength).runChecked
      (fun client _ => client.shared.base.PacketIdsLeft) .new
      (.run .go :: connect ++ openLink 1 ++
        [.ping 0 .go, .ping 0 .go, .run (.frame (PacketGW.new .ping 2 0 0) none), .run .go,
          .run (.write .ok), .ping 0 (.write .ok)])).any
      (fun client => packetIds client.shared.sockets 0 = [2, 4, 3]) = true := by decide +kernel
  rcases TransitionSystem.exists_reaches_of_runChecked executed with ⟨client, reaches, found⟩
  have reachable := reaches.mono fun _ _ passed => of_decide_eq_true passed
  exact ⟨client, of_decide_eq_true found,
    ((packet_ids_unique .runLength client reachable).1 0).1⟩

end Client

end IoGateway

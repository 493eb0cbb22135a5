import IoGateway.Channel
import IoGateway.Client.Receiver
import IoGateway.Client.Sender
import IoGateway.Server.Receiver
import IoGateway.Server.Sender

/-! # The server and its clients

A gateway connection of the server is the only one of its client. Each side reads, as
bytes, what the other has written to its writer; the steps of all tasks on all sides
interleave.
-/

namespace IoGateway

structure Network where
  server : Server
  client : ConnectionRef → Client
  /-- How many bytes of each connection the server has read, and its client. -/
  serverRead : ConnectionRef → Nat
  clientRead : ConnectionRef → Nat

/-- A step of one side. What it reads from a connection comes from the other side; the
bytes are the contents of the pooled buffer it is read into. -/
inductive NetworkAction
  | server (action : ServerAction)
  | client (connection : ConnectionRef) (action : ClientAction)
  | serverReceive (connection : ConnectionRef) (pooled : Bytes)
  | clientReceive (connection : ConnectionRef) (pooled : Bytes)
deriving DecidableEq

def ServerAction.receives : ServerAction → Bool
  | .gateway _ (.frame _ _) => true
  | _ => false

def ClientAction.receives : ClientAction → Bool
  | .run (.frame _ _) => true
  | _ => false

namespace Network

def new : Network where
  server := .new
  client := fun _ => .new
  serverRead := fun _ => 0
  clientRead := fun _ => 0

def step (zstd : Zstd) (network : Network) : NetworkAction → Option Network
  | .server action =>
      if action.receives then none
      else (network.server.step zstd action).map fun server => { network with server := server }
  | .client connection action =>
      if action.receives then none
      else ((network.client connection).step zstd action).map fun client =>
        { network with client := Function.update network.client connection client }
  | .serverReceive connection pooled =>
      (receiveFrame zstd ((network.client connection).shared.sockets.writer 0)
        (network.serverRead connection) pooled).bind fun (frame, read) =>
          (network.server.step zstd (.gateway connection (.frame frame.1 frame.2))).map
            fun server => { network with
              server := server
              serverRead := Function.update network.serverRead connection read }
  | .clientReceive connection pooled =>
      (receiveFrame zstd (network.server.shared.sockets.writer connection)
        (network.clientRead connection) pooled).bind fun (frame, read) =>
          ((network.client connection).step zstd (.run (.frame frame.1 frame.2))).map
            fun client => { network with
              client := Function.update network.client connection client
              clientRead := Function.update network.clientRead connection read }

def system (zstd : Zstd) : TransitionSystem Network NetworkAction where
  start := .new
  step := step zstd

end Network

/-! ## The runs in question -/

def Server.WritesStopped (server : Server) : Prop :=
  (∀ connection < server.gatewayCount,
    (server.shared.sockets.writer connection).half.resumed = false) ∧
  ∀ link < server.appCount, (server.shared.base.link link).writer.resumed = false

instance (server : Server) : Decidable server.WritesStopped :=
  inferInstanceAs (Decidable (_ ∧ _))

def Client.WritesStopped (client : Client) : Prop :=
  (client.shared.sockets.writer 0).half.resumed = false ∧
  ∀ link < client.linkCount, (client.shared.base.link link).writer.resumed = false

instance (client : Client) : Decidable client.WritesStopped :=
  inferInstanceAs (Decidable (_ ∧ _))

instance (client : Client) : Decidable client.SingleConnection :=
  inferInstanceAs (Decidable (_ ≤ _))

namespace Network

def client? : NetworkAction → Option ConnectionRef
  | .client connection _ => some connection
  | .clientReceive connection _ => some connection
  | _ => none

def LinkIdsLeft (network : Network) : NetworkAction → Prop
  | .server action => network.server.LinkIdsLeft action
  | _ => True

/-- The steps of a run without reconnection: an identifier is left when one is drawn, and
once a write to a socket has failed the socket accepts nothing more. -/
structure Permitted (zstd : Zstd) (network : Network) (action : NetworkAction) : Prop where
  left : network.LinkIdsLeft action
  stopped : ∀ next ∈ network.step zstd action, next.server.WritesStopped ∧
    ∀ connection ∈ client? action, (next.client connection).WritesStopped ∧
      (next.client connection).SingleConnection

instance (network : Network) (action : NetworkAction) : Decidable (network.LinkIdsLeft action) :=
  match action with
  | .server action => inferInstanceAs (Decidable (network.server.LinkIdsLeft action))
  | .client _ _ => .isTrue trivial
  | .serverReceive _ _ => .isTrue trivial
  | .clientReceive _ _ => .isTrue trivial

instance (zstd : Zstd) (network : Network) (action : NetworkAction) :
    Decidable (network.Permitted zstd action) :=
  decidable_of_iff (network.LinkIdsLeft action ∧ ∀ next ∈ network.step zstd action,
      next.server.WritesStopped ∧ ∀ connection ∈ client? action,
        (next.client connection).WritesStopped ∧ (next.client connection).SingleConnection)
    ⟨fun holds => ⟨holds.1, holds.2⟩, fun permitted => ⟨permitted.left, permitted.stopped⟩⟩

/-! ## What holds in such a run -/

variable {zstd : Zstd} {network next : Network} {connection : ConnectionRef}

structure Sound (zstd : Zstd) (network : Network) : Prop where
  server : (Server.system zstd).ReachableUnder Server.LinkIdsLeft network.server
  client : ∀ connection, (Client.system zstd).Reachable (network.client connection)
  single : ∀ connection, (network.client connection).SingleConnection
  linked : ∀ connection, (network.client connection).Linked
  serverSenders : ∃ senders, network.server.Represents senders ∧
    senders.Faithful zstd serverSignals
  clientSenders : ∀ connection, ∃ senders, (network.client connection).Represents senders ∧
    senders.Faithful zstd clientSignals
  toServer : ∀ connection, Delivered zstd ((network.client connection).shared.sockets.writer 0)
    (network.serverRead connection) (network.server.shared.sockets.received connection)
  toClient : ∀ connection, Delivered zstd (network.server.shared.sockets.writer connection)
    (network.clientRead connection) ((network.client connection).shared.sockets.received 0)
  serverReceiving : network.server.Receiving
  clientReceiving : ∀ connection, (network.client connection).Receiving

theorem sound_new (zstd : Zstd) : new.Sound zstd where
  server := .refl
  client := fun _ => .refl
  single := fun _ => Nat.zero_le _
  linked := fun _ => Client.linked_new
  serverSenders := ⟨.new, Server.represents_new, Senders.faithful_new zstd serverSignals⟩
  clientSenders := fun _ => ⟨.new, Client.represents_new, Senders.faithful_new zstd clientSignals⟩
  toServer := fun _ => delivered_nil zstd .new
  toClient := fun _ => delivered_nil zstd .new
  serverReceiving := Server.receiving_new
  clientReceiving := fun _ => Client.receiving_new

/-- The server has read a front of what the client has sent. -/
theorem heard_of_toServer {server : Server} {read : Nat}
    (delivered : Delivered zstd ((network.client connection).shared.sockets.writer 0) read
      (server.shared.sockets.received connection)) :
    server.shared.heard connection <+:
      ((network.client connection).shared.sockets.writer 0).sent :=
  delivered.frames

theorem heard_of_toClient {client : Client} {read : Nat}
    (delivered : Delivered zstd (network.server.shared.sockets.writer connection) read
      (client.shared.sockets.received 0)) :
    client.heard <+: (network.server.shared.sockets.writer connection).sent :=
  delivered.frames

theorem Sound.server_step (sound : network.Sound zstd) {action : ServerAction}
    {server : Server} {read : ConnectionRef → Nat} (left : network.server.LinkIdsLeft action)
    (stopped : server.WritesStopped) (stepped : network.server.step zstd action = some server)
    (toServer : ∀ connection, Delivered zstd
      ((network.client connection).shared.sockets.writer 0) (read connection)
      (server.shared.sockets.received connection)) :
    ({ network with server := server, serverRead := read } : Network).Sound zstd := by
  have reachable := sound.server
  have slots := Server.slotsInOrder_of_reachable reachable.always
  have counts := Server.counts_le_of_step stepped
  have introduced : ∀ connection linkId,
      Introduced .opened linkId (server.shared.heard connection) := by
    intro connection linkId
    rcases sound.clientSenders connection with ⟨senders, represents, faithful⟩
    have sent := faithful.introduced 0 linkId
    rw [represents.writer] at sent
    exact sent.shorten (heard_of_toServer (toServer connection))
  rcases sound.serverSenders with ⟨senders, represents, faithful⟩
  rcases represents.step (Server.identified_of_reachable reachable)
    (Server.numbered_of_reachable reachable) (Server.counted_of_reachable reachable.always) slots
    (Server.unread_of_reachable reachable.always) (Server.bound_of_reachable reachable.always) left
    (fun connection below => stopped.1 connection (Nat.lt_of_lt_of_le below counts.2)) stepped
    with ⟨after, moved, represents⟩
  exact {
    server := .step reachable left stepped
    client := sound.client
    single := sound.single
    linked := sound.linked
    serverSenders := ⟨after, represents, faithful.step moved⟩
    clientSenders := sound.clientSenders
    toServer := toServer
    toClient := fun connection =>
      (sound.toClient connection).grow (Server.frames_prefix_of_step stepped connection)
    serverReceiving := sound.serverReceiving.step slots
      (Server.registered_of_reachable reachable.always) introduced
      (fun link below => stopped.2 link (Nat.lt_of_lt_of_le below counts.1)) stepped
    clientReceiving := sound.clientReceiving }

theorem Sound.client_step (sound : network.Sound zstd) {action : ClientAction}
    {client : Client} {read : ConnectionRef → Nat} (stopped : client.WritesStopped)
    (single : client.SingleConnection)
    (stepped : (network.client connection).step zstd action = some client)
    (others : ∀ other, other ≠ connection → read other = network.clientRead other)
    (toClient : Delivered zstd (network.server.shared.sockets.writer connection)
      (read connection) (client.shared.sockets.received 0)) :
    ({ network with
      client := Function.update network.client connection client
      clientRead := read } : Network).Sound zstd := by
  have reachable := sound.client connection
  have epochs := Client.epochs_of_reachable reachable
  have before := sound.single connection
  rcases sound.serverSenders with ⟨serverSenders, serverRepresents, serverFaithful⟩
  have heard := heard_of_toClient toClient
  have introduced : ∀ linkId, Introduced .open_ linkId client.heard := by
    intro linkId
    have sent := serverFaithful.introduced connection linkId
    rw [serverRepresents.writer] at sent
    exact sent.shorten heard
  have positive : ∀ linkId, Has .open_ linkId (network.client connection).heard → linkId ≠ 0 := by
    intro linkId opened zero
    have unlinked := serverFaithful.unlinked connection
    rw [serverRepresents.writer] at unlinked
    exact unlinked (zero ▸ opened.mono (heard_of_toClient (sound.toClient connection)))
  rcases sound.clientSenders connection with ⟨senders, represents, faithful⟩
  rcases represents.step (sound.linked connection) epochs
    (Client.writerHeld_of_reachable reachable) (Client.established_of_reachable reachable) before
    introduced positive stopped.1 stepped with ⟨after, moved, represents⟩
  have kept : ∀ {P : ConnectionRef → Client → Prop}, P connection client →
      (∀ other, P other (network.client other)) → ∀ other,
        P other (Function.update network.client connection client other) := by
    intro P own others other
    by_cases equal : other = connection
    · rw [equal, Function.update_self]
      exact own
    · rw [Function.update_of_ne equal]
      exact others other
  exact {
    server := sound.server
    client := @kept (fun _ client => (Client.system zstd).Reachable client)
      (.step reachable trivial stepped) sound.client
    single := @kept (fun _ client => client.SingleConnection) single sound.single
    linked := @kept (fun _ client => client.Linked)
      ((sound.linked connection).step epochs before introduced stepped) sound.linked
    serverSenders := sound.serverSenders
    clientSenders := @kept (fun _ client => ∃ senders, client.Represents senders ∧
        senders.Faithful zstd clientSignals)
      ⟨after, represents, faithful.step moved⟩ sound.clientSenders
    toServer := @kept (fun other client => Delivered zstd (client.shared.sockets.writer 0)
        (network.serverRead other) (network.server.shared.sockets.received other))
      ((sound.toServer connection).grow (Client.frames_prefix_of_step stepped 0)) sound.toServer
    toClient := by
      intro other
      by_cases equal : other = connection
      · subst equal
        simpa using toClient
      · simpa [equal, others other equal] using sound.toClient other
    serverReceiving := sound.serverReceiving
    clientReceiving := @kept (fun _ client => client.Receiving)
      ((sound.clientReceiving connection).step (sound.linked connection)
        (Client.origins_of_reachable reachable) epochs before introduced
        (fun link below => stopped.2 link
          (Nat.lt_of_lt_of_le below (Client.linkCount_le_of_step stepped))) stepped)
      sound.clientReceiving }

theorem received_of_not_receives {server after : Server} {action : ServerAction}
    (silent : ¬ action.receives = true) (stepped : server.step zstd action = some after) :
    after.shared.sockets.received = server.shared.sockets.received := by
  cases Server.receivedStep_of_step stepped with
  | kept same => exact same
  | received => exact absurd rfl silent

theorem clientReceived_of_not_receives {client after : Client} {action : ClientAction}
    (silent : ¬ action.receives = true) (stepped : client.step zstd action = some after) :
    after.shared.sockets.received = client.shared.sockets.received := by
  cases Client.receivedStep_of_step stepped with
  | kept same => exact same
  | received => exact absurd rfl silent

theorem Sound.step (lawful : zstd.Lawful) (sound : network.Sound zstd) {action : NetworkAction}
    (permitted : network.Permitted zstd action) (stepped : network.step zstd action = some next) :
    next.Sound zstd := by
  have stopped := permitted.stopped next stepped
  cases action with
  | server action =>
      simp only [Network.step] at stepped
      split at stepped
      · cases stepped
      · rename_i silent
        rcases Option.map_eq_some_iff.mp stepped with ⟨server, moved, rfl⟩
        refine sound.server_step permitted.left stopped.1 moved ?_
        rw [received_of_not_receives silent moved]
        exact sound.toServer
  | client connection action =>
      simp only [Network.step] at stepped
      split at stepped
      · cases stepped
      · rename_i silent
        rcases Option.map_eq_some_iff.mp stepped with ⟨client, moved, rfl⟩
        have own := stopped.2 connection rfl
        simp only [Function.update_self] at own
        refine sound.client_step own.1 own.2 moved (fun _ _ => rfl) ?_
        rw [clientReceived_of_not_receives silent moved]
        exact sound.toClient connection
  | serverReceive connection pooled =>
      rcases Option.bind_eq_some_iff.mp stepped with ⟨⟨⟨packet, data⟩, read⟩, received, stepped⟩
      rcases Option.map_eq_some_iff.mp stepped with ⟨server, moved, rfl⟩
      have left : network.server.LinkIdsLeft (.gateway connection (.frame packet data)) :=
        fun draws => by cases draws
      refine sound.server_step left stopped.1 moved fun other => ?_
      rcases sound.clientSenders connection with ⟨senders, represents, faithful⟩
      have framed := faithful.framed 0
      rw [represents.writer] at framed
      by_cases equal : other = connection
      · subst equal
        rw [Function.update_self, Server.received_of_frame moved, Function.update_self]
        exact (sound.toServer other).receive lawful framed received
      · rw [Function.update_of_ne equal, Server.received_of_frame moved,
          Function.update_of_ne equal]
        exact sound.toServer other
  | clientReceive connection pooled =>
      rcases Option.bind_eq_some_iff.mp stepped with ⟨⟨⟨packet, data⟩, read⟩, received, stepped⟩
      rcases Option.map_eq_some_iff.mp stepped with ⟨client, moved, rfl⟩
      have own := stopped.2 connection rfl
      simp only [Function.update_self] at own
      refine sound.client_step own.1 own.2 moved
        (fun _ different => Function.update_of_ne different _ _) ?_
      rcases sound.serverSenders with ⟨senders, represents, faithful⟩
      have framed := faithful.framed connection
      rw [represents.writer] at framed
      rw [Function.update_self, Client.received_of_frame (sound.single connection)
        (Client.epochs_of_reachable (sound.client connection)) moved]
      exact (sound.toClient connection).receive lawful framed received

inductive SideStep (zstd : Zstd) (network : Network) : Network → Prop
  | server {action : ServerAction} {server : Server} {read : ConnectionRef → Nat}
      (stepped : network.server.step zstd action = some server) :
      SideStep zstd network { network with server := server, serverRead := read }
  | client {connection : ConnectionRef} {action : ClientAction} {client : Client}
      {read : ConnectionRef → Nat}
      (stepped : (network.client connection).step zstd action = some client) :
      SideStep zstd network { network with
        client := Function.update network.client connection client
        clientRead := read }

theorem sideStep_of_step {action : NetworkAction} (stepped : network.step zstd action = some next) :
    SideStep zstd network next := by
  cases action with
  | server action =>
      simp only [Network.step] at stepped
      split at stepped
      · cases stepped
      · rcases Option.map_eq_some_iff.mp stepped with ⟨server, moved, rfl⟩
        exact .server moved
  | client connection action =>
      simp only [Network.step] at stepped
      split at stepped
      · cases stepped
      · rcases Option.map_eq_some_iff.mp stepped with ⟨client, moved, rfl⟩
        exact .client moved
  | serverReceive connection pooled =>
      rcases Option.bind_eq_some_iff.mp stepped with ⟨⟨frame, read⟩, received, stepped⟩
      rcases Option.map_eq_some_iff.mp stepped with ⟨server, moved, rfl⟩
      exact .server moved
  | clientReceive connection pooled =>
      rcases Option.bind_eq_some_iff.mp stepped with ⟨⟨frame, read⟩, received, stepped⟩
      rcases Option.map_eq_some_iff.mp stepped with ⟨client, moved, rfl⟩
      exact .client moved

theorem sound_of_reachable (lawful : zstd.Lawful)
    (reachable : (system zstd).ReachableUnder (Permitted zstd) network) : network.Sound zstd :=
  reachable.invariant (sound_new zstd) fun _ _ _ _ sound permitted stepped =>
    sound.step lawful permitted stepped

end Network

end IoGateway

import IoGateway.Client.Settling
import IoGateway.Conservation
import IoGateway.Server.Settling

/-! # The network left alone

Between two things that come from outside the network comes to rest: each step of a task,
and each frame that is read, leaves less to do. At rest nothing is held, in flight or
unsent: what has been read at one end of an open link has been written at the other.
-/

namespace IoGateway

namespace Network

variable {zstd : Zstd} {network next : Network} {action : NetworkAction}
  {connection : ConnectionRef} {ref link : LinkRef}

/-- The steps between two things that come from outside, on the connections that the
server has accepted. -/
def goesOn (network : Network) : NetworkAction → Bool
  | .server action => action.goesOn
  | .client connection action =>
      connection < network.server.gatewayCount && (network.client connection).goesOn action
  | .serverReceive _ _ => true
  | .clientReceive connection _ => connection < network.server.gatewayCount

def LeftAlone (zstd : Zstd) (network : Network) (action : NetworkAction) : Prop :=
  network.Permitted zstd action ∧ network.goesOn action = true

instance (zstd : Zstd) (network : Network) (action : NetworkAction) :
    Decidable (network.LeftAlone zstd action) :=
  inferInstanceAs (Decidable (_ ∧ _))

/-! ## Work -/

def clientRank (frame : Frame) : Nat := 16 * frame.packetType.clientWork + 1

def serverRank (frame : Frame) : Nat := 4 * frame.packetType.serverWork + 1

theorem clientRank_le (frame : Frame) : clientRank frame ≤ 97 := by
  unfold clientRank PacketType.clientWork
  split <;> simp

theorem clientRank_pong (frame : Frame) (pong : frame.packetType = .pong) :
    clientRank frame ≤ 1 := by
  simp [clientRank, pong, PacketType.clientWork]

theorem serverRank_le (frame : Frame) : serverRank frame ≤ 13 := by
  unfold serverRank PacketType.serverWork
  split <;> simp

def sideWork (network : Network) (connection : ConnectionRef) : Nat :=
  16 * (network.client connection).work +
    transitWork serverRank (network.server.shared.heard connection)
      (network.clientSent connection) +
    transitWork clientRank (network.client connection).heard (network.serverSent connection)

def work (network : Network) : Nat :=
  network.server.sendingWork + totalWork id network.server.gatewayCount network.sideWork

theorem work_lt_of_server {action : ServerAction} {server : Server} (sound : network.Sound zstd)
    (silent : ¬ action.receives = true) (goesOn : action.goesOn = true)
    (stepped : network.server.step zstd action = some server) :
    ({ network with server := server } : Network).work < network.work := by
  have slots := Server.slotsInOrder_of_reachable sound.server.always
  have heard := GatewayServer.heard_congr (received_of_not_receives silent stepped)
  rcases Server.sendingWork_lt_of_step slots clientRank_le clientRank_pong goesOn stepped with
    ⟨connection, extra, less, others, sent⟩
  have count := Server.gatewayCount_of_goesOn goesOn stepped
  have total := @totalWork_le_add _ id network.server.gatewayCount connection extra
    network.sideWork ({ network with server := server } : Network).sideWork ?_ ?_
  · unfold work
    dsimp only
    rw [count]
    omega
  · have transit := sent.transitWork_le (heard_of_toClient (sound.toClient connection))
    simp only [id, sideWork, heard, serverSent, clientSent] at transit ⊢
    omega
  · intro other different
    simp only [id, sideWork, heard, serverSent, clientSent, others other different]
    exact Nat.le_refl _

theorem work_lt_of_client {action : ClientAction} {client : Client} (sound : network.Sound zstd)
    (silent : ¬ action.receives = true) (below : connection < network.server.gatewayCount)
    (goesOn : (network.client connection).goesOn action = true)
    (stepped : (network.client connection).step zstd action = some client) :
    ({ network with client := Function.update network.client connection client } :
      Network).work < network.work := by
  have heard := Client.heard_congr (clientReceived_of_not_receives silent stepped)
  have less := Client.work_lt_of_step (sound.linked connection)
    (Client.established_of_reachable (sound.client connection)) goesOn stepped
  have transit := (@Client.sentAtMost_of_step _ _ _ _ 0 serverRank 13 serverRank_le
    stepped).transitWork_le (heard_of_toServer (sound.toServer connection))
  refine Nat.add_lt_add_left (totalWork_lt below ?_ fun other different => ?_) _
  · simp only [id, sideWork, serverSent, clientSent, Function.update_self, heard] at transit ⊢
    omega
  · simp only [id, sideWork, serverSent, clientSent, Function.update_of_ne different]
    exact Nat.le_refl _

theorem work_lt_of_serverReceive {packet : PacketGW} {data : Option Bytes} {server : Server}
    {read : ConnectionRef → Nat} (sound : network.Sound zstd)
    (later : ({ network with server := server, serverRead := read } : Network).Sound zstd)
    (stepped : network.server.step zstd (.gateway connection (.frame packet data)) = some server) :
    ({ network with server := server, serverRead := read } : Network).work < network.work := by
  have slots := Server.slotsInOrder_of_reachable sound.server.always
  have less := Server.sendingWork_of_frame stepped
  rcases Server.sockets_of_frame slots stepped with ⟨below, count, sockets⟩
  have own : server.shared.heard connection =
      network.server.shared.heard connection ++ [Frame.of (packet, data)] := by
    simp [GatewayServer.heard, sockets, GatewaySockets.receive]
  have others : ∀ other, other ≠ connection →
      server.shared.heard other = network.server.shared.heard other := by
    intro other different
    simp [GatewayServer.heard, sockets, GatewaySockets.receive, different]
  have front := heard_of_toServer (later.toServer connection)
  change server.shared.heard connection <+: _ at front
  rw [own] at front
  have transit := @transitWork_read _ serverRank _ _ _ front
  rw [← own] at front transit
  have total := @totalWork_add_le _ id network.server.gatewayCount connection
    (serverRank (Frame.of (packet, data))) network.sideWork
    ({ network with server := server, serverRead := read } : Network).sideWork below ?_ ?_
  · simp only [work, serverRank, Frame.of, count] at total ⊢
    omega
  · simp only [id, sideWork, serverSent, clientSent, sockets, GatewaySockets.receive] at transit ⊢
    omega
  · intro other different
    simp only [id, sideWork, serverSent, clientSent, sockets, GatewaySockets.receive,
      others other different]
    exact Nat.le_refl _

theorem work_lt_of_clientReceive {packet : PacketGW} {data : Option Bytes} {client : Client}
    {read : ConnectionRef → Nat} (sound : network.Sound zstd)
    (later : ({ network with
      client := Function.update network.client connection client
      clientRead := read } : Network).Sound zstd)
    (below : connection < network.server.gatewayCount)
    (stepped : (network.client connection).step zstd (.run (.frame packet data)) = some client) :
    ({ network with
      client := Function.update network.client connection client
      clientRead := read } : Network).work < network.work := by
  have less := Client.work_of_frame stepped
  rcases Client.sockets_of_frame stepped with ⟨serving, run, sockets⟩
  have first := (Client.epochs_of_reachable (sound.client connection)).first_connection
    (sound.single connection) run
  subst first
  have own : client.heard =
      (network.client connection).heard ++ [Frame.of (packet, data)] := by
    simp [Client.heard, sockets, GatewaySockets.receive]
  have front := heard_of_toClient (later.toClient connection)
  simp only [Function.update_self] at front
  rw [own] at front
  have transit := @transitWork_read _ clientRank _ _ _ front
  rw [← own] at transit
  refine Nat.add_lt_add_left (totalWork_lt below ?_ fun other different => ?_) _
  · simp only [id, sideWork, serverSent, clientSent, Function.update_self, sockets,
      GatewaySockets.receive, clientRank, Frame.of] at transit ⊢
    omega
  · simp only [id, sideWork, serverSent, clientSent, Function.update_of_ne different]
    exact Nat.le_refl _

theorem work_lt_of_step (lawful : zstd.Lawful) (sound : network.Sound zstd)
    (alone : network.LeftAlone zstd action) (stepped : network.step zstd action = some next) :
    next.work < network.work := by
  have later := sound.step lawful alone.1 stepped
  have goesOn := alone.2
  cases action with
  | server action =>
      simp only [Network.step] at stepped
      split at stepped
      · cases stepped
      · rename_i silent
        rcases Option.map_eq_some_iff.mp stepped with ⟨server, moved, rfl⟩
        exact work_lt_of_server sound silent goesOn moved
  | client connection action =>
      simp only [Network.step] at stepped
      split at stepped
      · cases stepped
      · rename_i silent
        rcases Option.map_eq_some_iff.mp stepped with ⟨client, moved, rfl⟩
        simp only [Network.goesOn, Bool.and_eq_true, decide_eq_true_eq] at goesOn
        exact work_lt_of_client sound silent goesOn.1 goesOn.2 moved
  | serverReceive connection pooled =>
      rcases Option.bind_eq_some_iff.mp stepped with ⟨⟨⟨packet, data⟩, read⟩, received, stepped⟩
      rcases Option.map_eq_some_iff.mp stepped with ⟨server, moved, rfl⟩
      exact work_lt_of_serverReceive sound later moved
  | clientReceive connection pooled =>
      rcases Option.bind_eq_some_iff.mp stepped with ⟨⟨⟨packet, data⟩, read⟩, received, stepped⟩
      rcases Option.map_eq_some_iff.mp stepped with ⟨client, moved, rfl⟩
      exact work_lt_of_clientReceive sound later (of_decide_eq_true goesOn) moved

/-! ## Rest -/

theorem Sound.framed_toServer (sound : network.Sound zstd) (connection : ConnectionRef) :
    Framed zstd ((network.client connection).shared.sockets.writer 0) := by
  rcases sound.clientSenders connection with ⟨senders, represents, faithful⟩
  exact represents.writer ▸ faithful.framed 0

theorem Sound.framed_toClient (sound : network.Sound zstd) (connection : ConnectionRef) :
    Framed zstd (network.server.shared.sockets.writer connection) := by
  rcases sound.serverSenders with ⟨senders, represents, faithful⟩
  exact represents.writer ▸ faithful.framed connection

/-- Every task waits for something from outside, and the frames have been read. -/
structure AtRest (network : Network) : Prop where
  server : network.server.Resting
  client : ∀ connection < network.server.gatewayCount, (network.client connection).Resting
  toServer : ∀ connection addr sessionId,
    network.server.gateway connection = .exchanging addr sessionId .receive →
      network.unreadByServer connection = []
  toClient : ∀ connection < network.server.gatewayCount, ∀ serving,
    (network.client connection).run = .onConnection serving (.exchanging .receive) →
      network.unreadByClient connection = []

/-- While there is a frame to be read, the exchange loop that waits for it can read it. -/
theorem Sound.exists_serverReceive (lawful : zstd.Lawful) (sound : network.Sound zstd)
    {addr : SocketAddr} {sessionId : Uuid}
    (run : network.server.gateway connection = .exchanging addr sessionId .receive)
    (unread : network.unreadByServer connection ≠ []) :
    ∃ next, network.step zstd (.serverReceive connection []) = some next := by
  have below := List.length_pos_iff.mpr unread
  simp only [unreadByServer, clientSent, GatewayWriter.sent, GatewayServer.heard,
    List.length_drop, List.length_map] at below
  rcases (sound.toServer connection).exists_receive lawful (sound.framed_toServer connection)
    (by omega) [] with ⟨⟨packet, data⟩, read, received⟩
  have stepped : ∃ server, network.server.step zstd
      (.gateway connection (.frame packet data)) = some server := by
    simp only [Server.step, run, GatewayTask.usesSessions, Bool.and_false, Bool.false_eq_true,
      if_false]
    exact ⟨_, rfl⟩
  rcases stepped with ⟨server, moved⟩
  exact ⟨_, Option.bind_eq_some_iff.mpr ⟨_, received,
    Option.map_eq_some_iff.mpr ⟨server, moved, rfl⟩⟩⟩

theorem Sound.exists_clientReceive (lawful : zstd.Lawful) (sound : network.Sound zstd)
    {serving : ConnectionRef}
    (run : (network.client connection).run = .onConnection serving (.exchanging .receive))
    (unread : network.unreadByClient connection ≠ []) :
    ∃ next, network.step zstd (.clientReceive connection []) = some next := by
  have below := List.length_pos_iff.mpr unread
  simp only [unreadByClient, serverSent, GatewayWriter.sent, Client.heard, List.length_drop,
    List.length_map] at below
  rcases (sound.toClient connection).exists_receive lawful (sound.framed_toClient connection)
    (by omega) [] with ⟨⟨packet, data⟩, read, received⟩
  have stepped : ∃ client, (network.client connection).step zstd (.run (.frame packet data)) =
      some client := by
    simp only [Client.step, run, Client.runStep, Client.onConnection, Client.gatewayExchange]
    split <;> exact ⟨_, rfl⟩
  rcases stepped with ⟨client, moved⟩
  exact ⟨_, Option.bind_eq_some_iff.mpr ⟨_, received,
    Option.map_eq_some_iff.mpr ⟨client, moved, rfl⟩⟩⟩

theorem step_server {action : ServerAction} {server : Server} (goesOn : action.goesOn = true)
    (stepped : network.server.step zstd action = some server) :
    network.step zstd (.server action) = some { network with server := server } := by
  have silent : ¬ action.receives = true := by
    cases action with
    | gateway ref input => cases input <;> first | exact Bool.false_ne_true | cases goesOn
    | _ => exact Bool.false_ne_true
  rw [Network.step, if_neg silent, stepped]
  rfl

theorem step_client {action : ClientAction} {client : Client}
    (goesOn : (network.client connection).goesOn action = true)
    (stepped : (network.client connection).step zstd action = some client) :
    network.step zstd (.client connection action) =
      some { network with client := Function.update network.client connection client } := by
  have silent : ¬ action.receives = true := by
    cases action with
    | run input => cases input <;> first | exact Bool.false_ne_true | cases goesOn
    | _ => exact Bool.false_ne_true
  rw [Network.step, if_neg silent, stepped]
  rfl

theorem Sound.atRest_of_stuck (lawful : zstd.Lawful) (sound : network.Sound zstd)
    (stuck : ∀ action next, network.goesOn action = true →
      network.step zstd action ≠ some next) : network.AtRest := by
  refine ⟨?_, ?_, ?_, ?_⟩
  · exact Server.resting_of_stuck fun action next goesOn stepped =>
      stuck (.server action) _ goesOn (step_server goesOn stepped)
  · intro connection below
    refine @Client.resting_of_stuck zstd _ fun action next goesOn stepped => ?_
    exact stuck (.client connection action) _ (by simp [Network.goesOn, below, goesOn])
      (step_client goesOn stepped)
  · intro connection addr sessionId run
    by_contra unread
    rcases sound.exists_serverReceive lawful run unread with ⟨next, stepped⟩
    exact stuck _ next rfl stepped
  · intro connection below serving run
    by_contra unread
    rcases sound.exists_clientReceive lawful run unread with ⟨next, stepped⟩
    exact stuck (.clientReceive connection []) next (decide_eq_true below) stepped

/-! ## What has been delivered -/

def Served (network : Network) (connection : ConnectionRef) : Prop :=
  ∃ addr sessionId point, network.server.gateway connection = .exchanging addr sessionId point

theorem AtRest.receiving (rest : network.AtRest) (served : network.Served connection) :
    ∃ addr sessionId, network.server.gateway connection = .exchanging addr sessionId .receive := by
  rcases served with ⟨addr, sessionId, point, run⟩
  rcases rest.server.gateway connection with (absent | rejected | finished) | receiving
  · cases run.symm.trans absent
  · cases run.symm.trans rejected
  · cases run.symm.trans finished
  · exact receiving

theorem AppTask.pending_of_resting {task : AppTask} (resting : task.Resting) :
    task.pending = [] := by
  rcases resting with (rfl | rfl) | ⟨linkId, writer, rfl⟩ <;> rfl

theorem ClientAppTask.pending_of_resting {task : ClientAppTask} (resting : task.Resting) :
    task.pending = [] := by
  rcases resting with rfl | rfl | ⟨linkId, writer, rfl⟩ <;> rfl

/-- A client that rests and has a registered link waits for a frame. -/
theorem AtRest.clientReceiving (rest : network.AtRest) (sound : network.Sound zstd)
    (below : connection < network.server.gatewayCount) {linkId : UInt16}
    (registered : (network.client connection).shared.base.links.lookup linkId = some link) :
    ∃ serving, (network.client connection).run = .onConnection serving (.exchanging .receive) := by
  have serves := ((Client.epochs_of_reachable (sound.client connection)).links linkId link
    registered).1.1
  rcases (rest.client connection below).run with idle | idle | receiving
  · rw [idle] at serves
    exact serves.elim
  · rw [idle] at serves
    exact serves.elim
  · exact receiving

theorem AtRest.toClient_delivered (rest : network.AtRest) (sound : network.Sound zstd)
    (below : connection < network.server.gatewayCount) (ends : network.Ends ref connection link)
    (open_ : network.OpenToClient connection link) :
    (network.clientLink connection link).writer.written = (network.serverLink ref).received := by
  rcases rest.clientReceiving sound below open_.registered with ⟨serving, run⟩
  have received := sound.received_toClient ends open_
  rw [bytesToClient, run, rest.toClient connection below serving run,
    AppTask.pending_of_resting (rest.server.app ref)] at received
  simpa [RunTask.held, payloads] using received.symm

theorem AtRest.toServer_delivered (rest : network.AtRest) (sound : network.Sound zstd)
    (below : connection < network.server.gatewayCount) (served : network.Served connection)
    (ends : network.Ends ref connection link) (open_ : network.OpenToServer ref connection link) :
    (network.serverLink ref).writer.written = (network.clientLink connection link).received := by
  rcases rest.receiving served with ⟨addr, sessionId, run⟩
  have received := sound.received_toServer ends open_
  rw [bytesToServer, run, rest.toServer connection addr sessionId run,
    ClientAppTask.pending_of_resting ((rest.client connection below).app link)] at received
  simpa [GatewayTask.held, payloads] using received.symm

theorem Sound.served_lt (sound : network.Sound zstd) (served : network.Served connection) :
    connection < network.server.gatewayCount := by
  rcases served with ⟨addr, sessionId, point, run⟩
  refine (Server.slotsInOrder_of_reachable sound.server.always).gateway_lt fun absent => ?_
  cases run.symm.trans absent

theorem usesWork (lawful : zstd.Lawful) : (system zstd).UsesWork (LeftAlone zstd)
    ((system zstd).ReachableUnder (Permitted zstd)) work where
  kept := fun _ _ _ reachable alone stepped => .step reachable alone.1 stepped
  less := fun _ _ _ reachable alone stepped =>
    work_lt_of_step lawful (sound_of_reachable lawful reachable) alone stepped

/-- In every run without reconnection in which failed sockets stay silent and link
identifiers are left, from any state on: as long as nothing comes from outside, the network
takes no more steps than it has work; where it can take none it is at rest; and at rest the
applications at both ends of every open link have been written everything that the other
one has sent. -/
theorem network_settles (zstd : Zstd) (lawful : zstd.Lawful) (network : Network)
    (reachable : (system zstd).ReachableUnder (Permitted zstd) network) (count : Nat)
    (final : Network) (run : (system zstd).ReachesIn (LeftAlone zstd) network count final) :
    count + final.work ≤ network.work ∧
    (final.AtRest ∨ ∃ action next, final.goesOn action = true ∧
      final.step zstd action = some next) ∧
    (final.AtRest → ∀ ref connection link, final.Served connection →
      final.Ends ref connection link →
        (final.OpenToClient connection link →
          (final.clientLink connection link).writer.written = (final.serverLink ref).received) ∧
        (final.OpenToServer ref connection link →
          (final.serverLink ref).writer.written =
            (final.clientLink connection link).received)) := by
  have uses := usesWork lawful
  have reached := uses.known_of_run reachable run
  have sound := sound_of_reachable lawful reached
  refine ⟨uses.count_add_work_le reachable run, ?_, ?_⟩
  · by_contra stuck
    rcases not_or.mp stuck with ⟨busy, none⟩
    refine busy (sound.atRest_of_stuck lawful ?_)
    exact fun action next goesOn stepped => none ⟨action, next, goesOn, stepped⟩
  · intro rest ref connection link served ends
    have below := sound.served_lt served
    exact ⟨rest.toClient_delivered sound below ends,
      rest.toServer_delivered sound below served ends⟩

def OneLinkWaits (network : Network) : Prop :=
  network.server.appCount = 1 ∧ network.server.gatewayCount = 1 ∧
    network.server.app 0 = .exchanging 1 0 .read ∧
    network.server.gateway 0 = .exchanging localClient 7 .receive ∧
    (network.client 0).run = .onConnection 0 (.exchanging .receive) ∧
    (network.client 0).linkCount = 1 ∧ (network.client 0).connectionCount = 1 ∧
    (network.client 0).app 0 = .running 1 0 .read ∧ (network.client 0).ping 0 = .tick ∧
    (network.client 0).command = .idle ∧ network.server.shutdown = .absent ∧
    network.unreadByServer 0 = [] ∧ network.unreadByClient 0 = []

instance (network : Network) : Decidable network.OneLinkWaits :=
  inferInstanceAs (Decidable (_ ∧ _))

theorem OneLinkWaits.atRest (waits : network.OneLinkWaits) (sound : network.Sound zstd) :
    network.AtRest := by
  rcases waits with ⟨apps, gateways, app, gateway, run, links, connections, task, ping, command,
    shutdown, unreadByServer, unreadByClient⟩
  have slots := Server.slotsInOrder_of_reachable sound.server.always
  have established := Client.established_of_reachable (sound.client 0)
  have first : ∀ {slot : Nat}, slot < network.server.gatewayCount → slot = 0 :=
    fun below => Nat.lt_one_iff.mp (gateways ▸ below)
  refine ⟨⟨fun ref => ?_, fun connection => ?_, .inl shutdown⟩, fun connection below => ?_, ?_, ?_⟩
  · cases ref with
    | zero => exact .inr ⟨1, 0, app⟩
    | succ ref => exact .inl (.inl (slots.app _ (apps ▸ Nat.le_add_left 1 ref)))
  · cases connection with
    | zero => exact .inr ⟨localClient, 7, gateway⟩
    | succ ref => exact .inl (.inl (slots.gateway _ (gateways ▸ Nat.le_add_left 1 ref)))
  · rw [first below]
    refine ⟨.inr (.inr ⟨0, run⟩), fun link => ?_, fun connection => ?_, command⟩
    · cases link with
      | zero => exact .inr (.inr ⟨1, 0, task⟩)
      | succ link => exact .inl ((sound.linked 0).vacant _ (links ▸ Nat.le_add_left 1 link))
    · cases connection with
      | zero => exact .inr (.inr ping)
      | succ connection =>
          cases other : (network.client 0).ping (connection + 1) with
          | absent => exact .inl rfl
          | finished => exact .inr (.inl rfl)
          | tick => exact .inr (.inr rfl)
          | _ =>
              have below := established.ping (connection + 1) (by rw [other]; rfl)
              rw [connections] at below
              exact absurd below (Nat.not_lt.mpr (Nat.le_add_left 1 connection))
  · intro connection addr sessionId run
    have below := sound.served_lt ⟨addr, sessionId, .receive, run⟩
    rw [first below]
    exact unreadByServer
  · intro connection below _ _
    rw [first below]
    exact unreadByClient

/-- The tasks go on until both chunks of the server's application and the one of the
client's have been written. -/
def untilRest : List NetworkAction :=
  [.server (.app 0 .go), .server (.app 0 .go), .server (.app 0 (.write .ok)),
    .clientReceive 0 [], .client 0 (.run (.write .ok)), .clientReceive 0 [],
    .client 0 (.run (.write .ok)), .client 0 (.app 0 .go), .client 0 (.app 0 (.write .ok)),
    .client 0 (.app 0 .go), .serverReceive 0 [], .server (.gateway 0 .go),
    .server (.gateway 0 (.write .ok))]

theorem network_settles_bothWays :
    ∃ (network final : Network) (count : Nat),
      (system .runLength).ReachesIn (LeftAlone .runLength) network count final ∧
      count + final.work ≤ network.work ∧ final.AtRest ∧
      (final.clientLink 0 0).writer.written = [7, 8] ∧
      (final.clientLink 0 0).writer.written = (final.serverLink 0).received := by
  have executed : (((system .runLength).runChecked
      (fun network action => network.Permitted .runLength action) .new bothWays).any
      fun network => ((system .runLength).runChecked
        (fun network action => network.LeftAlone .runLength action) network untilRest).any
        fun final => final.OneLinkWaits ∧ (final.clientLink 0 0).writer.written = [7, 8] ∧
          (final.serverLink 0).connectionId = (final.clientLink 0 0).connectionId ∧
          (final.client 0).shared.base.links.lookup
            (final.clientLink 0 0).connectionId = some 0 ∧
          (final.clientLink 0 0).writer.failed = false ∧
          (final.server.shared.sockets.writer 0).half.failed = false) = true := by
    decide +kernel
  rcases TransitionSystem.exists_reaches_of_runChecked executed with ⟨network, reaches, later⟩
  rcases TransitionSystem.exists_reaches_of_runChecked later with ⟨final, settles, found⟩
  rcases of_decide_eq_true found with ⟨waits, written, same, registered, healthy, sending⟩
  have reachable := reaches.mono fun _ _ passed => of_decide_eq_true passed
  have alone := settles.mono fun _ _ passed => of_decide_eq_true passed
  rcases TransitionSystem.Reaches.exists_count alone with ⟨count, run⟩
  have settled := network_settles .runLength Zstd.runLength_lawful network reachable count final run
  have sound := sound_of_reachable Zstd.runLength_lawful
    (reachable.trans (alone.mono fun _ _ leftAlone => leftAlone.1))
  have rest := waits.atRest sound
  have served : final.Served 0 := ⟨localClient, 7, .receive, waits.2.2.2.1⟩
  have exists_ : 0 < (final.client 0).linkCount := waits.2.2.2.2.2.1 ▸ Nat.one_pos
  exact ⟨network, final, count, run, settled.1, rest, written,
    (settled.2.2 rest 0 0 0 served ⟨exists_, same⟩).1 ⟨registered, healthy, sending⟩⟩

end Network

end IoGateway

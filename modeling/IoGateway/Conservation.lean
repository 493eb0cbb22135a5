import IoGateway.Fidelity

/-! # Conservation of the bytes in transit

Every byte that has been read from an application at one end of a link is in one place: it
has been written at the other end, or the exchange loop there holds it, or a frame carries
it that has not been read yet, or the forwarding loop has not sent it yet.
-/

namespace IoGateway

def AppTask.pending : AppTask → Bytes
  | .exchanging _ _ point => point.phase.pending
  | _ => []

def ClientAppTask.pending : ClientAppTask → Bytes
  | .running _ _ point => point.phase.pending
  | _ => []

theorem AppTask.pending_sender (task : AppTask) (received : Bytes) :
    (task.sender received).phase.pending = task.pending := by
  cases task with
  | handling point => cases point <;> rfl
  | _ => rfl

theorem RunTask.onConnection_of_spawns {task : RunTask} {connection : ConnectionRef}
    {link : LinkRef} (spawns : task.spawns? = some (connection, link)) :
    ∃ point, task = .onConnection connection point := by
  unfold spawns? at spawns
  split at spawns
  · rcases Option.map_eq_some_iff.mp spawns with ⟨_, _, equal⟩
    cases equal
    exact ⟨_, rfl⟩
  · cases spawns

theorem Client.pending_sender (client : Client) (link : LinkRef) :
    (client.sender link).phase.pending = (client.app link).pending := by
  cases task : client.app link with
  | running linkId writer point => rw [sender_of_running task]; rfl
  | finished => rw [sender_of_finished task]; rfl
  | absent =>
      unfold sender
      rw [task]
      dsimp only
      split
      · split <;> rfl
      · rfl

/-- The frames after those that have been read carry the rest of the data. -/
theorem payloads_unread {linkId : UInt16} {heard sent : List Frame} (front : heard <+: sent) :
    payloads linkId heard ++ payloads linkId (sent.drop heard.length) = payloads linkId sent := by
  rcases front with ⟨unread, rfl⟩
  rw [List.drop_left, payloads_append]

namespace Server

variable {server : Server} {senders : Senders} {link : LinkRef}

theorem Represents.pending (represents : server.Represents senders)
    (identified : Identified server) (created : server.Created link)
    (positive : (server.shared.base.link link).connectionId ≠ 0) :
    (senders.link (server.shared.base.link link).connectionId).phase.pending =
      (server.app link).pending := by
  cases found : (server.app link).linkId? with
  | none =>
      have ended := AppTask.finished_of_linkId? found created
      rw [(represents.finished link ended positive).1, ended]
      rfl
  | some linkId =>
      rw [identified.created link linkId found created, represents.task link linkId found]
      exact AppTask.pending_sender _ _

end Server

namespace Client

variable {client : Client} {linkId : UInt16} {link : LinkRef}

/-- On a client that does not reconnect a registered link sends on the only connection. -/
theorem connection_of_registered (epochs : Epochs client)
    (single : client.SingleConnection)
    (registered : client.shared.base.links.lookup linkId = some link) :
    (client.sender link).connection = 0 := by
  have first : ∀ {connection}, connection < client.connectionCount → connection = 0 :=
    fun below => Nat.lt_one_iff.mp (Nat.lt_of_lt_of_le below single)
  have serving : client.shared.openedOn link = 0 :=
    first (Nat.lt_of_succ_le (Nat.le_of_eq (epochs.links linkId link registered).1.2))
  cases task : client.app link with
  | running id writer point =>
      rw [sender_of_running task]
      exact (epochs.tasks link id writer point task).1.trans serving
  | finished =>
      rw [sender_of_finished task]
      exact serving
  | absent =>
      by_cases spawning : ∃ connection, client.run.spawns? = some (connection, link)
      · rcases spawning with ⟨connection, spawns⟩
        rcases RunTask.onConnection_of_spawns spawns with ⟨point, run⟩
        have current := Nat.lt_of_succ_le (Nat.le_of_eq (epochs.connection connection point run))
        unfold sender
        rw [task, spawns]
        simpa using first current
      · rw [sender_of_absent task fun connection spawns => spawning ⟨connection, spawns⟩]
        rfl

end Client

namespace Network

variable {zstd : Zstd} {network : Network} {connection : ConnectionRef} {ref link : LinkRef}

def unreadByClient (network : Network) (connection : ConnectionRef) : List Frame :=
  (network.serverSent connection).drop (network.client connection).heard.length

def unreadByServer (network : Network) (connection : ConnectionRef) : List Frame :=
  (network.clientSent connection).drop (network.server.shared.heard connection).length

/-- Where the bytes are that the server has read from an application. -/
def bytesToClient (network : Network) (ref : LinkRef) (connection : ConnectionRef)
    (link : LinkRef) : Bytes :=
  let linkId := (network.clientLink connection link).connectionId
  (network.clientLink connection link).writer.written ++
    (network.client connection).run.held linkId ++
    payloads linkId (network.unreadByClient connection) ++ (network.server.app ref).pending

def bytesToServer (network : Network) (ref : LinkRef) (connection : ConnectionRef)
    (link : LinkRef) : Bytes :=
  let linkId := (network.serverLink ref).connectionId
  (network.serverLink ref).writer.written ++
    (network.server.gateway connection).held linkId ref ++
    payloads linkId (network.unreadByServer connection) ++
    ((network.client connection).app link).pending

/-- The client writes what comes for the link, and the server can send it. -/
structure OpenToClient (network : Network) (connection : ConnectionRef) (link : LinkRef) :
    Prop where
  registered : (network.client connection).shared.base.links.lookup
    (network.clientLink connection link).connectionId = some link
  healthy : (network.clientLink connection link).writer.failed = false
  sending : (network.server.shared.sockets.writer connection).half.failed = false

structure OpenToServer (network : Network) (ref : LinkRef) (connection : ConnectionRef)
    (link : LinkRef) : Prop where
  registered : network.server.shared.base.links.lookup
    (network.serverLink ref).connectionId = some ref
  connected : (network.serverLink ref).state = .connected
  healthy : (network.serverLink ref).writer.failed = false
  peer : (network.client connection).shared.base.links.lookup
    (network.clientLink connection link).connectionId = some link
  sending : ((network.client connection).shared.sockets.writer 0).half.failed = false

theorem Sound.server_whole (sound : network.Sound zstd)
    (owned : network.Owned connection (network.serverLink ref).connectionId)
    (sending : (network.server.shared.sockets.writer connection).half.failed = false) :
    payloads (network.serverLink ref).connectionId (network.serverSent connection) ++
      (network.server.app ref).pending = (network.serverLink ref).received := by
  rcases sound.serverSenders with ⟨senders, represents, faithful⟩
  have identified := Server.identified_of_reachable sound.server
  have created := sound.created owned.positive
  have sender := faithful.sender _ owned.positive
  have elsewhere := faithful.elsewhere _ owned.positive connection
  rw [represents.writer] at sender elsewhere
  have serving : connection =
      (senders.link (network.serverLink ref).connectionId).connection := by
    by_contra different
    have opened := has_iff.mp owned.opened
    rw [serverSent, elsewhere (.inr different)] at opened
    cases opened
  rw [← serving] at sender
  have whole := sender.whole sending
  rw [serverLink, represents.pending identified created owned.positive,
    represents.received identified (Server.unread_of_reachable sound.server.always) created
      owned.positive] at whole
  exact whole

theorem Sound.client_whole (sound : network.Sound zstd)
    (exists_ : link < (network.client connection).linkCount)
    (registered : (network.client connection).shared.base.links.lookup
      (network.clientLink connection link).connectionId = some link)
    (sending : ((network.client connection).shared.sockets.writer 0).half.failed = false) :
    payloads (network.clientLink connection link).connectionId (network.clientSent connection) ++
      ((network.client connection).app link).pending =
        (network.clientLink connection link).received := by
  rcases sound.clientSenders connection with ⟨senders, represents, faithful⟩
  have sender := faithful.sender _ (sound.owned exists_).positive
  have first := Client.connection_of_registered
    (Client.epochs_of_reachable (sound.client connection)) (sound.single connection) registered
  rw [represents.writer, clientLink, represents.link link exists_, first] at sender
  have whole := sender.whole sending
  rwa [Client.pending_sender, Client.sender_received (sound.linked connection) exists_] at whole

theorem Sound.received_toClient (sound : network.Sound zstd)
    (ends : network.Ends ref connection link) (open_ : network.OpenToClient connection link) :
    (network.serverLink ref).received = network.bytesToClient ref connection link := by
  have owned := sound.owned ends.exists_
  have written : (network.clientLink connection link).writer.written ++
      (network.client connection).run.held (network.clientLink connection link).connectionId =
        payloads (network.clientLink connection link).connectionId
          (network.client connection).heard :=
    ((sound.clientReceiving connection).written link ends.exists_).whole open_.registered
      open_.healthy
  have unread := @payloads_unread (network.clientLink connection link).connectionId _ _
    (heard_of_toClient (sound.toClient connection))
  have sent := sound.server_whole (ends.same ▸ owned) open_.sending
  rw [ends.same] at sent
  calc (network.serverLink ref).received
      = payloads (network.clientLink connection link).connectionId
          (network.serverSent connection) ++ (network.server.app ref).pending := sent.symm
    _ = network.bytesToClient ref connection link := by
        rw [serverSent, ← unread, ← written]
        rfl

theorem Sound.received_toServer (sound : network.Sound zstd)
    (ends : network.Ends ref connection link) (open_ : network.OpenToServer ref connection link) :
    (network.clientLink connection link).received =
      network.bytesToServer ref connection link := by
  have owned := sound.owned ends.exists_
  rw [← ends.same] at owned
  have written : (network.serverLink ref).writer.written ++
      (network.server.gateway connection).held (network.serverLink ref).connectionId ref =
        payloads (network.serverLink ref).connectionId (network.server.shared.heard connection) :=
    (sound.serverReceiving.written connection ref (sound.sole owned.client)).whole
      ⟨open_.connected, .inl open_.registered⟩ open_.healthy
  have unread := @payloads_unread (network.serverLink ref).connectionId _ _
    (heard_of_toServer (sound.toServer connection))
  have sent := sound.client_whole ends.exists_ open_.peer open_.sending
  rw [← ends.same] at sent
  calc (network.clientLink connection link).received
      = payloads (network.serverLink ref).connectionId (network.clientSent connection) ++
          ((network.client connection).app link).pending := sent.symm
    _ = network.bytesToServer ref connection link := by
        rw [clientSent, ← unread, ← written]
        rfl

/-- In every run without reconnection in which failed sockets stay silent and link
identifiers are left: while a link is open and no write on its way has failed, what has been
read at one end is what has been written at the other, followed by what the exchange loop
there holds, what is in flight, and what has not been sent. -/
theorem bytes_conserved (zstd : Zstd) (lawful : zstd.Lawful) (network : Network)
    (reachable : (system zstd).ReachableUnder (Permitted zstd) network) (ref : LinkRef)
    (connection : ConnectionRef) (link : LinkRef) (ends : network.Ends ref connection link) :
    (network.OpenToClient connection link →
      (network.serverLink ref).received = network.bytesToClient ref connection link) ∧
    (network.OpenToServer ref connection link →
      (network.clientLink connection link).received =
        network.bytesToServer ref connection link) := by
  have sound := sound_of_reachable lawful reachable
  exact ⟨sound.received_toClient ends, sound.received_toServer ends⟩

/-- Both ends of a link are open. The server has sent one chunk, which the client has not
read, and read another one; the client has read a chunk. -/
def bothWays : List NetworkAction :=
  linkOpened ++ [.serverReceive 0 [], .server (.gateway 0 .go), .server (.gateway 0 .go),
    .server (.app 0 (.chunk [7])), .server (.app 0 .go), .server (.app 0 .go),
    .server (.app 0 (.write .ok)), .server (.app 0 (.chunk [8])), .client 0 (.app 0 (.chunk [9]))]

theorem bytes_conserved_bothWays :
    ∃ network : Network, (network.serverLink 0).received = [7, 8] ∧
      payloads 1 (network.unreadByClient 0) = [7] ∧ (network.server.app 0).pending = [8] ∧
      (network.serverLink 0).received = network.bytesToClient 0 0 0 ∧
      (network.clientLink 0 0).received = network.bytesToServer 0 0 0 := by
  have executed : ((system .runLength).runChecked
      (fun network action => network.Permitted .runLength action) .new bothWays).any
      (fun network => (network.serverLink 0).received = [7, 8] ∧
        payloads 1 (network.unreadByClient 0) = [7] ∧ (network.server.app 0).pending = [8] ∧
        0 < (network.client 0).linkCount ∧
        (network.serverLink 0).connectionId = (network.clientLink 0 0).connectionId ∧
        (network.client 0).shared.base.links.lookup
          (network.clientLink 0 0).connectionId = some 0 ∧
        (network.clientLink 0 0).writer.failed = false ∧
        (network.server.shared.sockets.writer 0).half.failed = false ∧
        network.server.shared.base.links.lookup (network.serverLink 0).connectionId = some 0 ∧
        (network.serverLink 0).state = .connected ∧
        (network.serverLink 0).writer.failed = false ∧
        ((network.client 0).shared.sockets.writer 0).half.failed = false) = true := by
    decide +kernel
  rcases TransitionSystem.exists_reaches_of_runChecked executed with ⟨network, reaches, found⟩
  rcases of_decide_eq_true found with ⟨received, unread, pending, exists_, same, peer,
    clientHealthy, serverSending, registered, connected, serverHealthy, clientSending⟩
  have reachable := reaches.mono fun _ _ passed => of_decide_eq_true passed
  have conserved := bytes_conserved .runLength Zstd.runLength_lawful network reachable 0 0 0
    ⟨exists_, same⟩
  exact ⟨network, received, unread, pending, conserved.1 ⟨peer, clientHealthy, serverSending⟩,
    conserved.2 ⟨registered, connected, serverHealthy, peer, clientSending⟩⟩

end Network

end IoGateway

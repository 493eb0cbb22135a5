import IoGateway.Client.Abandoned
import IoGateway.Client.Sender
import IoGateway.Server.Sender

/-! # What is written to a gateway connection

Whatever the peer sends, and however many tasks share its writer, the bytes of a gateway
connection are the frames of the completed calls: reading them returns these frames.
-/

namespace IoGateway

variable {zstd : Zstd}

theorem readAll_frames (lawful : zstd.Lawful) {tail : Bytes} (truncated : Truncated zstd tail) :
    ∀ (calls : List SendCall) (pooled : Nat → Bytes) (statistics : ConnectionStatistics),
      (∀ call ∈ calls, Sendable call.1 call.2) →
        let outcome := readAll zstd pooled statistics (calls.flatMap (frameBytes zstd) ++ tail)
        outcome.packets.map Frame.of = calls.map Frame.of ∧ outcome.rest = tail
  | [], pooled, statistics, _ => by
      rw [List.flatMap_nil, List.nil_append,
        readAll_of_none (readGwPacket_of_truncated lawful truncated _ _)]
      exact ⟨rfl, rfl⟩
  | call :: rest, pooled, statistics, sendable => by
      have first := readGwPacket_bytes_append
        (preparePacket_describes lawful (sendable call List.mem_cons_self)) (pooled 0) statistics
        (rest.flatMap (frameBytes zstd) ++ tail)
      have later := readAll_frames lawful truncated rest (fun index => pooled (index + 1))
        (countReceived statistics (preparePacket zstd call.1 call.2))
        fun other member => sendable other (List.mem_cons_of_mem _ member)
      rw [List.flatMap_cons, List.append_assoc, frameBytes_eq, readAll_of_some (by rw [first])]
      simp only [first, List.map_cons]
      exact ⟨by rw [later.1, Frame.of_preparePacket], later.2⟩

/-- Reading the writer's bytes returns its frames and leaves no whole one. -/
structure Decodes (zstd : Zstd) (writer : GatewayWriter) (outcome : ReadAllOutcome) : Prop where
  packets : outcome.packets.map Frame.of = writer.sent
  rest : Truncated zstd outcome.rest
  whole : writer.half.failed = false → outcome.rest = []

theorem Framed.decodes {writer : GatewayWriter} (lawful : zstd.Lawful)
    (framed : Framed zstd writer) (pooled : Nat → Bytes) (statistics : ConnectionStatistics) :
    Decodes zstd writer (readAll zstd pooled statistics writer.half.written) := by
  rcases framed.bytes with ⟨tail, written, whole, truncated⟩
  rcases readAll_frames lawful truncated writer.frames pooled statistics framed.sendable with
    ⟨packets, rest⟩
  rw [written]
  exact ⟨packets, by rwa [rest], fun healthy => rest.trans (whole healthy)⟩

theorem sendable_bare (type : PacketType) (packetId : UInt64) (linkId : UInt16) :
    Sendable (PacketGW.new type packetId linkId 0) none :=
  ⟨rfl, rfl, by simp, Nat.zero_le _⟩

def SenderPhase.Sized (phase : SenderPhase) : Prop :=
  ∀ chunk, phase = .forwarding (some chunk) → 1 ≤ chunk.length ∧ chunk.length ≤ bufferSize

theorem sendable_regular {chunk : Bytes} (packetId : UInt64) (linkId : UInt16)
    (size : 1 ≤ chunk.length ∧ chunk.length ≤ bufferSize) :
    Sendable (PacketGW.new .regular packetId linkId (UInt16.ofNat chunk.length)) (some chunk) := by
  have small : chunk.length < 2 ^ 16 := Nat.lt_of_le_of_lt size.2 (by decide)
  refine ⟨rfl, by simpa [PacketGW.new] using Nat.mod_eq_of_lt small, ?_, size.2⟩
  intro empty
  cases empty
  exact absurd size.1 (by decide)

/-! ## The server -/

def AppTask.Sized : AppTask → Prop
  | .exchanging _ _ point => point.phase.Sized
  | _ => True

theorem GatewayServer.AppStep.sized {server after : GatewayServer} {ref : LinkRef}
    {task next : AppTask} {input : Input} (stepped : server.AppStep zstd ref task input after next)
    (sized : task.Sized) : next.Sized := by
  cases stepped with
  | handling stepped =>
      cases stepped with
      | setWaiting => exact fun _ forwarding => by cases forwarding
      | _ => trivial
  | exchanging stepped =>
      cases stepped with
      | read size =>
          intro chunk forwarding
          cases forwarding
          exact size
      | addIncoming => exact sized
      | regularId => exact sized
      | removed => trivial
      | _ => exact fun _ forwarding => by cases forwarding

namespace Server

variable {server next : Server} {action : ServerAction} {connection : ConnectionRef}
  {call : SendCall}

def Sized (server : Server) : Prop := ∀ ref, (server.app ref).Sized

theorem Sized.step (sized : server.Sized) (stepped : step zstd server action = some next) :
    next.Sized := by
  intro ref
  cases transition_of_step stepped with
  | acceptApp =>
      change (Function.update server.app server.appCount _ ref).Sized
      by_cases own : ref = server.appCount
      · rw [own, Function.update_self]
        trivial
      · rw [Function.update_of_ne own]
        exact sized ref
  | @app moving input shared task moved =>
      change (Function.update server.app moving task ref).Sized
      by_cases own : ref = moving
      · rw [own, Function.update_self]
        exact moved.sized (sized moving)
      · rw [Function.update_of_ne own]
        exact sized ref
  | _ => exact sized ref

theorem Sending.sendable (sending : server.Sending action connection call) (sized : server.Sized) :
    Sendable call.1 call.2 := by
  cases sending with
  | open_ => exact sendable_bare _ _ _
  | close => exact sendable_bare _ _ _
  | pong => exact sendable_bare _ _ _
  | @regular _ link linkId bytes packetId _ point =>
      have size := sized link
      rw [point] at size
      exact sendable_regular _ _ (size bytes rfl)

theorem Sending.lt_gatewayCount (sending : server.Sending action connection call)
    (bound : server.Bound) (slots : SlotsInOrder server) : connection < server.gatewayCount := by
  cases sending with
  | pong point =>
      exact slots.gateway_lt fun absent => by
        rw [point] at absent
        cases absent
  | open_ point => exact bound _ _ (by rw [point]; simp [AppTask.maySendOn])
  | regular point => exact bound _ _ (by rw [point]; simp [AppTask.maySendOn])
  | close point => exact bound _ _ (by rw [point]; simp [AppTask.maySendOn])

/-- After the step no gateway socket has accepted bytes after a failed write. -/
def SendsStopped (zstd : Zstd) (server : Server) (action : ServerAction) : Prop :=
  ∀ next ∈ step zstd server action, ∀ connection < next.gatewayCount,
    (next.shared.sockets.writer connection).half.resumed = false

instance (zstd : Zstd) (server : Server) (action : ServerAction) :
    Decidable (server.SendsStopped zstd action) :=
  inferInstanceAs (Decidable (∀ next ∈ step zstd server action, ∀ connection < _, _))

structure AllFramed (zstd : Zstd) (server : Server) : Prop where
  sized : server.Sized
  framed : ∀ connection, Framed zstd (server.shared.sockets.writer connection)

theorem AllFramed.step (all : server.AllFramed zstd) (bound : server.Bound)
    (slots : SlotsInOrder server) (stopped : server.SendsStopped zstd action)
    (stepped : step zstd server action = some next) : next.AllFramed zstd := by
  refine ⟨all.sized.step stepped, fun connection => ?_⟩
  cases writerStep_of_step stepped connection with
  | silent silent => exact (all.framed connection).silent silent
  | sent sending wrote =>
      have below := Nat.lt_of_lt_of_le (sending.lt_gatewayCount bound slots)
        (counts_le_of_step stepped).2
      exact (all.framed connection).send (sending.sendable all.sized)
        (sendStep_of_eq wrote (stopped next stepped connection below))

theorem allFramed_of_reachable
    (reachable : (system zstd).ReachableUnder (SendsStopped zstd) server) :
    server.AllFramed zstd := by
  refine reachable.invariant ⟨fun _ => trivial, fun _ => framed_new⟩
    fun _ _ _ earlier all stopped stepped => ?_
  exact all.step (bound_of_reachable earlier.always) (slotsInOrder_of_reachable earlier.always)
    stopped stepped

/-- Whatever its clients send, in every run in which failed gateway sockets stay silent:
reading what the server has written to a connection returns the frames of its completed
calls, and what is left is no whole frame. -/
theorem streams_decode (zstd : Zstd) (lawful : zstd.Lawful) (server : Server)
    (reachable : (system zstd).ReachableUnder (SendsStopped zstd) server)
    (connection : ConnectionRef) (pooled : Nat → Bytes) (statistics : ConnectionStatistics) :
    Decodes zstd (server.shared.sockets.writer connection)
      (readAll zstd pooled statistics (server.shared.sockets.writer connection).half.written) :=
  ((allFramed_of_reachable reachable).framed connection).decodes lawful pooled statistics

theorem streams_decode_oneOpenLink :
    ∃ server : Server,
      (server.shared.sockets.writer 0).sent.map Frame.payload = [none, some [7]] ∧
        Decodes .runLength (server.shared.sockets.writer 0) (readAll .runLength (fun _ => []) .new
          (server.shared.sockets.writer 0).half.written) := by
  have executed : ((system .runLength).runChecked
      (fun server action => server.SendsStopped .runLength action) .new
      (oneOpenLink ++ [.app 0 (.chunk [7]), .app 0 .go, .app 0 .go, .app 0 (.write .ok)])).any
      (fun server =>
        (server.shared.sockets.writer 0).sent.map Frame.payload = [none, some [7]]) =
          true := by decide +kernel
  rcases TransitionSystem.exists_reaches_of_runChecked executed with ⟨server, reaches, found⟩
  have reachable := reaches.mono fun _ _ passed => of_decide_eq_true passed
  exact ⟨server, of_decide_eq_true found, streams_decode .runLength Zstd.runLength_lawful server
    reachable 0 (fun _ => []) .new⟩

end Server

/-! ## The client -/

def ClientAppTask.Sized : ClientAppTask → Prop
  | .running _ _ point => point.phase.Sized
  | _ => True

theorem GatewayClient.AppStep.sized {client after : GatewayClient} {link : LinkRef}
    {task next : ClientAppTask} {input : Input}
    (stepped : client.AppStep zstd link task input after next) (sized : task.Sized) :
    next.Sized := by
  cases stepped with
  | read size =>
      intro chunk forwarding
      cases forwarding
      exact size
  | regularId => exact sized
  | removeLink => trivial
  | _ => exact fun _ forwarding => by cases forwarding

namespace Client

variable {client next : Client} {action : ClientAction} {connection : ConnectionRef}
  {call : SendCall}

def Sized (client : Client) : Prop := ∀ link, (client.app link).Sized

theorem Sized.step (sized : client.Sized) (stepped : step zstd client action = some next) :
    next.Sized := by
  intro link
  cases transition_of_step stepped with
  | run moved =>
      rcases moved.app with same | ⟨serving, id, spawned, spawn, same⟩
      · rw [same]
        exact sized link
      · rw [same]
        by_cases own : link = spawned
        · rw [own, Function.update_self]
          exact fun _ forwarding => by cases forwarding
        · rw [Function.update_of_ne own]
          exact sized link
  | @app moving input shared task moved =>
      change (Function.update client.app moving task link).Sized
      by_cases own : link = moving
      · rw [own, Function.update_self]
        exact moved.sized (sized moving)
      · rw [Function.update_of_ne own]
        exact sized link
  | shutdown moved =>
      generalize client.shutdown = task at moved
      cases moved <;> exact sized link
  | _ => exact sized link

theorem Sending.sendable (sending : client.Sending action connection call) (sized : client.Sized) :
    Sendable call.1 call.2 := by
  cases sending with
  | @regular _ link linkId bytes packetId _ point =>
      have size := sized link
      rw [point] at size
      exact sendable_regular _ _ (size bytes rfl)
  | _ => exact sendable_bare _ _ _

theorem Sending.lt_connectionCount (sending : client.Sending action connection call)
    (established : Established client) (epochs : Epochs client) (held : WriterHeld client) :
    connection < client.connectionCount := by
  have serving : ∀ {point}, client.run = .onConnection connection point →
      connection < client.connectionCount :=
    fun run => Nat.lt_of_succ_le (Nat.le_of_eq (epochs.connection connection _ run))
  cases sending with
  | opened run => exact serving run
  | openFail run => exact serving run
  | pong run => exact serving run
  | regular running =>
      exact established.app _ connection (by rw [running]; simp [ClientAppTask.maySendOn])
  | close running =>
      exact established.app _ connection (by rw [running]; simp [ClientAppTask.maySendOn])
  | ping running => exact established.ping connection (by rw [running]; rfl)
  | command running =>
      exact Nat.lt_of_succ_le (Nat.le_of_eq
        (held.current connection (held.command connection (by rw [running]; rfl))))

def SendsStopped (zstd : Zstd) (client : Client) (action : ClientAction) : Prop :=
  ∀ next ∈ step zstd client action, ∀ connection < next.connectionCount,
    (next.shared.sockets.writer connection).half.resumed = false

structure AllFramed (zstd : Zstd) (client : Client) : Prop where
  sized : client.Sized
  framed : ∀ connection, Framed zstd (client.shared.sockets.writer connection)

theorem AllFramed.step (all : client.AllFramed zstd) (established : Established client)
    (epochs : Epochs client) (held : WriterHeld client)
    (stopped : client.SendsStopped zstd action)
    (stepped : step zstd client action = some next) : next.AllFramed zstd := by
  refine ⟨all.sized.step stepped, fun connection => ?_⟩
  cases writerStep_of_step stepped connection with
  | silent silent => exact (all.framed connection).silent silent
  | sent sending wrote =>
      have below := Nat.lt_of_lt_of_le (sending.lt_connectionCount established epochs held)
        (connectionCount_le_of_step stepped)
      exact (all.framed connection).send (sending.sendable all.sized)
        (sendStep_of_eq wrote (stopped next stepped connection below))

theorem allFramed_of_reachable
    (reachable : (system zstd).ReachableUnder (SendsStopped zstd) client) :
    client.AllFramed zstd := by
  refine reachable.invariant ⟨fun _ => trivial, fun _ => framed_new⟩
    fun _ _ _ earlier all stopped stepped => ?_
  exact all.step (established_of_reachable earlier.always) (epochs_of_reachable earlier.always)
    (writerHeld_of_reachable earlier.always) stopped stepped

instance (zstd : Zstd) (client : Client) (action : ClientAction) :
    Decidable (client.SendsStopped zstd action) :=
  inferInstanceAs (Decidable (∀ next ∈ step zstd client action, ∀ connection < _, _))

/-- Whatever the servers it connects to send, over any number of connections, in every run
in which failed gateway sockets stay silent: the same of a client. -/
theorem client_streams_decode (zstd : Zstd) (lawful : zstd.Lawful) (client : Client)
    (reachable : (system zstd).ReachableUnder (SendsStopped zstd) client)
    (connection : ConnectionRef) (pooled : Nat → Bytes) (statistics : ConnectionStatistics) :
    Decodes zstd (client.shared.sockets.writer connection)
      (readAll zstd pooled statistics (client.shared.sockets.writer connection).half.written) :=
  ((allFramed_of_reachable reachable).framed connection).decodes lawful pooled statistics

theorem client_streams_decode_openLink :
    ∃ client : Client,
      (client.shared.sockets.writer 0).sent.map Frame.payload = [none, some [9]] ∧
        Decodes .runLength (client.shared.sockets.writer 0) (readAll .runLength (fun _ => []) .new
          (client.shared.sockets.writer 0).half.written) := by
  have executed : ((system .runLength).runChecked
      (fun client action => client.SendsStopped .runLength action) .new
      (.run .go :: connect ++ openLink 1 ++
        [.app 0 (.chunk [9]), .app 0 .go, .app 0 (.write .ok)])).any
      (fun client =>
        (client.shared.sockets.writer 0).sent.map Frame.payload = [none, some [9]]) =
          true := by decide +kernel
  rcases TransitionSystem.exists_reaches_of_runChecked executed with ⟨client, reaches, found⟩
  have reachable := reaches.mono fun _ _ passed => of_decide_eq_true passed
  exact ⟨client, of_decide_eq_true found, client_streams_decode .runLength
    Zstd.runLength_lawful client reachable 0 (fun _ => []) .new⟩

end Client

end IoGateway

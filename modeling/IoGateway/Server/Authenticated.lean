import IoGateway.Server.Admission
import IoGateway.Server.Isolation

/-! # What an unauthenticated peer gets

The verdict on a connection is that of `authenticate_client` on the bytes that its peer
sends, unless a timeout or a failed write turns it into a refusal. The peers send what
they like.
-/

namespace IoGateway

/-- The nonce that is drawn for each gateway connection, and what the peer there sends
during the handshake. -/
structure Peers where
  nonce : ConnectionRef → Nonce
  bytes : ConnectionRef → Bytes

def Peers.Responds (peers : Peers) (hmac : Hmac) (key : Bytes) (ref : ConnectionRef) : Prop :=
  ∃ packet rest, StartsWithFrame (peers.bytes ref) packet
    (hmac.compute key (peers.nonce ref).bytes) rest ∧
      packet.packetType = .gwAuthResponse ∧ packet.dataSize = 32

/-- The task of the connection has not come past `authenticate_client`. -/
def GatewayTask.Unadmitted : GatewayTask → Prop
  | .absent => True
  | .handling _ .evict => True
  | .handling _ .challengeId => True
  | .handling _ .authenticate => True
  | .rejected => True
  | _ => False

namespace GatewayServer

variable {zstd : Zstd} {server after : GatewayServer} {ref : ConnectionRef}

/-- Only a good verdict lets a connection in. -/
theorem GatewayStep.unadmitted {task next : GatewayTask} {input : Input}
    (stepped : server.GatewayStep zstd ref task input after next) (outside : task.Unadmitted) :
    next.Unadmitted ∨ input = .verdict true := by
  cases stepped with
  | handling stepped =>
      cases stepped <;> first | exact .inl trivial | exact .inr rfl | cases outside
  | exchanging => cases outside

end GatewayServer

namespace Server

variable {zstd : Zstd} {server next : Server} {action : ServerAction} {ref : ConnectionRef}

/-- A connection is let in only as `authenticate_client` does it. -/
def Authenticates (hmac : Hmac) (key : Bytes) (peers : Peers) (_ : Server) :
    ServerAction → Prop
  | .gateway ref (.verdict true) =>
      ∃ packetId, ((GatewayServer.authenticateClient hmac key (peers.nonce ref) packetId).run
        (peers.bytes ref)).value = true
  | _ => True

/-- Nothing has been written to the connection or read from it after the handshake, it has
no session, and no application's task writes to it. -/
structure Outside (ref : ConnectionRef) (server : Server) : Prop where
  task : (server.gateway ref).Unadmitted
  written : (server.shared.sockets.writer ref).half.written = []
  heard : server.shared.sockets.received ref = []
  sessions : ∀ addr session, server.shared.clientSessions.lookup addr = some session →
    session.writer ≠ ref
  senders : ∀ link, (server.app link).maySendOn ref = false

theorem outside_new (ref : ConnectionRef) : Outside ref Server.new where
  task := trivial
  written := rfl
  heard := rfl
  sessions := fun _ _ found => by cases found
  senders := fun _ => rfl

theorem unadmitted_of_step (outside : (server.gateway ref).Unadmitted)
    (refused : action ≠ .gateway ref (.verdict true))
    (stepped : step zstd server action = some next) : (next.gateway ref).Unadmitted := by
  have move := gatewayMove_of_step stepped ref
  generalize next.gateway ref = after at move ⊢
  cases move with
  | kept => exact outside
  | accepted => trivial
  | moved moved =>
      rcases moved.unadmitted outside with still | good
      · exact still
      · exact absurd (congrArg _ good) refused

theorem written_of_step (outside : Outside ref server)
    (stepped : step zstd server action = some next) :
    (next.shared.sockets.writer ref).half.written = [] := by
  cases writerStep_of_step stepped ref with
  | silent silent => exact silent.written.trans outside.written
  | sent sending =>
      have noSender : ∀ {link task}, server.app link = task → task.maySendOn ref ≠ true := by
        intro link task is may
        have senders := outside.senders link
        rw [is, may] at senders
        cases senders
      cases sending with
      | open_ point => exact absurd (decide_eq_true rfl) (noSender point)
      | regular point => exact absurd (decide_eq_true rfl) (noSender point)
      | close point => exact absurd (decide_eq_true rfl) (noSender point)
      | pong point =>
          have task := outside.task
          rw [point] at task
          exact task.elim

theorem heard_of_step (outside : Outside ref server)
    (stepped : step zstd server action = some next) :
    next.shared.sockets.received ref = [] := by
  cases receivedStep_of_step stepped with
  | kept same => exact same ▸ outside.heard
  | @received connection addr sessionId packet data _ run sockets =>
      have different : ref ≠ connection := by
        intro equal
        have task := outside.task
        rw [equal, run] at task
        exact task
      rw [sockets]
      exact (Function.update_of_ne different _ _).trans outside.heard

theorem Outside.step (outside : Outside ref server) (reachable : (system zstd).Reachable server)
    (refused : action ≠ .gateway ref (.verdict true))
    (stepped : step zstd server action = some next) : Outside ref next where
  task := unadmitted_of_step outside.task refused stepped
  written := written_of_step outside stepped
  heard := heard_of_step outside stepped
  sessions := by
    intro addr session found equal
    have held := sessionsHeld_of_reachable (.step reachable trivial stepped) addr session found
    have task := unadmitted_of_step outside.task refused stepped
    rw [equal] at held
    generalize next.gateway ref = after at held task
    cases after with
    | handling _ point => cases point <;> exact held
    | exchanging => exact task
    | _ => exact held
  senders := by
    intro link
    by_contra may
    rcases maySendOn_of_step stepped (Bool.eq_true_of_not_eq_false may) with
      before | ⟨addr, session, found, equal⟩
    · rw [outside.senders link] at before
      cases before
    · exact outside.sessions addr session found equal

/-- In every run in which connections are let in only by `authenticate_client`, whatever
their peers send and however the tasks interleave: a peer that has not answered its
challenge with the HMAC under the server's key gets no session, is sent no byte after the
handshake, is not listened to, and no application is bound to its connection. -/
theorem unauthenticated_outside (zstd : Zstd) (hmac : Hmac) (key : Bytes) (peers : Peers)
    (server : Server)
    (reachable : (system zstd).ReachableUnder (Authenticates hmac key peers) server)
    (ref : ConnectionRef) (impostor : ¬ peers.Responds hmac key ref) : Outside ref server := by
  refine reachable.invariant (outside_new ref) fun _ action _ earlier outside permitted stepped =>
    outside.step earlier.always ?_ stepped
  intro admitted
  subst admitted
  rcases permitted with ⟨packetId, accepted⟩
  exact impostor ((GatewayServer.authenticateClient_verdict hmac key (peers.nonce ref) packetId
    (peers.bytes ref)).1.mp accepted)

/-- The first peer knows the key, the second one answers with another. -/
def keyHolderAndImpostor : Peers where
  nonce := fun _ => zeroNonce
  bytes
    | 0 => responseFrame (Hmac.truncated.compute [7] zeroNonce.bytes) 1
    | _ => responseFrame (Hmac.truncated.compute [8] zeroNonce.bytes) 1

/-- An application is bound to the first peer while the second one is turned away. -/
theorem unauthenticated_outside_impostor :
    ∃ server : Server, (server.gateway 1) = .rejected ∧ server.shared.clientSessions ≠ ∅ ∧
      (server.shared.sockets.writer 0).half.written ≠ [] ∧ Outside 1 server := by
  have executed : ((system .runLength).runChecked
      (fun _ action => match action with
        | .gateway ref (.verdict true) => ((GatewayServer.authenticateClient .truncated [7]
            (keyHolderAndImpostor.nonce ref) 1).run (keyHolderAndImpostor.bytes ref)).value
        | _ => true) .new
      (oneOpenLink ++ [.acceptGateway otherClient, .gateway 1 .go, .gateway 1 .go,
        .gateway 1 (.verdict false)])).any
      (fun server => server.gateway 1 = .rejected ∧ server.shared.clientSessions ≠ ∅ ∧
        (server.shared.sockets.writer 0).half.written ≠ []) = true := by decide +kernel
  rcases TransitionSystem.exists_reaches_of_runChecked executed with ⟨server, reaches, found⟩
  rcases of_decide_eq_true found with ⟨rejected, registered, written⟩
  have reachable := reaches.mono fun server action passed =>
    show Authenticates .truncated [7] keyHolderAndImpostor server action by
      unfold Authenticates
      split
      · exact ⟨1, passed⟩
      · trivial
  have impostor : ¬ keyHolderAndImpostor.Responds .truncated [7] 1 := fun responds =>
    absurd ((GatewayServer.authenticateClient_verdict .truncated [7] zeroNonce 1 _).1.mpr responds)
      (by decide +kernel)
  exact ⟨server, rejected, registered, written, unauthenticated_outside .runLength .truncated [7]
    keyHolderAndImpostor server reachable 1 impostor⟩

end Server

end IoGateway

import IoGateway.Acceptance
import IoGateway.ConcurrentSenders
import IoGateway.Server.Admission

/-! # Agreement of the two ends of the handshake

`gw_authenticate` and `authenticate_client` at the two ends of one connection,
and the frames that both send once they have accepted it.
-/

namespace IoGateway

open SocketProgram
open TransitionSystem (Always)

/-! ## Each end step by step -/

theorem steps_readHeader {α : Type u} (packet : PacketGW)
    (next : Option Bytes → SocketProgram α) :
    Steps (.readExact packetHeaderSize next) packet.toBytes [] (next (some packet.toBytes)) :=
  steps_readExact_of_length packet.length_toBytes next

namespace GatewayServer

variable (hmac : Hmac) (key : Bytes) (nonce : Nonce)

theorem steps_authenticateClient (packetId : UInt64) :
    Steps (authenticateClient hmac key nonce packetId) [] (challengeFrame nonce packetId)
      (receiveResponse hmac key nonce.bytes) := by
  unfold authenticateClient
  rw [nonce.length_bytes]
  exact (steps_writeAll _ _).trans (steps_writeAll _ _)

theorem steps_receiveResponse {response : Bytes} (sized : response.length = responseSize)
    (packetId : UInt64) :
    Steps (receiveResponse hmac key nonce.bytes) (responseFrame response packetId) []
      (if verifyResponse hmac key nonce.bytes response then confirm packetId
        else deny packetId) := by
  unfold receiveResponse responseFrame
  refine (steps_readHeader _ _).trans ?_
  simp only [Option.bind_some, PacketGW.fromBytes_toBytes]
  exact steps_readExact_of_length sized _

theorem steps_confirm (packetId : UInt64) :
    Steps (confirm packetId) [] (connectedFrame packetId) (.done true) :=
  (steps_writeAll _ _).trans (steps_writeAll _ _)

theorem steps_deny (packetId : UInt64) :
    Steps (deny packetId) [] (denyFrame packetId) (.done false) :=
  (steps_writeAll _ _).trans (steps_writeAll _ _)

end GatewayServer

namespace GatewayClient

variable (hmac : Hmac) (key : Bytes) (nonce : Nonce)

theorem steps_sendResponse (packetId : UInt64) :
    Steps (sendResponse hmac key nonce.bytes packetId) []
      (responseFrame (computeResponse hmac key nonce.bytes) packetId) awaitVerdict := by
  simp only [sendResponse, length_computeResponse]
  exact (steps_writeAll _ _).trans (steps_writeAll _ _)

theorem steps_gwAuthenticate (packetId challengeId : UInt64) :
    Steps (gwAuthenticate hmac key packetId) (challengeFrame nonce challengeId)
      (responseFrame (computeResponse hmac key nonce.bytes) packetId) awaitVerdict := by
  unfold gwAuthenticate challengeFrame
  refine (steps_readHeader _ _).trans ?_
  simp only [Option.bind_some, PacketGW.fromBytes_toBytes]
  exact Steps.afterRead nonce.length_bytes (steps_sendResponse hmac key nonce packetId)

theorem steps_awaitVerdict_connected (packetId : UInt64) :
    Steps awaitVerdict (connectedFrame packetId) [] (.done true) := by
  unfold awaitVerdict connectedFrame
  refine (steps_readHeader _ _).trans ?_
  simp only [Option.bind_some, PacketGW.fromBytes_toBytes]
  exact steps_readExact_of_length length_versionData _

/-- The client reads a denial to its end, the reason included. -/
theorem steps_awaitVerdict_deny (packetId : UInt64) :
    Steps awaitVerdict (denyFrame packetId) [] (.done false) := by
  unfold awaitVerdict denyFrame
  refine (steps_readHeader _ _).trans ?_
  simp only [Option.bind_some, PacketGW.fromBytes_toBytes]
  exact steps_readExact [DisconnectReason.authFailed.code] _

end GatewayClient

/-! ## Both ends -/

def thenSend (frames : Bytes) (accepted : Bool) : SocketProgram Bool :=
  if accepted then .writeAll frames fun _ => .done true else .done false

/-- A new connection: the client on the left, the server on the right. -/
def handshake (hmac : Hmac) (clientKey serverKey : Bytes) (nonce : Nonce)
    (clientId serverId : UInt64) (clientFrames serverFrames : Bytes) :
    TransitionSystem (Duplex Bool Bool) Side :=
  Duplex.system
    ((GatewayClient.gwAuthenticate hmac clientKey clientId).bind (thenSend clientFrames))
    ((GatewayServer.authenticateClient hmac serverKey nonce serverId).bind
      (thenSend serverFrames))

def Duplex.concluded (accepted : Bool) (clientFrames serverFrames : Bytes) :
    Duplex Bool Bool where
  left := .done accepted
  right := .done accepted
  toRight := if accepted then clientFrames else []
  toLeft := if accepted then serverFrames else []

section

variable (hmac : Hmac) (clientKey serverKey : Bytes) (nonce : Nonce)
  (clientId serverId : UInt64) (clientFrames serverFrames : Bytes)

theorem steps_thenSend (frames : Bytes) (accepted : Bool) :
    Steps (thenSend frames accepted) [] (if accepted then frames else []) (.done accepted) := by
  cases accepted with
  | true => exact steps_writeAll _ frames
  | false => exact .refl

def verdictFrame (packetId : UInt64) (accepted : Bool) : Bytes :=
  if accepted then connectedFrame packetId else denyFrame packetId

theorem steps_verdict (packetId : UInt64) (accepted : Bool) :
    Steps (if accepted then GatewayServer.confirm packetId else GatewayServer.deny packetId) []
      (verdictFrame packetId accepted) (.done accepted) := by
  cases accepted with
  | true => exact GatewayServer.steps_confirm packetId
  | false => exact GatewayServer.steps_deny packetId

theorem steps_awaitVerdict (packetId : UInt64) (accepted : Bool) :
    Steps GatewayClient.awaitVerdict (verdictFrame packetId accepted) [] (.done accepted) := by
  cases accepted with
  | true => exact GatewayClient.steps_awaitVerdict_connected packetId
  | false => exact GatewayClient.steps_awaitVerdict_deny packetId

/-- One complete run: challenge, response, verdict, and then the frames. -/
theorem reaches_concluded :
    let connection := handshake hmac clientKey serverKey nonce clientId serverId clientFrames
      serverFrames
    connection.Reaches Always connection.start
      (.concluded (verifyResponse hmac serverKey nonce.bytes
        (computeResponse hmac clientKey nonce.bytes)) clientFrames serverFrames) := by
  have verified := GatewayServer.steps_receiveResponse hmac serverKey nonce
    (length_computeResponse hmac clientKey nonce.bytes) clientId
  generalize verifyResponse hmac serverKey nonce.bytes
    (computeResponse hmac clientKey nonce.bytes) = accepted at verified ⊢
  let client := (GatewayClient.gwAuthenticate hmac clientKey clientId).bind
    (thenSend clientFrames)
  let server := (GatewayServer.authenticateClient hmac serverKey nonce serverId).bind
    (thenSend serverFrames)
  have challenge := Duplex.reaches_right client server
    ((GatewayServer.steps_authenticateClient hmac serverKey nonce serverId).bind
      (thenSend serverFrames))
    client [] []
  have response := Duplex.reaches_left client server
    ((GatewayClient.steps_gwAuthenticate hmac clientKey nonce clientId serverId).bind
      (thenSend clientFrames))
    ((GatewayServer.receiveResponse hmac serverKey nonce.bytes).bind (thenSend serverFrames))
    [] []
  have verdict := Duplex.reaches_right client server
    (((verified.trans (steps_verdict clientId accepted)).bind (thenSend serverFrames)).trans
      (steps_thenSend serverFrames accepted))
    (GatewayClient.awaitVerdict.bind (thenSend clientFrames)) [] []
  have conclusion := Duplex.reaches_left client server
    (((steps_awaitVerdict clientId accepted).bind (thenSend clientFrames)).trans
      (steps_thenSend clientFrames accepted))
    (.done accepted : SocketProgram Bool) (if accepted then serverFrames else []) []
  simp only [List.append_nil, List.nil_append] at challenge response verdict conclusion
  exact ((challenge.trans response).trans verdict).trans conclusion

theorem verifyResponse_computeResponse :
    verifyResponse hmac serverKey nonce.bytes (computeResponse hmac clientKey nonce.bytes) =
      decide (hmac.compute clientKey nonce.bytes = hmac.compute serverKey nonce.bytes) := by
  rw [Bool.eq_iff_iff, verifyResponse_iff, decide_eq_true_eq]
  rfl

/-- However the two ends interleave, they stop after at most so many steps, and
they stop in one state. -/
theorem run_handshake :
    let connection := handshake hmac clientKey serverKey nonce clientId serverId clientFrames
      serverFrames
    ∃ length, ∀ sides duplex, connection.run connection.start sides = some duplex →
      sides.length ≤ length ∧ (connection.Stuck duplex →
        duplex = .concluded (decide (hmac.compute clientKey nonce.bytes =
          hmac.compute serverKey nonce.bytes)) clientFrames serverFrames) := by
  have reached := reaches_concluded hmac clientKey serverKey nonce clientId serverId clientFrames
    serverFrames
  rw [verifyResponse_computeResponse] at reached
  rcases TransitionSystem.exists_run_of_reaches reached with ⟨actions, executed⟩
  refine ⟨actions.length, fun sides duplex ran => ?_⟩
  rcases Duplex.commuting.complete (Duplex.stuck_done _ _ _ _) executed ran with
    ⟨rest, completed, length⟩
  refine ⟨by omega, fun stuck => ?_⟩
  cases rest with
  | nil => exact Option.some.inj completed
  | cons side later =>
      rcases Option.bind_eq_some_iff.mp completed with ⟨next, stepped, _⟩
      cases (stuck side).symm.trans stepped

end

/-- Both ends return whether the two keys give the same response, in every
interleaving. After a success exactly the frames of the peer are left to read,
after a failure nothing, and the server gives the connection no session. -/
theorem handshake_agreement (hmac : Hmac) (clientKey serverKey : Bytes) (nonce : Nonce)
    (clientId serverId : UInt64) (zstd : Zstd) (clientCalls serverCalls : List SendCall) :
    let accepted :=
      decide (hmac.compute clientKey nonce.bytes = hmac.compute serverKey nonce.bytes)
    let frames := fun calls : List SendCall => calls.flatMap (sendGwPacket zstd).bytes
    let connection := handshake hmac clientKey serverKey nonce clientId serverId
      (frames clientCalls) (frames serverCalls)
    (∃ length, ∀ sides duplex, connection.run connection.start sides = some duplex →
      sides.length ≤ length ∧ (connection.Stuck duplex →
        duplex.left = .done accepted ∧ duplex.right = .done accepted ∧
        duplex.toRight = (if accepted then frames clientCalls else []) ∧
        duplex.toLeft = (if accepted then frames serverCalls else []))) ∧
    (zstd.Lawful → ∀ calls, (∀ call, call ∈ calls → Sendable call.1 call.2) →
      ∀ pooled statistics,
        (readAll zstd pooled statistics (frames calls)).packets.map Frame.of =
          calls.map Frame.of) ∧
    (accepted = false → ∀ (server next later : Server) ref,
      (Server.system zstd).Reachable server →
      (Server.system zstd).step server (.gateway ref (.verdict accepted)) = some next →
      (Server.system zstd).Reaches Always next later →
      ∀ addr session, later.shared.clientSessions.lookup addr = some session →
        session.writer ≠ ref) := by
  intro accepted frames connection
  refine ⟨?_, ?_, ?_⟩
  · rcases run_handshake hmac clientKey serverKey nonce clientId serverId (frames clientCalls)
      (frames serverCalls) with ⟨length, runs⟩
    refine ⟨length, fun sides duplex ran => ⟨(runs sides duplex ran).1, fun stuck => ?_⟩⟩
    rw [(runs sides duplex ran).2 stuck]
    exact ⟨rfl, rfl, rfl, rfl⟩
  · intro lawful calls sendable pooled statistics
    exact (readAll_sendGwPacket lawful calls sendable pooled statistics).1
  · intro failed server next later ref reachable stepped reaches
    rw [failed] at stepped
    exact Server.no_session_of_rejected (.step reachable trivial stepped)
      (Server.rejected_of_verdict stepped) reaches

end IoGateway

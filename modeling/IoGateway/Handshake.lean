import IoGateway.Auth
import IoGateway.Foundation.SocketProgram
import IoGateway.Packet

/-! # The handshake of a gateway connection

`authenticate_client` of the server and `gw_authenticate` of the client as
programs on their ends of a socket. The nonce and the packet identifiers drawn
on the way are arguments.
-/

namespace IoGateway

inductive DisconnectReason
  | authFailed
  | versionMismatch
  | serverFull
  | banned
  | rateLimited
  | sessionNotFound
deriving DecidableEq, Repr

def DisconnectReason.code : DisconnectReason → UInt8
  | authFailed => 0
  | versionMismatch => 1
  | serverFull => 2
  | banned => 3
  | rateLimited => 4
  | sessionNotFound => 5

def protocolVersionMajor : UInt32 := 0
def protocolVersionMinor : UInt32 := 2
def protocolVersionPatch : UInt32 := 0

/-- The protocol version as three little-endian 32-bit numbers. -/
def versionData : Bytes :=
  LittleEndian.encode 4 protocolVersionMajor.toNat ++
    LittleEndian.encode 4 protocolVersionMinor.toNat ++
    LittleEndian.encode 4 protocolVersionPatch.toNat

@[simp] theorem length_versionData : versionData.length = 12 := rfl

/-! ## The two ends -/

open SocketProgram

namespace GatewayServer

def confirm (responseId : UInt64) : SocketProgram Bool :=
  let connected := PacketGW.new .gwConnected responseId 0 (UInt16.ofNat versionData.length)
  .writeAll connected.toBytes fun written =>
    if written then .writeAll versionData .done else .done false

/-- The answer to any other response; write errors are ignored. -/
def deny (responseId : UInt64) : SocketProgram Bool :=
  let deny := PacketGW.new .gwDeny responseId 0 1
  .writeAll deny.toBytes fun _ =>
    .writeAll [DisconnectReason.authFailed.code] fun _ => .done false

/-- Step 2 and 3 of `authenticate_client`: receive the response and verify it. -/
def receiveResponse (hmac : Hmac) (key nonce : Bytes) : SocketProgram Bool :=
  .readExact packetHeaderSize fun header =>
    match header.bind PacketGW.fromBytes with
    | none => .done false
    | some packet =>
        if packet.packetType ≠ .gwAuthResponse then
          .done false
        else
          .readExact packet.dataSize.toNat fun
            | none => .done false
            | some response =>
                if verifyResponse hmac key nonce response then
                  confirm packet.packetId
                else
                  deny packet.packetId

def authenticateClient (hmac : Hmac) (key : Bytes) (nonce : Nonce) (packetId : UInt64) :
    SocketProgram Bool :=
  let challenge :=
    PacketGW.new .gwAuthChallenge packetId 0 (UInt16.ofNat nonce.bytes.length)
  .writeAll challenge.toBytes fun written =>
    if written then
      .writeAll nonce.bytes fun written =>
        if written then receiveResponse hmac key nonce.bytes else .done false
    else
      .done false

end GatewayServer

namespace GatewayClient

/-- Step 3 of `gw_authenticate`: wait for the verdict of the server. -/
def awaitVerdict : SocketProgram Bool :=
  .readExact packetHeaderSize fun header =>
    match header.bind PacketGW.fromBytes with
    | none => .done false
    | some packet =>
        match packet.packetType with
        | .gwConnected =>
            if packet.dataSize.toNat ≥ 12 then
              .readExact 12 fun
                | none => .done false
                | some version =>
                    .done (LittleEndian.decode (version.take 4) = protocolVersionMajor.toNat)
            else
              .done true
        | .gwDeny =>
            -- The reason is logged whether or not it could be read.
            if packet.dataSize > 0 then
              .readExact packet.dataSize.toNat fun _ => .done false
            else
              .done false
        | _ => .done false

/-- Step 2 of `gw_authenticate`: compute the response and send it. -/
def sendResponse (hmac : Hmac) (key nonce : Bytes) (packetId : UInt64) : SocketProgram Bool :=
  let response := computeResponse hmac key nonce
  let packet := PacketGW.new .gwAuthResponse packetId 0 (UInt16.ofNat response.length)
  .writeAll packet.toBytes fun written =>
    if written then
      .writeAll response fun written => if written then awaitVerdict else .done false
    else
      .done false

def gwAuthenticate (hmac : Hmac) (key : Bytes) (packetId : UInt64) : SocketProgram Bool :=
  .readExact packetHeaderSize fun header =>
    match header.bind PacketGW.fromBytes with
    | none => .done false
    | some packet =>
        if packet.packetType ≠ .gwAuthChallenge then
          .done false
        else if packet.dataSize.toNat ≠ nonceSize then
          .done false
        else
          .readExact packet.dataSize.toNat fun
            | none => .done false
            | some nonce => sendResponse hmac key nonce packetId

end GatewayClient

/-! ## The frames of the handshake -/

/-- A stream begins with a complete frame, whatever the frame says. -/
def StartsWithFrame (stream : Bytes) (packet : PacketGW) (payload rest : Bytes) : Prop :=
  ∃ header : Bytes, header.length = packetHeaderSize ∧
    PacketGW.fromBytes header = some packet ∧
    payload.length = packet.dataSize.toNat ∧ stream = header ++ payload ++ rest

def challengeFrame (nonce : Nonce) (packetId : UInt64) : Bytes :=
  (PacketGW.new .gwAuthChallenge packetId 0 32).toBytes ++ nonce.bytes

def responseFrame (response : Bytes) (packetId : UInt64) : Bytes :=
  (PacketGW.new .gwAuthResponse packetId 0 32).toBytes ++ response

def connectedFrame (packetId : UInt64) : Bytes :=
  (PacketGW.new .gwConnected packetId 0 12).toBytes ++ versionData

def denyFrame (packetId : UInt64) : Bytes :=
  (PacketGW.new .gwDeny packetId 0 1).toBytes ++ [DisconnectReason.authFailed.code]

/-- A stream begins with one frame at most. -/
theorem StartsWithFrame.unique {stream payload rest otherPayload otherRest : Bytes}
    {packet other : PacketGW} (starts : StartsWithFrame stream packet payload rest)
    (startsOther : StartsWithFrame stream other otherPayload otherRest) :
    packet = other ∧ payload = otherPayload ∧ rest = otherRest := by
  rcases starts with ⟨header, headerSize, decoded, sized, rfl⟩
  rcases startsOther with ⟨otherHeader, otherHeaderSize, otherDecoded, otherSized, equal⟩
  rw [List.append_assoc, List.append_assoc] at equal
  rcases List.append_inj equal (headerSize.trans otherHeaderSize.symm) with ⟨rfl, later⟩
  rw [decoded] at otherDecoded
  cases otherDecoded
  rcases List.append_inj later (sized.trans otherSized.symm) with ⟨rfl, rfl⟩
  exact ⟨rfl, rfl, rfl⟩

theorem exists_packet_of_length {header : Bytes} (sized : header.length = packetHeaderSize) :
    ∃ packet, PacketGW.fromBytes header = some packet := by
  unfold PacketGW.fromBytes
  rw [if_neg (by omega)]
  exact ⟨_, rfl⟩

/-- Every stream is too short for a header or begins with one. -/
theorem exists_header {stream : Bytes} (long : packetHeaderSize ≤ stream.length) :
    ∃ (header : Bytes) (packet : PacketGW) (later : Bytes), header.length = packetHeaderSize ∧
      PacketGW.fromBytes header = some packet ∧ stream = header ++ later := by
  have sized : (stream.take packetHeaderSize).length = packetHeaderSize :=
    List.length_take_of_le long
  rcases exists_packet_of_length sized with ⟨packet, decoded⟩
  exact ⟨_, packet, _, sized, decoded, (List.take_append_drop _ _).symm⟩

end IoGateway

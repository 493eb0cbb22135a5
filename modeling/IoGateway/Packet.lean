import IoGateway.Foundation.LittleEndian
import Mathlib.Tactic.Common

/-! # Packets of the gateway exchange protocol

The 16-byte packet header of `packet.rs`: packet types with their numeric
codes, the header record and its serialization.
-/

namespace IoGateway

def packetHeaderSize : Nat := 16

def flagCompressed : UInt8 := 0x01

inductive PacketType
  | regular
  | ping
  | pong
  | open_
  | opened
  | openFail
  | close
  | closed
  | gwAuth
  | gwConnected
  | gwDeny
  | protocolVersion
  | gwAuthChallenge
  | gwAuthResponse
  | sessionRestore
deriving DecidableEq, Repr

namespace PacketType

/-- The discriminant of the `#[repr(u8)]` enumeration. -/
def code : PacketType → UInt8
  | regular => 0
  | ping => 1
  | pong => 2
  | open_ => 6
  | opened => 7
  | openFail => 8
  | close => 9
  | closed => 10
  | gwAuth => 3
  | gwConnected => 4
  | gwDeny => 5
  | protocolVersion => 11
  | gwAuthChallenge => 12
  | gwAuthResponse => 13
  | sessionRestore => 30

/-- `From<u8> for PacketType`: every undefined code reads as `regular`. -/
def ofCode (value : UInt8) : PacketType :=
  if value = 0 then regular
  else if value = 1 then ping
  else if value = 2 then pong
  else if value = 3 then gwAuth
  else if value = 4 then gwConnected
  else if value = 5 then gwDeny
  else if value = 6 then open_
  else if value = 7 then opened
  else if value = 8 then openFail
  else if value = 9 then close
  else if value = 10 then closed
  else if value = 11 then protocolVersion
  else if value = 12 then gwAuthChallenge
  else if value = 13 then gwAuthResponse
  else if value = 30 then sessionRestore
  else regular

@[simp] theorem ofCode_code (packetType : PacketType) : ofCode packetType.code = packetType := by
  cases packetType <;> rfl

end PacketType

structure PacketGW where
  packetType : PacketType
  packetId : UInt64
  linkId : UInt16
  dataSize : UInt16
  flags : UInt8
deriving DecidableEq, Repr

namespace PacketGW

def new (packetType : PacketType) (packetId : UInt64) (linkId dataSize : UInt16) : PacketGW where
  packetType := packetType
  packetId := packetId
  linkId := linkId
  dataSize := dataSize
  flags := 0

def isCompressed (packet : PacketGW) : Bool :=
  packet.flags &&& flagCompressed != 0

def setFlag (packet : PacketGW) (flag : UInt8) : PacketGW :=
  { packet with flags := packet.flags ||| flag }

/-- Serialize the header: type, identifier, link, size, flags and two reserved
zero bytes, all little-endian. -/
def toBytes (packet : PacketGW) : Bytes :=
  packet.packetType.code ::
    (LittleEndian.encode 8 packet.packetId.toNat ++
      LittleEndian.encode 2 packet.linkId.toNat ++
      LittleEndian.encode 2 packet.dataSize.toNat ++
      [packet.flags, 0, 0])

/-- Restore a packet from header bytes, `none` below the header size. -/
def fromBytes (bytes : Bytes) : Option PacketGW :=
  if bytes.length < packetHeaderSize then
    none
  else
    some {
      packetType := PacketType.ofCode (bytes.getD 0 0)
      packetId := UInt64.ofNat (LittleEndian.decode ((bytes.drop 1).take 8))
      linkId := UInt16.ofNat (LittleEndian.decode ((bytes.drop 9).take 2))
      dataSize := UInt16.ofNat (LittleEndian.decode ((bytes.drop 11).take 2))
      flags := bytes.getD 13 0 }

@[simp] theorem length_toBytes (packet : PacketGW) : packet.toBytes.length = packetHeaderSize := by
  simp [toBytes, packetHeaderSize]

@[simp] theorem isCompressed_setFlag (packet : PacketGW) :
    (packet.setFlag flagCompressed).isCompressed = true := by
  have absorbed : (packet.flags ||| flagCompressed) &&& flagCompressed = flagCompressed := by
    apply UInt8.toBitVec_inj.mp
    simp only [flagCompressed, UInt8.toBitVec_and, UInt8.toBitVec_or, UInt8.toBitVec_ofNat]
    ext index bound
    simp only [BitVec.getElem_and, BitVec.getElem_or]
    cases packet.flags.toBitVec[index] <;> simp
  have nonzero : flagCompressed ≠ 0 := by decide
  simp [isCompressed, setFlag, absorbed, nonzero]

/-- Reading a serialized header back recovers every field and ignores what follows. -/
@[simp] theorem fromBytes_toBytes_append (packet : PacketGW) (rest : Bytes) :
    fromBytes (packet.toBytes ++ rest) = some packet := by
  have long : ¬ (packet.toBytes ++ rest).length < packetHeaderSize := by
    simp
  have packetId : LittleEndian.decode (LittleEndian.encode 8 packet.packetId.toNat) =
      packet.packetId.toNat :=
    LittleEndian.decode_encode_of_lt packet.packetId.toNat_lt
  have linkId : LittleEndian.decode (LittleEndian.encode 2 packet.linkId.toNat) =
      packet.linkId.toNat :=
    LittleEndian.decode_encode_of_lt packet.linkId.toNat_lt
  have dataSize : LittleEndian.decode (LittleEndian.encode 2 packet.dataSize.toNat) =
      packet.dataSize.toNat :=
    LittleEndian.decode_encode_of_lt packet.dataSize.toNat_lt
  have pastId : (LittleEndian.encode 8 packet.packetId.toNat).drop 10 = [] :=
    List.drop_eq_nil_of_le (by simp)
  rw [fromBytes, if_neg long]
  simp [toBytes, List.getD, List.drop_append, List.getElem?_append,
    packetId, linkId, dataSize, pastId]

@[simp] theorem fromBytes_toBytes (packet : PacketGW) :
    fromBytes packet.toBytes = some packet := by
  have decoded := fromBytes_toBytes_append packet []
  rwa [List.append_nil] at decoded

end PacketGW

end IoGateway

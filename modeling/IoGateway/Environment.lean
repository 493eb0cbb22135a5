import IoGateway.Gateway

/-! # The environment of the tasks

Addresses and identifiers that come from outside, and the inputs of a step.
-/

namespace IoGateway

inductive IpAddr
  | v4 (address : BitVec 32)
  | v6 (address : BitVec 128)
deriving DecidableEq, Repr

structure SocketAddr where
  ip : IpAddr
  port : UInt16
deriving DecidableEq, Repr

def localClient : SocketAddr := ⟨.v4 0x7f000001, 9000⟩

abbrev Uuid := BitVec 128

/-- What the environment decides in a step: what a socket operation returns,
whether a connection attempt or a handshake succeeds, which entry an unordered
iteration comes to, which random identifier is drawn. -/
inductive Input
  | go
  | client (addr : SocketAddr)
  | write (outcome : WriteOutcome)
  | chunk (bytes : Bytes)
  | ended
  | verdict (accepted : Bool)
  | session (sessionId : Uuid)
  | frame (packet : PacketGW) (data : Option Bytes)
  | link (linkId : UInt16)
deriving DecidableEq

/-- The step waits for what another party sends or ends. -/
def Input.fromOutside : Input → Bool
  | .chunk _ => true
  | .ended => true
  | .frame _ _ => true
  | _ => false

/-- A decoded frame as a dispatch loop comes to it, with the outcome of the connect
or of the write to an application that it may lead to. -/
structure Delivery where
  packet : PacketGW
  data : Option Bytes
  connected : Bool
  outcome : WriteOutcome
deriving DecidableEq

def PacketType.ofLink : PacketType → Bool
  | .regular => true
  | .open_ => true
  | .opened => true
  | .openFail => true
  | .close => true
  | _ => false

/-- Not a packet about another link. -/
def Delivery.concerns (linkId : UInt16) (delivery : Delivery) : Bool :=
  !delivery.packet.packetType.ofLink || delivery.packet.linkId == linkId

theorem Delivery.concerns_eq_true {linkId : UInt16} {delivery : Delivery} :
    delivery.concerns linkId = true ↔
      delivery.packet.packetType.ofLink = false ∨ delivery.packet.linkId = linkId := by
  simp [concerns]

theorem Delivery.concerns_eq_false {linkId : UInt16} {delivery : Delivery} :
    delivery.concerns linkId = false ↔
      delivery.packet.packetType.ofLink = true ∧ delivery.packet.linkId ≠ linkId := by
  simp [concerns]

theorem Delivery.ne_gwDeny {delivery : Delivery}
    (about : delivery.packet.packetType.ofLink = true) :
    delivery.packet.packetType ≠ .gwDeny := by
  intro denied
  rw [denied] at about
  cases about

end IoGateway

import IoGateway.ConcurrentSenders
import IoGateway.Foundation.FiniteMap
import IoGateway.Link

/-! # The base gateway

The part of `Gateway` that the client and the server share: the state flag, the
registry of links, the identifier counters, and the write halves of gateway
connections. Each operation here is one critical section.

The packet counters of the whole gateway are left out of the registry model;
they belong to `IoGateway.Framing`, where they are counted.
-/

namespace IoGateway

/-- A gateway connection, by the order in which they were established. -/
abbrev ConnectionRef := Nat

structure Gateway where
  state : GatewayState
  links : FiniteMap UInt16 LinkRef
  packetIdCounter : UInt64
  linkIdCounter : UInt16
  /-- The links behind the shared references. -/
  link : LinkRef → Link
  /-- History: how many link identifiers have been handed out. -/
  allocated : Nat

namespace Gateway

def new : Gateway where
  state := .waiting
  links := ∅
  packetIdCounter := 0
  linkIdCounter := 1
  link := fun _ => Link.new 0
  allocated := 0

/-- `next_packet_id`: the counter is incremented before it is returned. -/
def nextPacketId (gateway : Gateway) : UInt64 × Gateway :=
  (gateway.packetIdCounter + 1,
    { gateway with packetIdCounter := gateway.packetIdCounter + 1 })

/-- `next_link_id`: the counter is returned before it is incremented. -/
def nextLinkId (gateway : Gateway) : UInt16 × Gateway :=
  (gateway.linkIdCounter,
    { gateway with
      linkIdCounter := gateway.linkIdCounter + 1
      allocated := gateway.allocated + 1 })

def updateLink (gateway : Gateway) (ref : LinkRef) (update : Link → Link) : Gateway :=
  { gateway with link := Function.update gateway.link ref (update (gateway.link ref)) }

def addLink (gateway : Gateway) (ref : LinkRef) : Gateway :=
  { gateway with links := gateway.links.insert (gateway.link ref).connectionId ref }

def removeLink (gateway : Gateway) (linkId : UInt16) : Option LinkRef × Gateway :=
  (gateway.links.lookup linkId, { gateway with links := gateway.links.erase linkId })

/-- Drain the registry and close every link in it, under the registry's lock. -/
def closeAllLinks (gateway : Gateway) : Gateway :=
  { gateway with
    links := ∅
    link := fun ref =>
      if ref ∈ FiniteMap.values gateway.links then (gateway.link ref).closeConnection
      else gateway.link ref }

end Gateway

/-- The write half of a gateway connection behind its mutex. `frames` is the
history of the completely written frames; the handshake comes before them. -/
structure GatewayWriter where
  half : WriteHalf
  frames : List SendCall

namespace GatewayWriter

def new : GatewayWriter := ⟨.new, []⟩

def send (zstd : Zstd) (writer : GatewayWriter) (call : SendCall) (outcome : WriteOutcome) :
    Option GatewayWriter :=
  (writer.half.writeAll ((sendGwPacket zstd).bytes call) outcome).map fun half =>
    match outcome with
    | .ok => { half := half, frames := writer.frames ++ [call] }
    | .failed _ => { writer with half := half }

def shutdown (writer : GatewayWriter) : GatewayWriter :=
  { writer with half := writer.half.shutdown }

def peerReset (writer : GatewayWriter) : GatewayWriter :=
  { writer with half := writer.half.peerReset }

structure Silent (before after : GatewayWriter) : Prop where
  written : after.half.written = before.half.written
  frames : after.frames = before.frames
  failed : after.half.failed = before.half.failed
  dead : before.half.dead = true → after.half.dead = true

variable {zstd : Zstd} {writer after : GatewayWriter} {call : SendCall}
  {outcome : WriteOutcome}

theorem Silent.refl (writer : GatewayWriter) : writer.Silent writer := ⟨rfl, rfl, rfl, id⟩

theorem silent_shutdown (writer : GatewayWriter) : writer.Silent writer.shutdown :=
  ⟨rfl, rfl, rfl, fun _ => rfl⟩

theorem silent_peerReset (writer : GatewayWriter) : writer.Silent writer.peerReset :=
  ⟨rfl, rfl, rfl, fun _ => by simp [peerReset, WriteHalf.peerReset, WriteHalf.dead]⟩

theorem frames_prefix_of_send (sent : writer.send zstd call outcome = some after) :
    writer.frames <+: after.frames := by
  rcases Option.map_eq_some_iff.mp sent with ⟨half, wrote, equal⟩
  cases outcome with
  | ok =>
      subst equal
      exact List.prefix_append _ _
  | failed accepted =>
      subst equal
      exact List.prefix_refl _

theorem bytes_ne_nil (zstd : Zstd) (call : SendCall) : (sendGwPacket zstd).bytes call ≠ [] := by
  intro empty
  have size := (preparePacket zstd call.1 call.2).length_bytes
  rw [show (preparePacket zstd call.1 call.2).bytes = [] from empty] at size
  exact absurd size (by simp [PreparedPacket.totalBytes, packetHeaderSize]; omega)

theorem exists_send (zstd : Zstd) (writer : GatewayWriter) (call : SendCall) :
    ∃ outcome after, writer.send zstd call outcome = some after := by
  rcases writer.half.exists_writeAll ((sendGwPacket zstd).bytes call) with ⟨outcome, half, wrote⟩
  exact ⟨outcome, _, Option.map_eq_some_iff.mpr ⟨half, wrote, rfl⟩⟩

/-- A dead writer stays dead and completes no further frame. -/
theorem send_of_dead (sent : writer.send zstd call outcome = some after)
    (dead : writer.half.dead = true) :
    after.frames = writer.frames ∧ after.half.dead = true := by
  rcases Option.map_eq_some_iff.mp sent with ⟨half, wrote, equal⟩
  cases outcome with
  | ok =>
      rw [WriteHalf.alive_of_writeAll (bytes_ne_nil zstd call) wrote] at dead
      cases dead
  | failed accepted =>
      subst equal
      rw [(WriteHalf.writeAll_failed_eq_some.mp wrote).2]
      exact ⟨rfl, dead⟩

end GatewayWriter

/-- The gateway connections behind their shared references. `received` is the
history of the frames that were read from each of them. -/
structure GatewaySockets where
  writer : ConnectionRef → GatewayWriter
  received : ConnectionRef → List SendCall

namespace GatewaySockets

def new : GatewaySockets := ⟨fun _ => .new, fun _ => []⟩

def updateWriter (sockets : GatewaySockets) (ref : ConnectionRef)
    (update : GatewayWriter → GatewayWriter) : GatewaySockets :=
  { sockets with
    writer := Function.update sockets.writer ref (update (sockets.writer ref)) }

def send (zstd : Zstd) (sockets : GatewaySockets) (ref : ConnectionRef) (call : SendCall)
    (outcome : WriteOutcome) : Option GatewaySockets :=
  ((sockets.writer ref).send zstd call outcome).map fun after =>
    sockets.updateWriter ref fun _ => after

def receive (sockets : GatewaySockets) (ref : ConnectionRef) (frame : SendCall) :
    GatewaySockets :=
  { sockets with
    received := Function.update sockets.received ref (sockets.received ref ++ [frame]) }

variable {zstd : Zstd} {sockets after : GatewaySockets} {ref connection : ConnectionRef}
  {call : SendCall} {outcome : WriteOutcome}

theorem exists_send (zstd : Zstd) (sockets : GatewaySockets) (ref : ConnectionRef)
    (call : SendCall) : ∃ outcome after, sockets.send zstd ref call outcome = some after := by
  rcases (sockets.writer ref).exists_send zstd call with ⟨outcome, after, sent⟩
  exact ⟨outcome, _, Option.map_eq_some_iff.mpr ⟨after, sent, rfl⟩⟩

theorem send_own (sent : sockets.send zstd ref call outcome = some after) :
    (sockets.writer ref).send zstd call outcome = some (after.writer ref) := by
  rcases Option.map_eq_some_iff.mp sent with ⟨written, wrote, rfl⟩
  simpa [updateWriter] using wrote

theorem send_other (sent : sockets.send zstd ref call outcome = some after)
    (different : connection ≠ ref) : after.writer connection = sockets.writer connection := by
  rcases Option.map_eq_some_iff.mp sent with ⟨written, -, rfl⟩
  exact Function.update_of_ne different _ _

theorem send_received (sent : sockets.send zstd ref call outcome = some after) :
    after.received = sockets.received := by
  rcases Option.map_eq_some_iff.mp sent with ⟨written, -, rfl⟩
  rfl

theorem silent_updateWriter {update : GatewayWriter → GatewayWriter}
    (silent : ∀ writer : GatewayWriter, writer.Silent (update writer)) :
    (sockets.writer connection).Silent ((sockets.updateWriter ref update).writer connection) := by
  simp only [updateWriter]
  by_cases equal : connection = ref
  · subst equal
    rw [Function.update_self]
    exact silent _
  · rw [Function.update_of_ne equal]
    exact .refl _

end GatewaySockets

end IoGateway

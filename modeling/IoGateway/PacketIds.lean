import IoGateway.Foundation.Tickets
import IoGateway.Senders

/-! # Packet identifiers on the gateway connections

`next_packet_id` hands out the identifiers of all packets. A task draws one, and it sends
one packet under it or none.
-/

namespace IoGateway

def packetIds (sockets : GatewaySockets) (connection : ConnectionRef) : List Nat :=
  (sockets.writer connection).sent.map fun frame => frame.packetId.toNat

variable {zstd : Zstd} {sockets after : GatewaySockets} {ref : ConnectionRef} {call : SendCall}
  {outcome : WriteOutcome}

theorem packetIds_of_silent (silent : WritersSilent sockets.writer after.writer) :
    packetIds after = packetIds sockets := by
  funext connection
  simp only [packetIds, GatewayWriter.sent, (silent connection).frames]

theorem packetIds_of_send (sent : sockets.send zstd ref call outcome = some after) :
    packetIds after = packetIds sockets ∨ packetIds after = Function.update (packetIds sockets)
      ref (packetIds sockets ref ++ [call.1.packetId.toNat]) := by
  have others : ∀ {connection}, connection ≠ ref →
      packetIds after connection = packetIds sockets connection := by
    intro connection different
    simp only [packetIds, GatewaySockets.send_other sent different]
  rcases Option.map_eq_some_iff.mp (GatewaySockets.send_own sent) with ⟨half, _, equal⟩
  cases outcome with
  | ok =>
      right
      funext connection
      by_cases own : connection = ref
      · subst own
        rw [Function.update_self]
        simp [packetIds, GatewayWriter.sent, ← equal, Frame.of]
      · rw [Function.update_of_ne own, others own]
  | failed accepted =>
      left
      funext connection
      by_cases own : connection = ref
      · subst own
        simp only [packetIds, GatewayWriter.sent, ← equal]
      · exact others own

def Gateway.PacketIdsLeft (gateway : Gateway) : Prop :=
  gateway.packetIdCounter.toNat + 1 < 2 ^ 64

instance (gateway : Gateway) : Decidable gateway.PacketIdsLeft :=
  inferInstanceAs (Decidable (_ < _))

namespace Gateway

variable {gateway : Gateway}

theorem toNat_nextPacketId (left : gateway.PacketIdsLeft) :
    gateway.nextPacketId.2.packetIdCounter.toNat = gateway.packetIdCounter.toNat + 1 ∧
      gateway.nextPacketId.1.toNat = gateway.packetIdCounter.toNat + 1 := by
  have next : (gateway.packetIdCounter + 1).toNat = gateway.packetIdCounter.toNat + 1 := by
    rw [UInt64.toNat_add]
    exact Nat.mod_eq_of_lt left
  exact ⟨next, next⟩

end Gateway

/-! ## Identifiers as tickets -/

variable {Holder : Type*}

def ticketsOf (base : Gateway) (sockets : GatewaySockets) (held : Holder → Option Nat) :
    Tickets Holder ConnectionRef where
  counter := base.packetIdCounter.toNat
  held := held
  used := packetIds sockets

variable [DecidableEq Holder] {base next : Gateway} {holder : Holder}
  {held holding : Holder → Option Nat}

/-- A task lets go of its identifier or holds none, and nothing is sent. -/
theorem ticketsOf_quiet (counter : base.packetIdCounter.toNat ≤ next.packetIdCounter.toNat)
    (lost : holding = Function.update held holder none)
    (used : packetIds after = packetIds sockets) :
    (ticketsOf base sockets held).Step (ticketsOf next after holding) := by
  refine .quiet counter ?_ used
  intro other
  change holding other = held other ∨ holding other = none
  rw [lost]
  by_cases own : other = holder
  · subst own
    exact .inr (Function.update_self ..)
  · exact .inl (Function.update_of_ne own ..)

theorem ticketsOf_drawn (left : base.PacketIdsLeft) (drew : next = base.nextPacketId.2)
    (drawn : holding = Function.update held holder (some base.nextPacketId.1.toNat))
    (used : packetIds after = packetIds sockets) :
    (ticketsOf base sockets held).Step (ticketsOf next after holding) := by
  rcases Gateway.toNat_nextPacketId left with ⟨counter, value⟩
  rw [value] at drawn
  refine .drawn ?_ drawn used
  simp only [ticketsOf, drew, counter]

theorem ticketsOf_sent (sent : sockets.send zstd ref call outcome = some after)
    (same : next = base) (drawn : held holder = some call.1.packetId.toNat)
    (lost : holding = Function.update held holder none) :
    (ticketsOf base sockets held).Step (ticketsOf next after holding) := by
  subst same
  rcases packetIds_of_send sent with unchanged | used
  · exact ticketsOf_quiet (Nat.le_refl _) lost unchanged
  · exact .used drawn rfl lost used

end IoGateway

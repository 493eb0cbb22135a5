import IoGateway.Client.Multiplexing
import IoGateway.HeaderCodec
import IoGateway.Server.Multiplexing
import IoGateway.StreamDecoding

/-! # Frames of undefined types

The type byte of a frame on its way through the decoder and the two dispatch loops to
the links. An undefined byte reads as that of a `Regular` frame, and the default branches
of the dispatch loops never see it.
-/

namespace IoGateway

def Writes (before after : LinkRef → Link) : Prop :=
  ∃ ref bytes, bytes ≠ [] ∧
    (after ref).writer.written = (before ref).writer.written ++ bytes

def Spares (before after : LinkRef → Link) : Prop :=
  ∀ ref, (after ref).state = (before ref).state ∧
    (after ref).writer.written = (before ref).writer.written

/-- A frame with this type byte spares the links if the type is undefined, and only
`Regular` frames reach an application. -/
structure RespectsType (code : UInt8) (before after : LinkRef → Link) : Prop where
  undefined : PacketType.isDefined code = false → Spares before after
  regular : Writes before after → code = PacketType.regular.code

def HasReceiver (gateway : Gateway) (packet : PacketGW) (data : Option Bytes) : Prop :=
  ∃ ref payload, data = some payload ∧ payload ≠ [] ∧
    gateway.links.lookup packet.linkId = some ref ∧ (gateway.link ref).state = .connected ∧
    (gateway.link ref).writer.dead = false

inductive FrameEffect (gateway : Gateway) (packet : PacketGW) (data : Option Bytes) :
    (LinkRef → Link) → Prop
  | control {after : LinkRef → Link} (type : packet.packetType ≠ .regular)
      (unwritten : ¬ Writes gateway.link after) : FrameEffect gateway packet data after
  | kept : FrameEffect gateway packet data gateway.link
  | written {ref : LinkRef} {payload : Bytes} {outcome : WriteOutcome} {written : Link}
      (type : packet.packetType = .regular) (carried : data = some payload)
      (found : gateway.links.lookup packet.linkId = some ref)
      (sent : (gateway.link ref).SendPacketStep payload outcome written) :
      FrameEffect gateway packet data (Function.update gateway.link ref written)

variable {gateway : Gateway} {packet : PacketGW} {data : Option Bytes}

theorem Spares.refl (links : LinkRef → Link) : Spares links links := fun _ => ⟨rfl, rfl⟩

theorem Spares.not_writes {before after : LinkRef → Link} (spares : Spares before after) :
    ¬ Writes before after := by
  rintro ⟨ref, bytes, nonempty, written⟩
  rw [(spares ref).2] at written
  exact nonempty (List.append_right_eq_self.mp written.symm)

theorem not_writes_update {before : LinkRef → Link} {ref : LinkRef} {link : Link}
    (grown : ∀ bytes, link.writer.written = (before ref).writer.written ++ bytes → bytes = []) :
    ¬ Writes before (Function.update before ref link) := by
  rintro ⟨other, bytes, nonempty, written⟩
  by_cases equal : other = ref
  · subst equal
    rw [Function.update_self] at written
    exact nonempty (grown bytes written)
  · rw [Function.update_of_ne equal] at written
    exact nonempty (List.append_right_eq_self.mp written.symm)

theorem not_writes_update_same {before : LinkRef → Link} {ref : LinkRef} {link : Link}
    (same : link.writer.written = (before ref).writer.written) :
    ¬ Writes before (Function.update before ref link) := by
  apply not_writes_update
  intro bytes written
  rw [same] at written
  exact List.append_right_eq_self.mp written.symm

/-! ## The two dispatch loops -/

namespace GatewayServer

variable {zstd : Zstd} {connection : ConnectionRef} {addr : SocketAddr} {sessionId : Uuid}
variable {delivery : Delivery} {server final : GatewayServer}

theorem frameEffect_of_handles
    (handles : (dispatcher zstd connection addr sessionId).handles server delivery final) :
    FrameEffect server.base delivery.packet delivery.data final.base.link := by
  have serves : Serves zstd connection addr sessionId delivery
    (server.updateSockets (server.sockets.receive connection (delivery.packet, delivery.data)))
    (dispatch delivery.packet delivery.data) final := handles
  have removing : delivery.packet.packetType ≠ .regular →
      Serves zstd connection addr sessionId delivery
        (server.updateSockets (server.sockets.receive connection (delivery.packet, delivery.data)))
        (.removing (.route delivery.packet.linkId)) final →
      FrameEffect server.base delivery.packet delivery.data final.base.link := by
    intro other removes
    rcases forgotten_of_removing removes with ⟨_, equal⟩ | ⟨ref, found, equal⟩
    · rw [equal]
      exact .kept
    · rw [equal]
      exact .control other (not_writes_update_same rfl)
  unfold dispatch at serves
  cases type : delivery.packet.packetType with
  | ping =>
      simp only [type] at serves
      rw [(sameLinks_of_pong serves.handles).link]
      exact .kept
  | regular =>
      simp only [type] at serves
      cases carried : delivery.data with
      | none =>
          rw [carried] at serves
          rw [serves.eq_of_head trivial]
          exact .kept
      | some payload =>
          rw [carried] at serves
          rcases written_or_absent_of_regular serves with
            ⟨_, equal⟩ | ⟨ref, written, found, sent, equal⟩
          · rw [equal]
            exact .kept
          · rw [equal]
            exact .written type rfl found (Link.sendPacketStep_of_eq sent)
  | opened =>
      simp only [type] at serves
      rcases updated_or_absent_of_opened serves with ⟨_, equal⟩ | ⟨ref, found, equal⟩
      · rw [equal]
        exact .kept
      · rw [equal]
        exact .control (by simp [type]) (not_writes_update_same rfl)
  | openFail =>
      simp only [type] at serves
      exact removing (by simp [type]) serves
  | close =>
      simp only [type] at serves
      exact removing (by simp [type]) serves
  | _ =>
      simp only [type] at serves
      rw [serves.eq_of_head trivial]
      exact .kept

end GatewayServer

namespace Client

variable {zstd : Zstd} {connection : ConnectionRef} {delivery : Delivery} {client final : Client}

theorem frameEffect_of_handles
    (handles : (dispatcher zstd connection).handles client delivery final) :
    FrameEffect client.shared.base delivery.packet delivery.data final.shared.base.link := by
  cases handled_of_handles handles with
  | control _ _ _ same =>
      rw [same.link]
      exact .kept
  | refused _ _ same =>
      rw [same.link]
      exact .kept
  | empty _ _ same =>
      rw [same.link]
      exact .kept
  | absent _ _ same =>
      rw [same.link]
      exact .kept
  | opened type _ _ link _ =>
      rw [link]
      -- The new link has written nothing, whatever was in its place.
      refine .control (by simp [type]) (not_writes_update fun bytes written => ?_)
      exact (List.append_eq_nil_iff.mp written.symm).2
  | closed type found links link =>
      rw [link]
      exact .control (by simp [type]) (not_writes_update_same rfl)
  | written type carried found sent links link =>
      rw [link]
      exact .written type carried found (Link.sendPacketStep_of_eq sent)

end Client

/-! ## From the type byte to the links -/

theorem PacketType.ofCode_of_undefined {code : UInt8} (undefined : isDefined code = false) :
    ofCode code = .regular := by
  have zero : (ofCode code).code = PacketType.regular.code := by
    rw [code_ofCode, undefined]
    rfl
  rw [← ofCode_code (ofCode code), zero, ofCode_code]

theorem WireFrame.packetType {zstd : Zstd} {bytes : Bytes} {frame : PacketGW × Option Bytes}
    (wire : WireFrame zstd bytes frame) :
    frame.1.packetType = PacketType.ofCode (bytes.getD 0 0) := by
  have head : ∀ {header : Bytes} {packet : PacketGW}, PacketGW.fromBytes header = some packet →
      packet.packetType = PacketType.ofCode (header.getD 0 0) := by
    intro header packet decoded
    unfold PacketGW.fromBytes at decoded
    split at decoded
    · cases decoded
    · cases decoded
      rfl
  cases wire with
  | empty sized decoded => exact head decoded
  | @loaded header raw data packet sized decoded =>
      rw [List.getD_append _ _ _ _ (by rw [sized]; decide)]
      exact head decoded

theorem packetType_of_read {zstd : Zstd} {pooled stream : Bytes}
    {statistics : ConnectionStatistics}
    (read : (readGwPacket zstd pooled statistics stream).packet = some (packet, data)) :
    packet.packetType = PacketType.ofCode (stream.getD 0 0) := by
  rcases readGwPacket_sound read with ⟨bytes, wire, split⟩
  rw [split, List.getD_append _ _ _ _ (by rw [wire.length]; unfold packetHeaderSize; omega)]
  exact wire.packetType

theorem FrameEffect.spares {code : UInt8} {after : LinkRef → Link}
    (effect : FrameEffect gateway packet data after)
    (type : packet.packetType = PacketType.ofCode code)
    (undefined : PacketType.isDefined code = false) (apart : ¬ HasReceiver gateway packet data) :
    Spares gateway.link after := by
  cases effect with
  | control other => exact absurd (type.trans (PacketType.ofCode_of_undefined undefined)) other
  | kept => exact .refl _
  | @written ref payload outcome written _ carried found sent =>
      have own : written.state = (gateway.link ref).state ∧
          written.writer.written = (gateway.link ref).writer.written := by
        refine ⟨sent.state, ?_⟩
        cases sent with
        | dropped => rfl
        | sent connected alive =>
            have empty : payload = [] := by
              by_contra nonempty
              exact apart ⟨ref, payload, carried, nonempty, found, connected,
                Bool.eq_false_iff.mpr fun dead => nonempty (alive dead)⟩
            rw [empty]
            exact List.append_nil _
        | @failed accepted connected partially dead =>
            have nonempty : payload ≠ [] := List.ne_nil_of_length_pos (by omega)
            have broken : (gateway.link ref).writer.dead = true := by
              by_contra alive
              exact apart ⟨ref, payload, carried, nonempty, found, connected,
                Bool.eq_false_iff.mpr alive⟩
            rw [dead broken]
            exact List.append_nil _
      intro other
      by_cases equal : other = ref
      · subst equal
        rw [Function.update_self]
        exact own
      · rw [Function.update_of_ne equal]
        exact ⟨rfl, rfl⟩

theorem FrameEffect.respectsType {code : UInt8} {after : LinkRef → Link}
    (effect : FrameEffect gateway packet data after)
    (type : packet.packetType = PacketType.ofCode code)
    (apart : ¬ (PacketType.isDefined code = false ∧ HasReceiver gateway packet data)) :
    RespectsType code gateway.link after := by
  have spares : PacketType.isDefined code = false → Spares gateway.link after := fun undefined =>
    effect.spares type undefined fun receiver => apart ⟨undefined, receiver⟩
  refine ⟨spares, fun writes => ?_⟩
  cases defined : PacketType.isDefined code with
  | false => exact absurd writes (spares defined).not_writes
  | true =>
      have regular : packet.packetType = .regular := by
        cases effect with
        | control _ unwritten => exact absurd writes unwritten
        | kept => exact absurd writes (Spares.refl _).not_writes
        | written type => exact type
      have kept := PacketType.code_ofCode code
      rw [if_pos defined, ← type, regular] at kept
      exact kept.symm

theorem not_respectsType {code : UInt8} {after : LinkRef → Link}
    (undefined : PacketType.isDefined code = false) (writes : Writes gateway.link after) :
    ¬ RespectsType code gateway.link after :=
  fun respects => (respects.undefined undefined).not_writes writes

/-! ## Payloads that are written -/

theorem GatewayServer.exists_writes {server : GatewayServer} (zstd : Zstd)
    (connection : ConnectionRef) (addr : SocketAddr) (sessionId : Uuid)
    (type : packet.packetType = .regular) (receiver : HasReceiver server.base packet data) :
    ∃ final, (dispatcher zstd connection addr sessionId).handles server
        ⟨packet, data, true, .ok⟩ final ∧ Writes server.base.link final.base.link := by
  rcases receiver with ⟨ref, payload, carried, nonempty, found, connected, alive⟩
  let received := server.updateSockets (server.sockets.receive connection (packet, data))
  rcases Link.exists_sent payload connected alive with ⟨written, sent, grown⟩
  have looked : received.clientExchange zstd connection addr sessionId
      (.regularLookup packet.linkId payload) .go =
        some (received, .exchanging addr sessionId (.regularWrite ref payload)) := by
    simp [clientExchange, received, updateSockets, found]
  have wrote : received.clientExchange zstd connection addr sessionId
      (.regularWrite ref payload) (.write .ok) =
        some (received.updateLink ref fun _ => written, .exchanging addr sessionId .receive) := by
    simp [clientExchange, received, updateSockets, sent]
  have point : dispatch packet data = .regularLookup packet.linkId payload := by
    simp [dispatch, type, carried]
  have serves : Serves zstd connection addr sessionId ⟨packet, data, true, .ok⟩ received
      (dispatch packet data) (received.updateLink ref fun _ => written) := by
    rw [point]
    exact .step id trivial looked (.step id rfl wrote (.done trivial))
  refine ⟨_, serves, ref, payload, nonempty, ?_⟩
  simpa [updateLink, updateBase, Gateway.updateLink] using grown

theorem Client.exists_writes {client : Client} (zstd : Zstd) {connection : ConnectionRef}
    (running : client.run = .onConnection connection (.exchanging .receive))
    (type : packet.packetType = .regular)
    (receiver : HasReceiver client.shared.base packet data) :
    ∃ final, (dispatcher zstd connection).handles client ⟨packet, data, true, .ok⟩ final ∧
      Writes client.shared.base.link final.shared.base.link := by
  rcases receiver with ⟨ref, payload, carried, nonempty, found, connected, alive⟩
  let received := client.exchange connection
    (client.shared.updateSockets (client.shared.sockets.receive connection (packet, data)))
    (.forward packet.linkId payload)
  have dispatched : client.gatewayExchange zstd connection .receive (.frame packet data) =
      some received := by
    simp [gatewayExchange, GatewayClient.dispatch, type, carried, received]
  rcases Link.exists_sent payload connected alive with ⟨written, sent, grown⟩
  have wrote : received.gatewayExchange zstd connection (.forward packet.linkId payload)
      (.write .ok) = some (received.exchange connection
        (received.shared.updateLink ref fun _ => written) .receive) := by
    simp [gatewayExchange, GatewayClient.forwardToApp, received, exchange,
      GatewayClient.updateSockets, found, sent]
  refine ⟨_, ⟨running, received, dispatched, .step rfl (by simp) ?_ wrote
    (.done fun point again => ?_)⟩, ref, payload, nonempty, ?_⟩
  · intro outcome same
    cases same
    rfl
  · cases again
    rfl
  · simpa [exchange, GatewayClient.updateLink, GatewayClient.updateBase, Gateway.updateLink]
      using grown

/-- A frame that either loop reads respects its type, whatever its handling comes to,
exactly when it is not one of an undefined type with bytes for a connected link. -/
theorem respects_type_iff (zstd : Zstd) (pooled : Bytes) (statistics : ConnectionStatistics)
    (stream : Bytes) (packet : PacketGW) (data : Option Bytes)
    (read : (readGwPacket zstd pooled statistics stream).packet = some (packet, data)) :
    (∀ connection addr sessionId server,
      (∀ connected outcome final, (GatewayServer.dispatcher zstd connection addr sessionId).handles
          server ⟨packet, data, connected, outcome⟩ final →
        RespectsType (stream.getD 0 0) server.base.link final.base.link) ↔
      ¬ (PacketType.isDefined (stream.getD 0 0) = false ∧ HasReceiver server.base packet data)) ∧
    ∀ connection client, client.run = .onConnection connection (.exchanging .receive) →
      ((∀ connected outcome final, (Client.dispatcher zstd connection).handles
          client ⟨packet, data, connected, outcome⟩ final →
        RespectsType (stream.getD 0 0) client.shared.base.link final.shared.base.link) ↔
      ¬ (PacketType.isDefined (stream.getD 0 0) = false ∧
        HasReceiver client.shared.base packet data)) := by
  have type := packetType_of_read read
  have spliced : PacketType.isDefined (stream.getD 0 0) = false →
      packet.packetType = .regular := fun undefined =>
    type.trans (PacketType.ofCode_of_undefined undefined)
  constructor
  · intro connection addr sessionId server
    constructor
    · rintro respects ⟨undefined, receiver⟩
      rcases GatewayServer.exists_writes zstd connection addr sessionId (spliced undefined) receiver
        with ⟨final, handles, writes⟩
      exact not_respectsType undefined writes (respects true .ok final handles)
    · intro apart connected outcome final handles
      exact (GatewayServer.frameEffect_of_handles handles).respectsType type apart
  · intro connection client running
    constructor
    · rintro respects ⟨undefined, receiver⟩
      rcases Client.exists_writes zstd running (spliced undefined) receiver
        with ⟨final, handles, writes⟩
      exact not_respectsType undefined writes (respects true .ok final handles)
    · intro apart connected outcome final handles
      exact (Client.frameEffect_of_handles handles).respectsType type apart

def foreignFrame : Bytes := 99 :: (PacketGW.new .regular 1 1 1).toBytes.tail ++ [5]

theorem read_foreignFrame : (readGwPacket .runLength [] .new foreignFrame).packet =
    some (PacketGW.new .regular 1 1 1, some [5]) := by
  decide +kernel

theorem respects_type_iff_unreceived :
    (∀ connected outcome final,
      (GatewayServer.dispatcher .runLength 0 localClient 7).handles .new
          ⟨PacketGW.new .regular 1 1 1, some [5], connected, outcome⟩ final →
        RespectsType 99 GatewayServer.new.base.link final.base.link) ∧
    ∀ connected outcome final, (Client.dispatcher .runLength 0).handles
        { Client.new with run := .onConnection 0 (.exchanging .receive) }
          ⟨PacketGW.new .regular 1 1 1, some [5], connected, outcome⟩ final →
      RespectsType 99 Client.new.shared.base.link final.shared.base.link := by
  have both := respects_type_iff .runLength [] .new foreignFrame _ _ read_foreignFrame
  have absent : ¬ HasReceiver Gateway.new (PacketGW.new .regular 1 1 1) (some [5]) := by
    rintro ⟨ref, payload, _, _, found, _⟩
    cases found
  exact ⟨(both.1 0 localClient 7 .new).mpr fun spliced => absent spliced.2,
    (both.2 0 { Client.new with run := .onConnection 0 (.exchanging .receive) } rfl).mpr
      fun spliced => absent spliced.2⟩

/-- The byte reaches the application of a link that a client has opened. -/
theorem undefined_type_written :
    ¬ ∀ (server : Server) (final : GatewayServer) (stream : Bytes) (packet : PacketGW)
      (data : Option Bytes), (Server.system .runLength).Reachable server →
      (readGwPacket .runLength [] .new stream).packet = some (packet, data) →
      (GatewayServer.dispatcher .runLength 0 localClient 7).handles server.shared
        ⟨packet, data, true, .ok⟩ final →
      RespectsType (stream.getD 0 0) server.shared.base.link final.base.link := by
  intro respects
  have executed : ((Server.system .runLength).runChecked (fun _ _ => true) .new
      (Server.oneOpenLink ++ [.gateway 0 (.frame (PacketGW.new .opened 1 1 0) none),
        .gateway 0 .go, .gateway 0 .go])).any (fun server => decide (
      server.shared.base.links.lookup 1 = some 0 ∧
        (server.shared.base.link 0).state = .connected ∧
        (server.shared.base.link 0).writer.dead = false)) = true := by
    decide +kernel
  rcases TransitionSystem.exists_reaches_of_runChecked executed with ⟨server, reaches, found⟩
  rcases of_decide_eq_true found with ⟨registered, connected, alive⟩
  have receiver : HasReceiver server.shared.base (PacketGW.new .regular 1 1 1) (some [5]) :=
    ⟨0, [5], rfl, by simp, registered, connected, alive⟩
  rcases GatewayServer.exists_writes .runLength 0 localClient 7 rfl receiver
    with ⟨final, handles, writes⟩
  exact not_respectsType (by decide) writes
    (respects server final foreignFrame _ _ reaches.always read_foreignFrame handles)

end IoGateway

import IoGateway.Compression
import IoGateway.Consts
import IoGateway.Packet

/-! # Frames on a gateway connection

What `send_gw_packet` puts on the wire and what `read_gw_packet` takes off it.
The lock around the socket is modelled in `IoGateway.ConcurrentSenders`; here a
frame is one byte string.
-/

namespace IoGateway

/-! ## Sending -/

/-- The header and payload `send_gw_packet` writes, and whether the payload
went compressed. -/
structure PreparedPacket where
  packet : PacketGW
  payload : Option Bytes
  compressed : Bool

/-- The first half of `send_gw_packet`: compress the data when it is
worthwhile and adjust the header accordingly. -/
def preparePacket (zstd : Zstd) (packet : PacketGW) (data : Option Bytes) : PreparedPacket :=
  match data with
  | some bytes =>
      if bytes.length ≥ minCompressSize then
        let result := compressData zstd bytes
        if result.isCompressed then
          { packet := { packet.setFlag flagCompressed with
              dataSize := UInt16.ofNat result.data.length }
            payload := some result.data
            compressed := true }
        else
          ⟨packet, some bytes, false⟩
      else
        ⟨packet, some bytes, false⟩
  | none => ⟨packet, none, false⟩

namespace PreparedPacket

/-- The separate `write_all` calls made while the socket lock is held. -/
def chunks (prepared : PreparedPacket) : List Bytes :=
  prepared.packet.toBytes :: prepared.payload.toList

def bytes (prepared : PreparedPacket) : Bytes := prepared.chunks.flatten

def totalBytes (prepared : PreparedPacket) : Nat :=
  packetHeaderSize + (prepared.payload.getD []).length

/-- The statistics update after the lock is dropped. -/
def countSent (statistics : ConnectionStatistics) (prepared : PreparedPacket) :
    ConnectionStatistics :=
  statistics.incPacketsOut.addBytesOut (UInt64.ofNat prepared.totalBytes)

theorem bytes_eq (prepared : PreparedPacket) :
    prepared.bytes = prepared.packet.toBytes ++ prepared.payload.getD [] := by
  cases payload : prepared.payload <;> simp [bytes, chunks, payload]

theorem length_bytes (prepared : PreparedPacket) :
    prepared.bytes.length = prepared.totalBytes := by
  simp [bytes_eq, totalBytes]

end PreparedPacket

/-! ## Reading -/

/-- `read_exact`: overwrite a whole buffer from the stream, or fail at its end. -/
def readExact (buffer stream : Bytes) : Option (Bytes × Bytes) :=
  if buffer.length ≤ stream.length then
    some (stream.take buffer.length, stream.drop buffer.length)
  else
    none

def resize (buffer : Bytes) (size : Nat) (value : UInt8) : Bytes :=
  buffer.take size ++ List.replicate (size - buffer.length) value

structure ReadOutcome where
  packet : Option (PacketGW × Option Bytes)
  statistics : ConnectionStatistics
  rest : Bytes

/-- `read_gw_packet` on the bytes still to come from the socket up to its end
of stream. `pooled` is the buffer `acquire_buffer` hands out. -/
def readGwPacket (zstd : Zstd) (pooled : Bytes) (statistics : ConnectionStatistics)
    (stream : Bytes) : ReadOutcome :=
  match readExact (List.replicate packetHeaderSize 0) stream with
  | none => ⟨none, statistics, []⟩
  | some (header, afterHeader) =>
      match PacketGW.fromBytes header with
      | none => ⟨none, statistics, afterHeader⟩
      | some packet =>
          let counted := statistics.incPacketsIn.addBytesIn (UInt64.ofNat packetHeaderSize)
          if packet.dataSize > 0 then
            if packet.dataSize.toNat > maxDataSize then
              ⟨none, counted, afterHeader⟩
            else
              let buffer := resize pooled packet.dataSize.toNat 0
              match readExact buffer afterHeader with
              | none => ⟨none, counted, []⟩
              | some (raw, rest) =>
                  let counted := counted.addBytesIn (UInt64.ofNat raw.length)
                  match decompressData zstd raw packet.isCompressed with
                  | some data => ⟨some (packet, some data), counted, rest⟩
                  | none => ⟨none, counted, rest⟩
          else
            ⟨some (packet, none), counted, afterHeader⟩

@[simp] theorem length_resize (buffer : Bytes) (size : Nat) (value : UInt8) :
    (resize buffer size value).length = size := by
  simp only [resize, List.length_append, List.length_take, List.length_replicate]
  omega

theorem readExact_append {buffer front : Bytes} (rest : Bytes)
    (filled : buffer.length = front.length) :
    readExact buffer (front ++ rest) = some (front, rest) := by
  simp [readExact, filled]

theorem readExact_eq_some {buffer stream front rest : Bytes}
    (read : readExact buffer stream = some (front, rest)) :
    stream = front ++ rest ∧ front.length = buffer.length := by
  unfold readExact at read
  split at read
  · rename_i enough
    cases read
    exact ⟨(List.take_append_drop _ _).symm, by simp [enough]⟩
  · cases read

inductive WireFrame (zstd : Zstd) : Bytes → PacketGW × Option Bytes → Prop
  | empty {header : Bytes} {packet : PacketGW} (sized : header.length = packetHeaderSize)
      (decoded : PacketGW.fromBytes header = some packet) (dataless : packet.dataSize = 0) :
      WireFrame zstd header (packet, none)
  | loaded {header raw data : Bytes} {packet : PacketGW}
      (sized : header.length = packetHeaderSize)
      (decoded : PacketGW.fromBytes header = some packet)
      (announced : raw.length = packet.dataSize.toNat) (nonempty : raw ≠ [])
      (decompressed : decompressData zstd raw packet.isCompressed = some data) :
      WireFrame zstd (header ++ raw) (packet, some data)

theorem WireFrame.length {zstd : Zstd} {bytes : Bytes} {frame : PacketGW × Option Bytes}
    (wire : WireFrame zstd bytes frame) :
    bytes.length = packetHeaderSize + frame.1.dataSize.toNat := by
  cases wire with
  | empty sized decoded dataless =>
      rw [sized, dataless]
      rfl
  | loaded sized decoded announced nonempty decompressed =>
      rw [List.length_append, sized, announced]

theorem dataSize_le (packet : PacketGW) : packet.dataSize.toNat ≤ maxDataSize := by
  have bound := packet.dataSize.toNat_lt
  unfold maxDataSize
  omega

/-- Whatever is read stands at the front of the stream. -/
theorem readGwPacket_sound {zstd : Zstd} {pooled : Bytes} {statistics : ConnectionStatistics}
    {stream : Bytes} {frame : PacketGW × Option Bytes}
    (read : (readGwPacket zstd pooled statistics stream).packet = some frame) :
    ∃ bytes, WireFrame zstd bytes frame ∧
      stream = bytes ++ (readGwPacket zstd pooled statistics stream).rest := by
  unfold readGwPacket at read ⊢
  cases headerRead : readExact (List.replicate packetHeaderSize 0) stream with
  | none => simp [headerRead] at read
  | some parts =>
      rcases parts with ⟨header, afterHeader⟩
      rcases readExact_eq_some headerRead with ⟨streamSplit, headerLength⟩
      rw [List.length_replicate] at headerLength
      simp only [headerRead] at read ⊢
      cases decoded : PacketGW.fromBytes header with
      | none => simp [decoded] at read
      | some packet =>
          simp only [decoded] at read ⊢
          by_cases hasData : packet.dataSize > 0
          · have fits : ¬ packet.dataSize.toNat > maxDataSize := Nat.not_lt.mpr (dataSize_le packet)
            simp only [if_pos hasData, if_neg fits] at read ⊢
            cases payloadRead : readExact (resize pooled packet.dataSize.toNat 0) afterHeader with
            | none => simp [payloadRead] at read
            | some parts =>
                rcases parts with ⟨raw, rest⟩
                rcases readExact_eq_some payloadRead with ⟨payloadSplit, rawLength⟩
                rw [length_resize] at rawLength
                simp only [payloadRead] at read ⊢
                cases decompressed : decompressData zstd raw packet.isCompressed with
                | none => simp [decompressed] at read
                | some data =>
                    simp only [decompressed, Option.some.injEq] at read ⊢
                    subst read
                    have nonempty : raw ≠ [] := by
                      have positive : 0 < packet.dataSize.toNat := hasData
                      exact List.length_pos_iff.mp (by omega)
                    refine ⟨header ++ raw, .loaded headerLength decoded rawLength nonempty
                      decompressed, ?_⟩
                    rw [streamSplit, payloadSplit, List.append_assoc]
          · simp only [if_neg hasData, Option.some.injEq] at read ⊢
            subst read
            have dataless : packet.dataSize = 0 := by
              have unsigned : ¬ 0 < packet.dataSize.toNat := hasData
              exact UInt16.toNat_inj.mp (Nat.eq_zero_of_not_pos unsigned)
            exact ⟨header, .empty headerLength decoded dataless, streamSplit⟩

theorem readGwPacket_eq_some {zstd : Zstd} {pooled : Bytes}
    {statistics : ConnectionStatistics} {stream : Bytes} {packet : PacketGW}
    {data : Option Bytes}
    (read : (readGwPacket zstd pooled statistics stream).packet = some (packet, data)) :
    ∃ header raw : Bytes,
      stream = header ++ raw ++ (readGwPacket zstd pooled statistics stream).rest ∧
      header.length = packetHeaderSize ∧ raw.length = packet.dataSize.toNat ∧
      PacketGW.fromBytes header = some packet := by
  rcases readGwPacket_sound read with ⟨bytes, wire, split⟩
  cases wire with
  | empty sized decoded dataless =>
      exact ⟨bytes, [], by simpa using split, sized, by rw [dataless]; rfl, decoded⟩
  | @loaded header raw data packet sized decoded announced =>
      exact ⟨header, raw, split, sized, announced, decoded⟩

/-- A successful read takes at least a header off the stream. -/
theorem readGwPacket_rest_length {zstd : Zstd} {pooled : Bytes}
    {statistics : ConnectionStatistics} {stream : Bytes} {frame : PacketGW × Option Bytes}
    (read : (readGwPacket zstd pooled statistics stream).packet = some frame) :
    (readGwPacket zstd pooled statistics stream).rest.length + packetHeaderSize ≤
      stream.length := by
  rcases readGwPacket_eq_some read with ⟨header, raw, split, headerLength, -, -⟩
  have lengths := congrArg List.length split
  simp only [List.length_append] at lengths
  omega

structure ReadAllOutcome where
  packets : List (PacketGW × Option Bytes)
  statistics : ConnectionStatistics
  rest : Bytes

/-- Call `read_gw_packet` until it returns `None`: the packets returned, and
the bytes that were left when the last call was made. The n-th call is handed
the buffer `pooled n`. -/
def readAll (zstd : Zstd) (pooled : Nat → Bytes) (statistics : ConnectionStatistics)
    (stream : Bytes) : ReadAllOutcome :=
  let outcome := readGwPacket zstd (pooled 0) statistics stream
  match read : outcome.packet with
  | some packet =>
      let later := readAll zstd (fun index => pooled (index + 1)) outcome.statistics outcome.rest
      { later with packets := packet :: later.packets }
  | none => ⟨[], outcome.statistics, stream⟩
termination_by stream.length
decreasing_by
  have shorter := @readGwPacket_rest_length zstd (pooled 0) statistics stream packet read
  unfold packetHeaderSize at shorter
  omega

theorem readAll_of_some {zstd : Zstd} {pooled : Nat → Bytes}
    {statistics : ConnectionStatistics} {stream : Bytes} {frame : PacketGW × Option Bytes}
    (read : (readGwPacket zstd (pooled 0) statistics stream).packet = some frame) :
    readAll zstd pooled statistics stream =
      let outcome := readGwPacket zstd (pooled 0) statistics stream
      let later := readAll zstd (fun index => pooled (index + 1)) outcome.statistics outcome.rest
      { later with packets := frame :: later.packets } := by
  rw [readAll]
  split
  · rename_i found foundRead
    rw [read] at foundRead
    cases foundRead
    rfl
  · rename_i absent
    rw [read] at absent
    cases absent

theorem readAll_of_none {zstd : Zstd} {pooled : Nat → Bytes}
    {statistics : ConnectionStatistics} {stream : Bytes}
    (read : (readGwPacket zstd (pooled 0) statistics stream).packet = none) :
    readAll zstd pooled statistics stream =
      ⟨[], (readGwPacket zstd (pooled 0) statistics stream).statistics, stream⟩ := by
  rw [readAll]
  split
  · rename_i found foundRead
    rw [read] at foundRead
    cases foundRead
  · rfl

/-! ## The round trip of one frame -/

/-- The calls the gateway makes: a fresh header whose `data_size` is the length
of the data, which is absent or between one byte and one socket read. -/
structure Sendable (packet : PacketGW) (data : Option Bytes) : Prop where
  fresh : packet.flags = 0
  sized : packet.dataSize.toNat = (data.getD []).length
  nonempty : data ≠ some []
  bounded : (data.getD []).length ≤ bufferSize

structure Describes (zstd : Zstd) (prepared : PreparedPacket) (data : Option Bytes) : Prop where
  sized : prepared.packet.dataSize.toNat = (prepared.payload.getD []).length
  nonempty : prepared.payload ≠ some []
  bounded : (prepared.payload.getD []).length ≤ bufferSize
  decodes : match prepared.payload with
    | some payload => decompressData zstd payload prepared.packet.isCompressed = data ∧
        data.isSome
    | none => data = none

/-- The three header fields `send_gw_packet` never rewrites. -/
theorem preparePacket_fields (zstd : Zstd) (packet : PacketGW) (data : Option Bytes) :
    (preparePacket zstd packet data).packet.packetType = packet.packetType ∧
      (preparePacket zstd packet data).packet.packetId = packet.packetId ∧
      (preparePacket zstd packet data).packet.linkId = packet.linkId := by
  unfold preparePacket
  cases data with
  | none => exact ⟨rfl, rfl, rfl⟩
  | some bytes =>
      dsimp only
      split
      · split <;> exact ⟨rfl, rfl, rfl⟩
      · exact ⟨rfl, rfl, rfl⟩

/-- A header that announces the payload next to it, which fits one socket read. -/
structure Announces (packet : PacketGW) (payload : Option Bytes) : Prop where
  sized : packet.dataSize.toNat = (payload.getD []).length
  nonempty : payload ≠ some []
  bounded : (payload.getD []).length ≤ bufferSize

theorem Sendable.announces {packet : PacketGW} {data : Option Bytes}
    (sendable : Sendable packet data) : Announces packet data :=
  ⟨sendable.sized, sendable.nonempty, sendable.bounded⟩

/-- Whatever compression does, the header that leaves announces the payload that leaves. -/
theorem preparePacket_announces {zstd : Zstd} (lawful : zstd.Lawful) {packet : PacketGW}
    {data : Option Bytes} (announced : Announces packet data) :
    Announces (preparePacket zstd packet data).packet (preparePacket zstd packet data).payload := by
  cases data with
  | none => exact announced
  | some bytes =>
      unfold preparePacket
      by_cases long : bytes.length ≥ minCompressSize
      · cases compressed : (compressData zstd bytes).isCompressed with
        | false => simpa [long, compressed] using announced
        | true =>
            rcases compressData_compressed lawful compressed with ⟨smaller, nonempty, -⟩
            have bounded := announced.bounded
            simp only [Option.getD_some] at bounded
            have fits : (compressData zstd bytes).data.length < 2 ^ 16 := by
              unfold bufferSize at bounded
              omega
            simp only [if_pos long, compressed, if_true]
            exact {
              sized := by simpa using Nat.mod_eq_of_lt fits
              nonempty := by simpa using nonempty
              bounded := by
                simp only [Option.getD_some]
                omega }
      · simpa [long] using announced

/-- The payload that leaves decodes to the data under the header that leaves. -/
theorem preparePacket_decodes {zstd : Zstd} (lawful : zstd.Lawful) {packet : PacketGW}
    (unmarked : packet.isCompressed = false) (bytes : Bytes) :
    ∃ payload, (preparePacket zstd packet (some bytes)).payload = some payload ∧
      decompressData zstd payload (preparePacket zstd packet (some bytes)).packet.isCompressed =
        some bytes := by
  unfold preparePacket
  by_cases long : bytes.length ≥ minCompressSize
  · cases compressed : (compressData zstd bytes).isCompressed with
    | false => exact ⟨bytes, by simp [long, compressed], by simp [long, compressed, unmarked]⟩
    | true =>
        rcases compressData_compressed lawful compressed with ⟨-, -, decodes⟩
        have flagged : PacketGW.isCompressed { packet.setFlag flagCompressed with
            dataSize := UInt16.ofNat (compressData zstd bytes).data.length } = true :=
          PacketGW.isCompressed_setFlag packet
        exact ⟨(compressData zstd bytes).data, by simp [long, compressed],
          by simp [long, compressed, flagged, decodes]⟩
  · exact ⟨bytes, by simp [long], by simp [long, unmarked]⟩

theorem preparePacket_describes {zstd : Zstd} (lawful : zstd.Lawful) {packet : PacketGW}
    {data : Option Bytes} (sendable : Sendable packet data) :
    Describes zstd (preparePacket zstd packet data) data := by
  have announces := preparePacket_announces lawful sendable.announces
  have unmarked : packet.isCompressed = false := by
    simp [PacketGW.isCompressed, sendable.fresh]
  refine ⟨announces.sized, announces.nonempty, announces.bounded, ?_⟩
  cases data with
  | none => rfl
  | some bytes =>
      rcases preparePacket_decodes lawful unmarked bytes with ⟨payload, carried, decodes⟩
      simp only [carried]
      exact ⟨decodes, rfl⟩

/-- The statistics update of a successful read: one packet, the header, and
the payload as it was on the wire. -/
def countReceived (statistics : ConnectionStatistics) (prepared : PreparedPacket) :
    ConnectionStatistics :=
  let counted := statistics.incPacketsIn.addBytesIn (UInt64.ofNat packetHeaderSize)
  match prepared.payload with
  | some payload => counted.addBytesIn (UInt64.ofNat payload.length)
  | none => counted

def PreparedPacket.received (zstd : Zstd) (prepared : PreparedPacket) :
    Option (PacketGW × Option Bytes) :=
  match prepared.payload with
  | some payload => (decompressData zstd payload prepared.packet.isCompressed).map
      fun data => (prepared.packet, some data)
  | none => some (prepared.packet, none)

/-- Reading a header and the payload it announces takes exactly these bytes off the stream,
whatever the pooled buffer holds. -/
theorem readGwPacket_header_append {zstd : Zstd} {prepared : PreparedPacket} {header : Bytes}
    (length : header.length = packetHeaderSize)
    (decoded : PacketGW.fromBytes header = some prepared.packet)
    (sized : prepared.packet.dataSize.toNat = (prepared.payload.getD []).length)
    (nonempty : prepared.payload ≠ some []) (pooled : Bytes) (statistics : ConnectionStatistics)
    (rest : Bytes) :
    readGwPacket zstd pooled statistics (header ++ (prepared.payload.getD [] ++ rest)) =
      ⟨prepared.received zstd, countReceived statistics prepared, rest⟩ := by
  have headerRead := @readExact_append (List.replicate packetHeaderSize 0) header
    (prepared.payload.getD [] ++ rest) (by simp [length])
  unfold readGwPacket
  simp only [headerRead, decoded]
  cases payload : prepared.payload with
  | none =>
      simp only [payload, Option.getD_none, List.length_nil] at sized
      have empty : ¬ prepared.packet.dataSize > 0 := by
        intro positive
        have positiveNat : 0 < prepared.packet.dataSize.toNat := positive
        omega
      simp [empty, PreparedPacket.received, countReceived, payload]
  | some raw =>
      simp only [payload, Option.getD_some, ne_eq, Option.some.injEq] at sized nonempty
      have positive : prepared.packet.dataSize > 0 := by
        have length : 0 < raw.length := List.length_pos_iff.mpr nonempty
        change 0 < prepared.packet.dataSize.toNat
        omega
      have fits : ¬ prepared.packet.dataSize.toNat > maxDataSize :=
        Nat.not_lt.mpr (dataSize_le prepared.packet)
      have body := @readExact_append (resize pooled prepared.packet.dataSize.toNat 0) raw rest
        (by simp [sized])
      cases decompressed : decompressData zstd raw prepared.packet.isCompressed <;>
        simp [positive, fits, body, decompressed, PreparedPacket.received, countReceived, payload]

theorem readGwPacket_announced {zstd : Zstd} {prepared : PreparedPacket}
    (announces : Announces prepared.packet prepared.payload) (pooled : Bytes)
    (statistics : ConnectionStatistics) (rest : Bytes) :
    readGwPacket zstd pooled statistics (prepared.bytes ++ rest) =
      ⟨prepared.received zstd, countReceived statistics prepared, rest⟩ := by
  rw [PreparedPacket.bytes_eq, List.append_assoc]
  exact readGwPacket_header_append (PacketGW.length_toBytes _)
    (PacketGW.fromBytes_toBytes prepared.packet) announces.sized announces.nonempty pooled
    statistics rest

theorem Describes.received {zstd : Zstd} {prepared : PreparedPacket} {data : Option Bytes}
    (describes : Describes zstd prepared data) :
    prepared.received zstd = some (prepared.packet, data) := by
  have decodes := describes.decodes
  unfold PreparedPacket.received
  cases payload : prepared.payload with
  | none =>
      simp only [payload] at decodes
      simp [decodes]
  | some raw =>
      simp only [payload] at decodes
      rcases Option.isSome_iff_exists.mp decodes.2 with ⟨bytes, equal⟩
      simp [decodes.1, equal]

theorem readGwPacket_bytes_append {zstd : Zstd} {prepared : PreparedPacket}
    {data : Option Bytes} (describes : Describes zstd prepared data) (pooled : Bytes)
    (statistics : ConnectionStatistics) (rest : Bytes) :
    readGwPacket zstd pooled statistics (prepared.bytes ++ rest) =
      ⟨some (prepared.packet, data), countReceived statistics prepared, rest⟩ := by
  rw [← describes.received]
  exact readGwPacket_announced ⟨describes.sized, describes.nonempty, describes.bounded⟩ pooled
    statistics rest

theorem readGwPacket_nil (zstd : Zstd) (pooled : Bytes) (statistics : ConnectionStatistics) :
    readGwPacket zstd pooled statistics [] = ⟨none, statistics, []⟩ := by
  simp [readGwPacket, readExact, packetHeaderSize]

/-- Reading a stream of whole frames returns exactly these frames and stops at
the end of the stream. -/
theorem readAll_flatMap {zstd : Zstd} :
    ∀ (frames : List (PreparedPacket × Option Bytes)) (pooled : Nat → Bytes)
      (statistics : ConnectionStatistics),
      (∀ frame, frame ∈ frames → Describes zstd frame.1 frame.2) →
      readAll zstd pooled statistics (frames.flatMap fun frame => frame.1.bytes) =
        { packets := frames.map fun frame => (frame.1.packet, frame.2)
          statistics := frames.foldl
            (fun counted frame => countReceived counted frame.1) statistics
          rest := [] }
  | [], pooled, statistics, _ => by
      have ended := readGwPacket_nil zstd (pooled 0) statistics
      rw [List.flatMap_nil, readAll_of_none (by rw [ended]), ended]
      rfl
  | frame :: rest, pooled, statistics, describes => by
      have first := readGwPacket_bytes_append (describes frame (by simp)) (pooled 0) statistics
        (rest.flatMap fun frame => frame.1.bytes)
      have later := readAll_flatMap rest (fun index => pooled (index + 1))
        (countReceived statistics frame.1)
        (fun other member => describes other (List.mem_cons_of_mem _ member))
      rw [List.flatMap_cons, readAll_of_some (by rw [first])]
      simp only [first, later, List.map_cons, List.foldl_cons]

end IoGateway

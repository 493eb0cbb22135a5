import IoGateway.Framing
import Mathlib.Data.List.Forall2

/-! # Decoding a stream of bytes

`read_gw_packet` takes a frame off the front of a stream, whatever the bytes are, and
returns nothing where no whole frame comes next.
-/

namespace IoGateway

variable {zstd : Zstd} {bytes stream : Bytes} {frame : PacketGW × Option Bytes}

/-- A frame at the front of the stream is read, whatever comes after it. -/
theorem readGwPacket_complete (wire : WireFrame zstd bytes frame) (pooled : Bytes)
    (statistics : ConnectionStatistics) (rest : Bytes) :
    (readGwPacket zstd pooled statistics (bytes ++ rest)).packet = some frame ∧
      (readGwPacket zstd pooled statistics (bytes ++ rest)).rest = rest := by
  cases wire with
  | @empty header packet sized decoded dataless =>
      have read := @readGwPacket_header_append zstd ⟨packet, none, false⟩ bytes sized decoded
        (by simp [dataless]) (by simp) pooled statistics rest
      change readGwPacket zstd pooled statistics (bytes ++ rest) = _ at read
      rw [read]
      exact ⟨rfl, rfl⟩
  | @loaded header raw data packet sized decoded announced nonempty decompressed =>
      have read := @readGwPacket_header_append zstd ⟨packet, some raw, false⟩ header sized decoded
        announced.symm (by simp [nonempty]) pooled statistics rest
      change readGwPacket zstd pooled statistics (header ++ (raw ++ rest)) = _ at read
      rw [List.append_assoc, read]
      exact ⟨by simp [PreparedPacket.received, decompressed], rfl⟩

/-! ## Reading until nothing comes -/

variable {pooled : Nat → Bytes} {statistics : ConnectionStatistics}

theorem exists_frames :
    ∃ frames, List.Forall₂ (WireFrame zstd) frames (readAll zstd pooled statistics stream).packets ∧
      stream = frames.flatten ++ (readAll zstd pooled statistics stream).rest := by
  induction pooled, statistics, stream using readAll.induct zstd with
  | case1 pooled statistics stream outcome frame read induction =>
      rw [readAll_of_some read]
      rcases readGwPacket_sound read with ⟨bytes, wire, split⟩
      rcases induction with ⟨frames, framed, rest⟩
      refine ⟨bytes :: frames, .cons wire framed, ?_⟩
      rw [List.flatten_cons, List.append_assoc, ← rest]
      exact split
  | case2 pooled statistics stream outcome read =>
      rw [readAll_of_none read]
      exact ⟨[], .nil, rfl⟩

/-- At the end nothing can be read. -/
theorem readGwPacket_rest (other : Bytes) (counted : ConnectionStatistics) :
    (readGwPacket zstd other counted (readAll zstd pooled statistics stream).rest).packet =
      none := by
  induction pooled, statistics, stream using readAll.induct zstd with
  | case1 pooled statistics stream outcome frame read induction =>
      rw [readAll_of_some read]
      exact induction
  | case2 pooled statistics stream outcome read =>
      rw [readAll_of_none read]
      cases again : (readGwPacket zstd other counted stream).packet with
      | none => rfl
      | some frame =>
          rcases readGwPacket_sound again with ⟨bytes, wire, split⟩
          have found := (readGwPacket_complete wire (pooled 0) statistics
            (readGwPacket zstd other counted stream).rest).1
          rw [← split] at found
          have ended : (readGwPacket zstd (pooled 0) statistics stream).packet = none := read
          rw [ended] at found
          cases found

/-- More bytes at the end of the stream change no frame before them. -/
theorem readAll_prefix (more : Bytes) (otherPooled : Nat → Bytes)
    (otherStatistics : ConnectionStatistics) :
    (readAll zstd pooled statistics stream).packets <+:
      (readAll zstd otherPooled otherStatistics (stream ++ more)).packets := by
  induction pooled, statistics, stream using readAll.induct zstd generalizing otherPooled
      otherStatistics with
  | case1 pooled statistics stream outcome frame read induction =>
      rcases readGwPacket_sound read with ⟨bytes, wire, split⟩
      rcases readGwPacket_complete wire (otherPooled 0) otherStatistics (outcome.rest ++ more)
        with ⟨again, rest⟩
      have extended : stream ++ more = bytes ++ (outcome.rest ++ more) := by
        rw [← List.append_assoc]
        exact congrArg (· ++ more) split
      rw [readAll_of_some read, extended, readAll_of_some again]
      have later := induction (fun index => otherPooled (index + 1))
        (readGwPacket zstd (otherPooled 0) otherStatistics
          (bytes ++ (outcome.rest ++ more))).statistics
      simp only [rest]
      exact (List.cons_prefix_cons).mpr ⟨rfl, later⟩
  | case2 pooled statistics stream outcome read =>
      rw [readAll_of_none read]
      exact List.nil_prefix

theorem length_le_of_frames {frames : List Bytes} {packets : List (PacketGW × Option Bytes)}
    (framed : List.Forall₂ (WireFrame zstd) frames packets) :
    packets.length * packetHeaderSize ≤ frames.flatten.length := by
  induction framed with
  | nil => exact Nat.le_refl _
  | cons wire _ induction =>
      have own := wire.length
      rw [List.length_cons, List.flatten_cons, List.length_append, Nat.succ_mul]
      omega

/-- Reading until nothing comes, from any stream and with any buffers: there are at
most as many frames as headers fit in the stream; they stand side by side from its
front, each with its header and what the header announces; what is left can no longer be
read; and a longer stream begins with the same frames. -/
theorem untrusted_stream_decoding (zstd : Zstd) (pooled : Nat → Bytes)
    (statistics : ConnectionStatistics) (stream : Bytes) :
    let outcome := readAll zstd pooled statistics stream
    outcome.packets.length ≤ stream.length / packetHeaderSize ∧
    (∃ frames, stream = frames.flatten ++ outcome.rest ∧
      List.Forall₂ (fun bytes frame => WireFrame zstd bytes frame ∧
        bytes.length = packetHeaderSize + frame.1.dataSize.toNat) frames outcome.packets) ∧
    (∀ other counted, (readGwPacket zstd other counted outcome.rest).packet = none) ∧
    ∀ more otherPooled otherStatistics, outcome.packets <+:
      (readAll zstd otherPooled otherStatistics (stream ++ more)).packets := by
  intro outcome
  rcases @exists_frames zstd stream pooled statistics with ⟨frames, framed, split⟩
  refine ⟨?_, ⟨frames, split, framed.imp fun bytes frame wire => ⟨wire, wire.length⟩⟩,
    readGwPacket_rest, readAll_prefix⟩
  rw [Nat.le_div_iff_mul_le (by decide)]
  have whole := congrArg List.length split
  rw [List.length_append] at whole
  have counted : outcome.packets.length * packetHeaderSize ≤ frames.flatten.length :=
    length_le_of_frames framed
  omega

/-! ## The size of the data -/

/-- A frame of the stream's front is marked as compressed and decodes to more than
`MAX_DATA_SIZE`. -/
def Oversized (zstd : Zstd) (stream : Bytes) : Prop :=
  ∃ (header raw rest data : Bytes) (packet : PacketGW),
    stream = header ++ raw ++ rest ∧ header.length = packetHeaderSize ∧
    PacketGW.fromBytes header = some packet ∧ raw.length = packet.dataSize.toNat ∧ raw ≠ [] ∧
    packet.isCompressed = true ∧ zstd.decodeAll raw = some data ∧ maxDataSize < data.length

/-- What `read_gw_packet` returns is no larger than `MAX_DATA_SIZE` exactly when no
compressed payload decodes to more: the size is only compared before decompression, when
it is below 64 KB anyway. -/
theorem payload_bounded_iff (zstd : Zstd) (pooled : Bytes) (statistics : ConnectionStatistics)
    (stream : Bytes) :
    (∀ packet payload,
      (readGwPacket zstd pooled statistics stream).packet = some (packet, some payload) →
        payload.length ≤ maxDataSize) ↔
      ¬ Oversized zstd stream := by
  constructor
  · rintro bounded ⟨header, raw, rest, data, packet, split, sized, decoded, announced, nonempty,
      compressed, decompressed, large⟩
    have wire : WireFrame zstd (header ++ raw) (packet, some data) :=
      .loaded sized decoded announced nonempty (by simp [decompressData, compressed, decompressed])
    have read := (readGwPacket_complete wire pooled statistics rest).1
    rw [← split] at read
    exact Nat.not_lt.mpr (bounded packet data read) large
  · intro small packet payload read
    rcases readGwPacket_sound read with ⟨bytes, wire, split⟩
    cases wire with
    | @loaded header raw data packet sized decoded announced nonempty decompressed =>
        cases compressed : packet.isCompressed with
        | false =>
            rw [compressed, decompressData_false] at decompressed
            cases decompressed
            rw [announced]
            exact dataSize_le packet
        | true =>
            rw [compressed] at decompressed
            exact Nat.not_lt.mp fun large => small ⟨header, raw, _, payload, packet, split, sized,
              decoded, announced, nonempty, compressed, decompressed, large⟩

def oversizedFrame : Bytes :=
  ((PacketGW.new .regular 1 1 5).setFlag flagCompressed).toBytes ++
    (0 :: LittleEndian.encode 4 (maxDataSize + 1))

theorem payload_unbounded :
    Zstd.runLength.Lawful ∧
      ¬ ∀ packet payload,
        (readGwPacket Zstd.runLength [] .new oversizedFrame).packet = some (packet, some payload) →
          payload.length ≤ maxDataSize := by
  refine ⟨Zstd.runLength_lawful, fun bounded => ?_⟩
  have size : LittleEndian.decode (LittleEndian.encode 4 (maxDataSize + 1)) = maxDataSize + 1 :=
    LittleEndian.decode_encode_of_lt (by decide)
  have wire : WireFrame Zstd.runLength oversizedFrame
      ((PacketGW.new .regular 1 1 5).setFlag flagCompressed,
        some (List.replicate (maxDataSize + 1) 0)) :=
    .loaded (PacketGW.length_toBytes _) (PacketGW.fromBytes_toBytes _) (by decide) (by simp)
      (by rw [PacketGW.isCompressed_setFlag, ← size]; rfl)
  have read := (readGwPacket_complete wire [] .new []).1
  rw [List.append_nil] at read
  have length := bounded _ _ read
  rw [List.length_replicate] at length
  exact Nat.not_succ_le_self _ length

end IoGateway

import IoGateway.Packet
import Mathlib.Data.List.GetD

/-! # The header format in both directions

A header is read back as it was written, and what is written for a header that was
read is the header itself, up to the bytes that reading drops.
-/

namespace IoGateway

namespace PacketType

def isDefined (value : UInt8) : Bool := value ≤ 13 || value = 30

/-- A defined code is kept, any other reads as that of `regular`. -/
theorem code_ofCode (value : UInt8) :
    (ofCode value).code = if isDefined value then value else 0 := by
  have all : ∀ code : Fin 256, (ofCode (UInt8.ofFin code)).code =
      if isDefined (UInt8.ofFin code) then UInt8.ofFin code else 0 := by
    decide +kernel
  exact all value.toFin

theorem isDefined_code (packetType : PacketType) : isDefined packetType.code = true := by
  cases packetType <;> rfl

theorem isDefined_iff {value : UInt8} :
    isDefined value = true ↔ ∃ packetType : PacketType, packetType.code = value := by
  constructor
  · intro defined
    exact ⟨ofCode value, by rw [code_ofCode, if_pos defined]⟩
  · rintro ⟨packetType, rfl⟩
    exact isDefined_code packetType

end PacketType

/-- The first header of a byte string as it is written again: an undefined type code
and the two reserved bytes become zero. -/
def canonicalHeader (bytes : Bytes) : Bytes :=
  (if PacketType.isDefined (bytes.getD 0 0) then bytes.getD 0 0 else 0) ::
    ((bytes.drop 1).take 13 ++ [0, 0])

def reencode (bytes : Bytes) : Option Bytes := (PacketGW.fromBytes bytes).map PacketGW.toBytes

structure CanonicalHeader (bytes : Bytes) : Prop where
  length : bytes.length = packetHeaderSize
  defined : PacketType.isDefined (bytes.getD 0 0) = true
  reserved : bytes.drop 14 = [0, 0]

instance (bytes : Bytes) : Decidable (CanonicalHeader bytes) :=
  decidable_of_iff (bytes.length = packetHeaderSize ∧
      PacketType.isDefined (bytes.getD 0 0) = true ∧ bytes.drop 14 = [0, 0])
    ⟨fun parts => ⟨parts.1, parts.2.1, parts.2.2⟩,
      fun canonical => ⟨canonical.length, canonical.defined, canonical.reserved⟩⟩

theorem LittleEndian.encode_decode_of_length {bytes : Bytes} {width : Nat}
    (sized : bytes.length = width) :
    encode width (decode bytes) = bytes :=
  sized ▸ encode_decode bytes

theorem LittleEndian.decode_lt_of_length {bytes : Bytes} {width : Nat}
    (sized : bytes.length = width) :
    decode bytes < 256 ^ width :=
  sized ▸ decode_lt bytes

/-- The fields of a header lie side by side. -/
theorem header_fields {bytes : Bytes} (long : packetHeaderSize ≤ bytes.length) :
    (bytes.drop 1).take 8 ++ (bytes.drop 9).take 2 ++ (bytes.drop 11).take 2 ++
      [bytes.getD 13 0] = (bytes.drop 1).take 13 := by
  unfold packetHeaderSize at long
  have flags : [bytes.getD 13 0] = (bytes.drop 13).take 1 := by
    have within : 13 < bytes.length := by omega
    rw [List.drop_eq_getElem_cons within, List.getD_eq_getElem _ _ within]
    rfl
  have split : ∀ front width start, (bytes.drop start).take (front + width) =
      (bytes.drop start).take front ++ (bytes.drop (start + front)).take width := by
    intro front width start
    rw [List.take_add, List.drop_drop]
  rw [flags, split 12 1 1, split 10 2 1, split 8 2 1]

theorem toBytes_of_fromBytes {bytes : Bytes} {packet : PacketGW}
    (decoded : PacketGW.fromBytes bytes = some packet) :
    packet.toBytes = canonicalHeader bytes := by
  unfold PacketGW.fromBytes at decoded
  split at decoded
  · cases decoded
  · rename_i short
    have long : packetHeaderSize ≤ bytes.length := Nat.not_lt.mp short
    have fields := header_fields long
    unfold packetHeaderSize at long
    have sized : ∀ start width, start + width ≤ 16 →
        ((bytes.drop start).take width).length = width := by
      intro start width within
      simp only [List.length_take, List.length_drop]
      omega
    have packetId : (UInt64.ofNat (LittleEndian.decode ((bytes.drop 1).take 8))).toNat =
        LittleEndian.decode ((bytes.drop 1).take 8) :=
      UInt64.toNat_ofNat_of_lt' (LittleEndian.decode_lt_of_length (sized 1 8 (by decide)))
    have field : ∀ start, start + 2 ≤ 16 →
        (UInt16.ofNat (LittleEndian.decode ((bytes.drop start).take 2))).toNat =
          LittleEndian.decode ((bytes.drop start).take 2) := fun start within =>
      UInt16.toNat_ofNat_of_lt' (LittleEndian.decode_lt_of_length (sized start 2 within))
    cases decoded
    unfold PacketGW.toBytes canonicalHeader
    simp only [packetId, field 9 (by decide), field 11 (by decide), PacketType.code_ofCode]
    rw [LittleEndian.encode_decode_of_length (sized 1 8 (by decide)),
      LittleEndian.encode_decode_of_length (sized 9 2 (by decide)),
      LittleEndian.encode_decode_of_length (sized 11 2 (by decide)), ← fields]
    simp only [List.append_assoc, List.cons_append, List.nil_append]

theorem fromBytes_eq_none {bytes : Bytes} (short : bytes.length < packetHeaderSize) :
    PacketGW.fromBytes bytes = none :=
  if_pos short

theorem exists_fromBytes {bytes : Bytes} (long : packetHeaderSize ≤ bytes.length) :
    ∃ packet, PacketGW.fromBytes bytes = some packet :=
  ⟨_, if_neg (Nat.not_lt.mpr long)⟩

theorem reencode_eq_some {bytes encoded : Bytes} :
    reencode bytes = some encoded ↔
      packetHeaderSize ≤ bytes.length ∧ encoded = canonicalHeader bytes := by
  constructor
  · intro written
    rcases Option.map_eq_some_iff.mp written with ⟨packet, decoded, rfl⟩
    refine ⟨?_, toBytes_of_fromBytes decoded⟩
    by_contra short
    rw [fromBytes_eq_none (Nat.not_le.mp short)] at decoded
    cases decoded
  · rintro ⟨long, rfl⟩
    rcases exists_fromBytes long with ⟨packet, decoded⟩
    rw [reencode, decoded, Option.map_some, toBytes_of_fromBytes decoded]

/-- What is written is read and written again unchanged. -/
theorem reencode_idempotent {bytes encoded : Bytes} (written : reencode bytes = some encoded) :
    reencode encoded = some encoded := by
  rcases Option.map_eq_some_iff.mp written with ⟨packet, _, rfl⟩
  rw [reencode, PacketGW.fromBytes_toBytes, Option.map_some]

theorem canonicalHeader_eq_self {bytes : Bytes} (long : packetHeaderSize ≤ bytes.length) :
    bytes = canonicalHeader bytes ↔ CanonicalHeader bytes := by
  unfold packetHeaderSize at long
  have nonempty : 0 < bytes.length := by omega
  have middle : bytes = bytes.getD 0 0 :: ((bytes.drop 1).take 13 ++ bytes.drop 14) := by
    rw [List.getD_eq_getElem _ _ nonempty, ← @List.drop_drop _ 13 1,
      List.take_append_drop, ← List.drop_eq_getElem_cons nonempty, List.drop_zero]
  constructor
  · intro same
    have front : ((bytes.drop 1).take 13).length = 13 := by
      rw [List.length_take, List.length_drop]
      omega
    refine ⟨?_, ?_, ?_⟩
    · rw [same, canonicalHeader, List.length_cons, List.length_append, front]
      rfl
    · by_contra undefined
      have head : bytes.getD 0 0 = (canonicalHeader bytes).getD 0 0 := congrArg (·.getD 0 0) same
      rw [canonicalHeader, if_neg undefined, List.getD_cons_zero] at head
      rw [head] at undefined
      exact undefined rfl
    · have dropped : bytes.drop 14 = (canonicalHeader bytes).drop 14 := congrArg (List.drop 14) same
      rw [dropped, canonicalHeader, List.drop_succ_cons]
      exact List.drop_left' front
  · intro canonical
    unfold canonicalHeader
    rw [if_pos canonical.defined, ← canonical.reserved]
    exact middle

/-- Both directions of the format: a written header is read back whatever follows it; any
sixteen bytes are read, and written again up to the type code and the reserved bytes;
that is done once and for all, and changes exactly the headers that are not canonical. -/
theorem header_codec :
    (∀ (packet : PacketGW) (rest : Bytes),
      PacketGW.fromBytes (packet.toBytes ++ rest) = some packet) ∧
    (∀ bytes : Bytes, packetHeaderSize ≤ bytes.length → ∃ packet,
      PacketGW.fromBytes bytes = some packet ∧ packet.toBytes = canonicalHeader bytes) ∧
    (∀ bytes encoded : Bytes, reencode bytes = some encoded → reencode encoded = some encoded) ∧
    (∀ bytes : Bytes, reencode bytes = some bytes ↔ CanonicalHeader bytes) ∧
    ∀ bytes : Bytes, bytes.length < packetHeaderSize → PacketGW.fromBytes bytes = none := by
  refine ⟨PacketGW.fromBytes_toBytes_append, ?_, ?_, ?_, fun bytes => fromBytes_eq_none⟩
  · intro bytes long
    rcases exists_fromBytes long with ⟨packet, decoded⟩
    exact ⟨packet, decoded, toBytes_of_fromBytes decoded⟩
  · exact fun bytes encoded => reencode_idempotent
  · intro bytes
    rw [reencode_eq_some]
    constructor
    · rintro ⟨long, same⟩
      exact (canonicalHeader_eq_self long).mp same
    · intro canonical
      have long : packetHeaderSize ≤ bytes.length := Nat.le_of_eq canonical.length.symm
      exact ⟨long, (canonicalHeader_eq_self long).mpr canonical⟩

def foreignHeader : Bytes := [99, 1, 0, 0, 0, 0, 0, 0, 0, 7, 0, 3, 0, 1, 5, 6]

theorem header_codec_foreign :
    (∃ packet, PacketGW.fromBytes foreignHeader = some packet ∧
      packet.toBytes = [0, 1, 0, 0, 0, 0, 0, 0, 0, 7, 0, 3, 0, 1, 0, 0]) ∧
    reencode [0, 1, 0, 0, 0, 0, 0, 0, 0, 7, 0, 3, 0, 1, 0, 0] =
      some [0, 1, 0, 0, 0, 0, 0, 0, 0, 7, 0, 3, 0, 1, 0, 0] ∧
    PacketGW.fromBytes (foreignHeader.take 15) = none := by
  rcases header_codec with ⟨_, long, idempotent, _, short⟩
  refine ⟨?_, idempotent foreignHeader _ (by decide), short _ (by decide)⟩
  rcases long foreignHeader (by decide) with ⟨packet, decoded, written⟩
  exact ⟨packet, decoded, written⟩

end IoGateway

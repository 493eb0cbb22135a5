import IoGateway.Foundation.LittleEndian

/-! # Traffic compression

The `zstd` crate is a parameter: two partial functions on byte strings. What
the gateway relies on is stated in `Zstd.Lawful`.
-/

namespace IoGateway

def minCompressSize : Nat := 1024

def compressionLevel : Int := 3

/-- The two functions of the `zstd` crate in use; `none` is an error. -/
structure Zstd where
  encodeAll : Bytes → Int → Option Bytes
  decodeAll : Bytes → Option Bytes

/-- Encoding may fail; when it succeeds its output is non-empty and decodes to
the original bytes. -/
structure Zstd.Lawful (zstd : Zstd) : Prop where
  decode_encode : ∀ {data : Bytes} {level : Int} {compressed : Bytes},
    zstd.encodeAll data level = some compressed → zstd.decodeAll compressed = some data
  encode_ne_nil : ∀ {data : Bytes} {level : Int} {compressed : Bytes},
    zstd.encodeAll data level = some compressed → compressed ≠ []

/-- A lawful codec that handles runs of one byte and fails on anything else. -/
def Zstd.runLength : Zstd where
  encodeAll data _ :=
    match data with
    | [] => none
    | byte :: rest =>
        if rest.all (· = byte) ∧ data.length < 256 ^ 4 then
          some (byte :: LittleEndian.encode 4 data.length)
        else
          none
  decodeAll compressed :=
    match compressed with
    | [] => none
    | byte :: size => some (List.replicate (LittleEndian.decode size) byte)

theorem Zstd.runLength_lawful : Zstd.runLength.Lawful where
  decode_encode := by
    intro data level compressed encoded
    cases data with
    | nil => cases encoded
    | cons byte rest =>
        simp only [runLength, Option.ite_none_right_eq_some] at encoded
        rcases encoded with ⟨⟨constant, short⟩, output⟩
        cases output
        simp only [List.all_eq_true, decide_eq_true_eq] at constant
        have sized := LittleEndian.decode_encode_of_lt short
        rw [List.length_cons] at sized
        simp only [runLength, List.length_cons, sized, List.replicate_succ]
        rw [← List.eq_replicate_of_mem constant]
  encode_ne_nil := by
    intro data level compressed encoded empty
    subst empty
    cases data with
    | nil => cases encoded
    | cons byte rest =>
        simp [runLength] at encoded

structure CompressionResult where
  data : Bytes
  isCompressed : Bool

/-- Compress data when it is worthwhile: not below the threshold, not when the
encoder fails and not when the output is no smaller. -/
def compressData (zstd : Zstd) (data : Bytes) : CompressionResult :=
  if data.length < minCompressSize then
    ⟨data, false⟩
  else
    match zstd.encodeAll data compressionLevel with
    | some compressed =>
        if compressed.length < data.length then
          ⟨compressed, true⟩
        else
          ⟨data, false⟩
    | none => ⟨data, false⟩

def decompressData (zstd : Zstd) (data : Bytes) (isCompressed : Bool) : Option Bytes :=
  if !isCompressed then some data else zstd.decodeAll data

@[simp] theorem decompressData_false (zstd : Zstd) (data : Bytes) :
    decompressData zstd data false = some data := rfl

/-- A compressed result is strictly smaller than its input, non-empty, and
decompresses to it. -/
theorem compressData_compressed {zstd : Zstd} (lawful : zstd.Lawful) {data : Bytes}
    (compressed : (compressData zstd data).isCompressed = true) :
    (compressData zstd data).data.length < data.length ∧
      (compressData zstd data).data ≠ [] ∧
      decompressData zstd (compressData zstd data).data true = some data := by
  unfold compressData at compressed ⊢
  by_cases short : data.length < minCompressSize
  · simp [short] at compressed
  · rw [if_neg short] at compressed ⊢
    cases encoded : zstd.encodeAll data compressionLevel with
    | none => simp [encoded] at compressed
    | some output =>
        by_cases smaller : output.length < data.length
        · simp only [if_pos smaller]
          exact ⟨smaller, lawful.encode_ne_nil encoded, lawful.decode_encode encoded⟩
        · simp [encoded, smaller] at compressed

end IoGateway

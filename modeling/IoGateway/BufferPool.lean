import IoGateway.Foundation.ObjectPool
import IoGateway.Framing

/-! # The pool of read buffers

`BufferPool` hands out vectors that `read_gw_packet` resizes to the payload it expects.
A dropped buffer is cleared, filled up with zeros and put back.
-/

namespace IoGateway

/-! ## Vectors -/

/-- The capacity a vector is given when it must hold more bytes than it can. -/
structure Growth where
  capacity : Nat → Nat → Nat
  enough : ∀ old needed, needed ≤ capacity old needed

def Growth.amortized : Growth := ⟨fun old needed => max (2 * old) needed, by omega⟩

structure ByteVec where
  contents : Bytes
  capacity : Nat
  fits : contents.length ≤ capacity

namespace ByteVec

def zeroed (size : Nat) : ByteVec := ⟨List.replicate size 0, size, by simp⟩

def clear (vec : ByteVec) : ByteVec := ⟨[], vec.capacity, Nat.zero_le _⟩

/-- Give a vector other contents: it is reallocated only when they do not fit. -/
def store (growth : Growth) (vec : ByteVec) (contents : Bytes) : ByteVec :=
  if fits : contents.length ≤ vec.capacity then
    ⟨contents, vec.capacity, fits⟩
  else
    ⟨contents, growth.capacity vec.capacity contents.length, growth.enough ..⟩

def resize (growth : Growth) (vec : ByteVec) (size : Nat) (value : UInt8) : ByteVec :=
  vec.store growth (IoGateway.resize vec.contents size value)

@[simp] theorem store_contents (growth : Growth) (vec : ByteVec) (contents : Bytes) :
    (vec.store growth contents).contents = contents := by
  unfold store
  split <;> rfl

theorem store_capacity {growth : Growth} {vec : ByteVec} {contents : Bytes}
    (fits : contents.length ≤ vec.capacity) :
    (vec.store growth contents).capacity = vec.capacity := by
  unfold store
  rw [dif_pos fits]

theorem capacity_le_store (growth : Growth) (vec : ByteVec) (contents : Bytes) :
    vec.capacity ≤ (vec.store growth contents).capacity := by
  by_cases fits : contents.length ≤ vec.capacity
  · exact Nat.le_of_eq (store_capacity fits).symm
  · have enough := (vec.store growth contents).fits
    rw [store_contents] at enough
    omega

@[simp] theorem resize_clear_contents (growth : Growth) (vec : ByteVec) (size : Nat)
    (value : UInt8) :
    (vec.clear.resize growth size value).contents = List.replicate size value := by
  simp [resize, clear, IoGateway.resize]

theorem resize_clear_capacity {growth : Growth} {vec : ByteVec} {size : Nat} {value : UInt8}
    (fits : size ≤ vec.capacity) :
    (vec.clear.resize growth size value).capacity = vec.capacity := by
  apply store_capacity
  simpa [clear] using fits

end ByteVec

/-! ## Buffers and the pool -/

structure PooledBuffer where
  buffer : ByteVec
  bufferSize : Nat

namespace PooledBuffer

def new (buffer : ByteVec) : PooledBuffer := ⟨buffer, max buffer.capacity buffer.contents.length⟩

/-- A use of the vector that leaves other contents in it; `reserve`, `shrink_to_fit` and
`mem::take` change the capacity alone and are left out. -/
def mutate (growth : Growth) (pooled : PooledBuffer) (contents : Bytes) : PooledBuffer :=
  { pooled with buffer := pooled.buffer.store growth contents }

def drop (growth : Growth) (pooled : PooledBuffer) : ByteVec :=
  pooled.buffer.clear.resize growth pooled.bufferSize 0

end PooledBuffer

namespace BufferPool

def poolSize : Nat := 100

def pool (growth : Growth) (bufferSize : Nat) : ObjectPool ByteVec PooledBuffer Bytes where
  fresh := ByteVec.zeroed bufferSize
  issue := PooledBuffer.new
  change := PooledBuffer.mutate growth
  reset := PooledBuffer.drop growth
  room := poolSize

theorem pool_issue (growth : Growth) (bufferSize : Nat) :
    (pool growth bufferSize).issue = PooledBuffer.new := rfl

theorem pool_reset (growth : Growth) (bufferSize : Nat) :
    (pool growth bufferSize).reset = PooledBuffer.drop growth := rfl

abbrev State (Reader : Type u) : Type u := ObjectPool.State Reader ByteVec PooledBuffer

abbrev system (Reader : Type u) [DecidableEq Reader] (growth : Growth) (size bufferSize : Nat) :
    TransitionSystem (State Reader) (ObjectPool.Action Reader Bytes) :=
  ObjectPool.system (pool growth bufferSize) size

variable {Reader : Type u} [DecidableEq Reader]

/-- In this state `acquire` returns this buffer. -/
def Acquires (growth : Growth) (bufferSize : Nat) (state : State Reader)
    (pooled : PooledBuffer) : Prop :=
  ∃ reader next, (pool growth bufferSize).step state (.acquire reader) = some next ∧
    next.held reader = some pooled

/-- Some run of the readers ends with `acquire` returning this buffer. -/
def HandsOut (Reader : Type u) [DecidableEq Reader] (growth : Growth) (size bufferSize : Nat)
    (pooled : PooledBuffer) : Prop :=
  ∃ state, (system Reader growth size bufferSize).Reachable state ∧
    Acquires growth bufferSize state pooled

variable {growth : Growth} {size bufferSize : Nat} {state : State Reader} {pooled : PooledBuffer}
  {reader : Reader}

theorem Acquires.exists_new {permitted : Bytes → Prop} {Clean : ByteVec → Prop}
    {Sound : PooledBuffer → Prop} (keeps : (pool growth bufferSize).Keeps permitted Clean Sound)
    (reachable : (system Reader growth size bufferSize).ReachableUnder
      (ObjectPool.Permits permitted) state)
    (acquires : Acquires growth bufferSize state pooled) :
    ∃ vec, Clean vec ∧ pooled = PooledBuffer.new vec := by
  rcases acquires with ⟨reader, next, stepped, held⟩
  rcases ObjectPool.exists_issued keeps reachable stepped with ⟨vec, clean, issued⟩
  rw [held] at issued
  exact ⟨vec, clean, Option.some.inj issued⟩

/-! ## What a buffer holds when it is handed out -/

def Zeros (bytes : Bytes) : Prop := ∀ byte ∈ bytes, byte = 0

theorem zeros_replicate (size : Nat) : Zeros (List.replicate size 0) :=
  fun _ member => List.eq_of_mem_replicate member

theorem keeps_zeros (growth : Growth) (bufferSize : Nat) :
    (pool growth bufferSize).Keeps (fun _ => True) (fun vec => Zeros vec.contents)
      (fun _ => True) where
  fresh := zeros_replicate bufferSize
  issue := fun _ _ => trivial
  change := fun _ _ _ _ => trivial
  reset := by
    intro pooled _
    change Zeros (pooled.buffer.clear.resize growth pooled.bufferSize 0).contents
    rw [ByteVec.resize_clear_contents]
    exact zeros_replicate pooled.bufferSize

theorem HandsOut.zeros (handed : HandsOut Reader growth size bufferSize pooled) :
    Zeros pooled.buffer.contents := by
  rcases handed with ⟨state, reachable, acquires⟩
  rcases acquires.exists_new (keeps_zeros growth bufferSize)
    (ObjectPool.permits_of_reachable reachable) with ⟨vec, clean, rfl⟩
  exact clean

theorem resize_zeros {buffer : Bytes} (zeros : Zeros buffer) (size : Nat) :
    IoGateway.resize buffer size 0 = List.replicate size 0 := by
  apply List.eq_replicate_iff.mpr
  refine ⟨length_resize .., ?_⟩
  intro byte member
  rcases List.mem_append.mp member with kept | added
  · exact zeros byte (List.mem_of_mem_take kept)
  · exact List.eq_of_mem_replicate added

/-! ## The plain reader -/

/-- `read_gw_packet` with a vector of its own for each payload. -/
def readGwPacketPlain (zstd : Zstd) (statistics : ConnectionStatistics) (stream : Bytes) :
    ReadOutcome :=
  match readExact (List.replicate packetHeaderSize 0) stream with
  | none => ⟨none, statistics, []⟩
  | some (header, afterHeader) =>
      match PacketGW.fromBytes header with
      | none => ⟨none, statistics, afterHeader⟩
      | some packet =>
          let counted := statistics.incPacketsIn.addBytesIn (UInt64.ofNat packetHeaderSize)
          if packet.dataSize > 0 then
            if packet.dataSize.toNat > maxDataSize then
              ⟨none, counted, afterHeader⟩
            else
              match readExact (List.replicate packet.dataSize.toNat 0) afterHeader with
              | none => ⟨none, counted, []⟩
              | some (raw, rest) =>
                  let counted := counted.addBytesIn (UInt64.ofNat raw.length)
                  match decompressData zstd raw packet.isCompressed with
                  | some data => ⟨some (packet, some data), counted, rest⟩
                  | none => ⟨none, counted, rest⟩
          else
            ⟨some (packet, none), counted, afterHeader⟩

variable {zstd : Zstd} {statistics : ConnectionStatistics} {stream : Bytes}

theorem readGwPacket_zeros {buffer : Bytes} (zeros : Zeros buffer) :
    readGwPacket zstd buffer statistics stream = readGwPacketPlain zstd statistics stream := by
  unfold readGwPacket
  simp only [resize_zeros zeros]
  rfl

theorem readGwPacketPlain_rest_length {frame : PacketGW × Option Bytes}
    (read : (readGwPacketPlain zstd statistics stream).packet = some frame) :
    (readGwPacketPlain zstd statistics stream).rest.length + packetHeaderSize ≤
      stream.length := by
  have same := @readGwPacket_zeros zstd statistics stream [] (zeros_replicate 0)
  rw [← same] at read ⊢
  exact readGwPacket_rest_length read

def readAllPlain (zstd : Zstd) (statistics : ConnectionStatistics) (stream : Bytes) :
    ReadAllOutcome :=
  let outcome := readGwPacketPlain zstd statistics stream
  match _read : outcome.packet with
  | some packet =>
      let later := readAllPlain zstd outcome.statistics outcome.rest
      { later with packets := packet :: later.packets }
  | none => ⟨[], outcome.statistics, stream⟩
termination_by stream.length
decreasing_by
  have shorter := readGwPacketPlain_rest_length _read
  unfold packetHeaderSize at shorter
  omega

theorem readAllPlain_of_some {frame : PacketGW × Option Bytes}
    (read : (readGwPacketPlain zstd statistics stream).packet = some frame) :
    readAllPlain zstd statistics stream =
      let outcome := readGwPacketPlain zstd statistics stream
      let later := readAllPlain zstd outcome.statistics outcome.rest
      { later with packets := frame :: later.packets } := by
  rw [readAllPlain]
  split
  · rename_i found foundRead
    rw [read] at foundRead
    cases foundRead
    rfl
  · rename_i absent
    rw [read] at absent
    cases absent

theorem readAllPlain_of_none
    (read : (readGwPacketPlain zstd statistics stream).packet = none) :
    readAllPlain zstd statistics stream =
      ⟨[], (readGwPacketPlain zstd statistics stream).statistics, stream⟩ := by
  rw [readAllPlain]
  split
  · rename_i found foundRead
    rw [read] at foundRead
    cases foundRead
  · rfl

theorem readAll_zeros (buffers : Nat → Bytes) (zeros : ∀ index, Zeros (buffers index)) :
    readAll zstd buffers statistics stream = readAllPlain zstd statistics stream := by
  induction buffers, statistics, stream using readAll.induct zstd with
  | case1 buffers statistics stream outcome packet read induction =>
      rw [readAll_of_some read, readGwPacket_zeros (zeros 0)]
      change (readGwPacket zstd (buffers 0) statistics stream).packet = some packet at read
      rw [readGwPacket_zeros (zeros 0)] at read
      rw [readAllPlain_of_some read]
      simp only [outcome, readGwPacket_zeros (zeros 0)] at induction
      simp only [induction fun index => zeros (index + 1)]
  | case2 buffers statistics stream outcome read =>
      rw [readAll_of_none read, readGwPacket_zeros (zeros 0)]
      change (readGwPacket zstd (buffers 0) statistics stream).packet = none at read
      rw [readGwPacket_zeros (zeros 0)] at read
      rw [readAllPlain_of_none read]

/-- A reader whose buffers come from the pool is one that allocates them. -/
theorem pooled_reader_plain (Reader : Type u) [DecidableEq Reader] (growth : Growth)
    (size bufferSize : Nat) :
    (∀ pooled, HandsOut Reader growth size bufferSize pooled →
      (∀ byte ∈ pooled.buffer.contents, byte = 0) ∧
      ∀ zstd statistics stream, readGwPacket zstd pooled.buffer.contents statistics stream =
        readGwPacketPlain zstd statistics stream) ∧
    ∀ handed : Nat → PooledBuffer,
      (∀ index, HandsOut Reader growth size bufferSize (handed index)) →
      ∀ zstd statistics stream,
        readAll zstd (fun index => (handed index).buffer.contents) statistics stream =
          readAllPlain zstd statistics stream := by
  refine ⟨?_, ?_⟩
  · intro pooled handedOut
    exact ⟨handedOut.zeros, fun _ _ _ => readGwPacket_zeros handedOut.zeros⟩
  · intro handed handedOut zstd statistics stream
    exact readAll_zeros _ fun index => (handedOut index).zeros

theorem exists_lent : ∃ lent : State Unit,
    (system Unit Growth.amortized 1 4).step (system Unit Growth.amortized 1 4).start
      (.acquire ()) = some lent ∧
    lent.held () = some (PooledBuffer.new (ByteVec.zeroed 4)) ∧ lent.free = [] :=
  ObjectPool.exists_acquired (pool Growth.amortized 4) 1 rfl rfl

theorem exists_reused : ∃ state : State Unit, ∃ pooled,
    (system Unit Growth.amortized 1 4).ReachableUnder
      (ObjectPool.Permits fun contents => contents.length ≤ 4) state ∧
    Acquires Growth.amortized 4 state pooled := by
  rcases exists_lent with ⟨lent, acquired, held, free⟩
  rcases ObjectPool.exists_mutated (pool Growth.amortized 4) 1 held [42, 43] with
    ⟨changed, mutated, held, freeChanged⟩
  rcases ObjectPool.exists_reissued (pool Growth.amortized 4) 1 held
    (by rw [freeChanged, free]; decide) with
    ⟨dropped, reissued, dropStep, acquireStep, heldAgain, -⟩
  refine ⟨dropped, _, .step (.step (.step .refl ?_ acquired) ?_ mutated) ?_ dropStep,
    (), reissued, acquireStep, heldAgain⟩
  · trivial
  · change [42, 43].length ≤ 4
    decide
  · trivial

theorem pooled_reader_plain_reused : ∃ pooled, HandsOut Unit Growth.amortized 1 4 pooled ∧
    (∀ byte ∈ pooled.buffer.contents, byte = 0) ∧
    ∀ zstd statistics stream, readGwPacket zstd pooled.buffer.contents statistics stream =
      readGwPacketPlain zstd statistics stream := by
  rcases exists_reused with ⟨state, pooled, reachable, acquires⟩
  have handed : HandsOut Unit Growth.amortized 1 4 pooled := ⟨state, reachable.always, acquires⟩
  exact ⟨pooled, handed, (pooled_reader_plain Unit Growth.amortized 1 4).1 pooled handed⟩

/-! ## The size of a buffer when it is handed out -/

theorem keeps_size (growth : Growth) (bufferSize : Nat) :
    (pool growth bufferSize).Keeps (fun contents => contents.length ≤ bufferSize)
      (fun vec => vec.contents.length = bufferSize ∧ vec.capacity = bufferSize)
      (fun pooled => pooled.bufferSize = bufferSize ∧ pooled.buffer.capacity = bufferSize) where
  fresh := by
    change (List.replicate bufferSize 0).length = bufferSize ∧ bufferSize = bufferSize
    simp
  issue := by
    rintro vec ⟨length, capacity⟩
    change max vec.capacity vec.contents.length = bufferSize ∧ vec.capacity = bufferSize
    omega
  change := by
    rintro pooled contents ⟨size, capacity⟩ fits
    refine ⟨size, ?_⟩
    change (pooled.buffer.store growth contents).capacity = bufferSize
    rw [ByteVec.store_capacity (by rw [capacity]; exact fits)]
    exact capacity
  reset := by
    rintro pooled ⟨size, capacity⟩
    change (pooled.buffer.clear.resize growth pooled.bufferSize 0).contents.length = bufferSize ∧
      (pooled.buffer.clear.resize growth pooled.bufferSize 0).capacity = bufferSize
    rw [ByteVec.resize_clear_contents, ByteVec.resize_clear_capacity (by omega)]
    exact ⟨by rw [List.length_replicate]; exact size, capacity⟩

/-- As long as no reader lets a buffer outgrow it, `acquire` returns buffers of the
pool's size. -/
theorem acquired_length (Reader : Type u) [DecidableEq Reader] (growth : Growth)
    (size bufferSize : Nat) {state : State Reader} {pooled : PooledBuffer}
    (reachable : (system Reader growth size bufferSize).ReachableUnder
      (ObjectPool.Permits fun contents => contents.length ≤ bufferSize) state)
    (acquires : Acquires growth bufferSize state pooled) :
    pooled.buffer.contents.length = bufferSize := by
  rcases acquires.exists_new (keeps_size growth bufferSize) reachable with ⟨vec, clean, rfl⟩
  exact clean.1

theorem acquired_length_reused : ∃ pooled, HandsOut Unit Growth.amortized 1 4 pooled ∧
    pooled.buffer.contents.length = 4 := by
  rcases exists_reused with ⟨state, pooled, reachable, acquires⟩
  exact ⟨pooled, ⟨state, reachable.always, acquires⟩,
    acquired_length Unit Growth.amortized 1 4 reachable acquires⟩

theorem length_drop (growth : Growth) (pooled : PooledBuffer) :
    (pooled.drop growth).contents.length = pooled.bufferSize := by
  rw [PooledBuffer.drop, ByteVec.resize_clear_contents, List.length_replicate]

theorem keeps_capacity (growth : Growth) (bufferSize : Nat) :
    (pool growth bufferSize).Keeps (fun _ => True) (fun _ => True)
      (fun pooled => pooled.bufferSize ≤ pooled.buffer.capacity) where
  fresh := trivial
  issue := by
    intro vec _
    exact Nat.max_le.mpr ⟨Nat.le_refl _, vec.fits⟩
  change := by
    intro pooled contents small _
    exact Nat.le_trans small (ByteVec.capacity_le_store ..)
  reset := fun _ _ => trivial

/-- A buffer remembers the capacity of the vector it was made from. -/
theorem length_le_bufferSize (growth : Growth)
    (small : pooled.bufferSize ≤ pooled.buffer.capacity) :
    pooled.buffer.contents.length ≤ (PooledBuffer.new (pooled.drop growth)).bufferSize := by
  change _ ≤ max (pooled.drop growth).capacity (pooled.drop growth).contents.length
  rw [PooledBuffer.drop, ByteVec.resize_clear_capacity small]
  exact Nat.le_trans pooled.buffer.fits (Nat.le_max_left ..)

/-- A buffer that outgrew its size comes back with it, and the next time larger. -/
theorem exists_outgrown
    (reachable : (system Reader growth size bufferSize).Reachable state)
    (held : state.held reader = some pooled) (room : state.free.length < poolSize)
    (contents : Bytes) :
    ∃ later outgrown, (system Reader growth size bufferSize).Reaches
        TransitionSystem.Always state later ∧
      Acquires growth bufferSize later outgrown ∧
      contents.length ≤ outgrown.buffer.contents.length := by
  let grown := pooled.mutate growth contents
  let returned := PooledBuffer.new (grown.drop growth)
  have small : grown.bufferSize ≤ grown.buffer.capacity :=
    Nat.le_trans ((ObjectPool.holds_of_reachable (keeps_capacity growth bufferSize)
      (ObjectPool.permits_of_reachable reachable)).held reader pooled held)
      (ByteVec.capacity_le_store ..)
  have fits : contents.length ≤ returned.bufferSize := by
    have enough := length_le_bufferSize growth small
    rw [show grown.buffer.contents = contents from ByteVec.store_contents ..] at enough
    exact enough
  rcases ObjectPool.exists_mutated (pool growth bufferSize) size held contents with
    ⟨changed, mutated, heldGrown, freeChanged⟩
  rcases ObjectPool.exists_reissued (pool growth bufferSize) size heldGrown
    (by rw [freeChanged]; exact room) with
    ⟨dropped, reissued, dropStep, acquireStep, heldReturned, freeReissued⟩
  rcases ObjectPool.exists_reissued (pool growth bufferSize) size heldReturned
    (by rw [freeReissued, freeChanged]; exact room) with
    ⟨later, final, lastDrop, lastAcquire, heldFinal, -⟩
  rw [pool_issue, pool_reset] at heldFinal
  have first : (system Reader growth size bufferSize).Reaches TransitionSystem.Always state
      dropped := .step (.step .refl trivial mutated) trivial dropStep
  have second : (system Reader growth size bufferSize).Reaches TransitionSystem.Always state
      later := .step (.step first trivial acquireStep) trivial lastDrop
  have acquires : Acquires growth bufferSize later (PooledBuffer.new (returned.drop growth)) :=
    ⟨reader, final, lastAcquire, heldFinal⟩
  refine ⟨later, _, second, acquires, ?_⟩
  change contents.length ≤ (returned.drop growth).contents.length
  rw [length_drop]
  exact fits

/-- A buffer of four bytes is resized to five, dropped, acquired and dropped again. -/
theorem acquired_length_outgrown :
    ¬ ∀ (growth : Growth) (size bufferSize : Nat) (pooled : PooledBuffer),
      HandsOut Unit growth size bufferSize pooled →
      pooled.buffer.contents.length = bufferSize := by
  intro claim
  rcases exists_lent with ⟨lent, acquired, held, free⟩
  rcases exists_outgrown (.step .refl trivial acquired) held (by rw [free]; decide)
    [0, 0, 0, 0, 0] with ⟨later, outgrown, reaches, acquires, longer⟩
  have length := claim Growth.amortized 1 4 outgrown
    ⟨later, .trans (.step .refl trivial acquired) reaches, acquires⟩
  simp only [List.length_cons, List.length_nil] at longer
  omega

end BufferPool

end IoGateway

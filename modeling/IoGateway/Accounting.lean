import IoGateway.ConcurrentSenders

/-! # Traffic accounting

The sender counts a packet once, after its payload was compressed. The receiver counts the
header when it has decoded it, and the payload as it came off the wire.
-/

namespace IoGateway

open MutexStream

/-! ## What a whole frame is counted as -/

namespace PreparedPacket

def Whole (prepared : PreparedPacket) : Prop := Announces prepared.packet prepared.payload

/-- A stream of whole frames that is read to its end is read frame by frame. -/
theorem readAll_whole {zstd : Zstd} :
    ∀ (frames : List PreparedPacket) (pooled : Nat → Bytes) (statistics : ConnectionStatistics),
      (∀ frame, frame ∈ frames → frame.Whole) →
      (readAll zstd pooled statistics (frames.flatMap bytes)).rest = [] →
      (readAll zstd pooled statistics (frames.flatMap bytes)).packets.length = frames.length ∧
        (readAll zstd pooled statistics (frames.flatMap bytes)).statistics =
          frames.foldl countReceived statistics
  | [], pooled, statistics, _, _ => by
      have ended := readGwPacket_nil zstd (pooled 0) statistics
      rw [List.flatMap_nil, readAll_of_none (by rw [ended]), ended]
      exact ⟨rfl, rfl⟩
  | frame :: frames, pooled, statistics, whole, finished => by
      have first := @readGwPacket_announced zstd frame (whole frame (List.mem_cons_self ..))
        (pooled 0) statistics (frames.flatMap bytes)
      rw [List.flatMap_cons] at finished ⊢
      cases received : frame.received zstd with
      | none =>
          rw [readAll_of_none (by rw [first, received])] at finished
          have length := congrArg List.length finished
          simp [length_bytes, totalBytes, packetHeaderSize] at length
      | some packet =>
          rw [readAll_of_some (by rw [first, received])] at finished ⊢
          simp only [first] at finished ⊢
          have later := readAll_whole frames (fun index => pooled (index + 1))
            (countReceived statistics frame)
            (fun other member => whole other (List.mem_cons_of_mem _ member)) finished
          exact ⟨by rw [List.length_cons, later.1, List.length_cons], later.2⟩

/-! ## Totals -/

theorem ofNat_add_length (value : UInt64) (frame : PreparedPacket) (frames : List PreparedPacket) :
    value + UInt64.ofNat frame.totalBytes + UInt64.ofNat (frames.flatMap bytes).length =
      value + UInt64.ofNat ((frame :: frames).flatMap bytes).length := by
  rw [List.flatMap_cons, List.length_append, length_bytes, UInt64.ofNat_add, UInt64.add_assoc]

theorem one_add_ofNat_length (value : UInt64) (frames : List PreparedPacket) :
    value + 1 + UInt64.ofNat frames.length = value + UInt64.ofNat (frames.length + 1) := by
  rw [UInt64.ofNat_add, UInt64.add_assoc, UInt64.add_comm 1]
  rfl

theorem foldl_countSent (frames : List PreparedPacket) :
    ∀ statistics : ConnectionStatistics,
      (frames.foldl countSent statistics).packetsOut =
          statistics.packetsOut + UInt64.ofNat frames.length ∧
        (frames.foldl countSent statistics).bytesOut =
          statistics.bytesOut + UInt64.ofNat (frames.flatMap bytes).length := by
  induction frames with
  | nil =>
      intro statistics
      exact ⟨(UInt64.add_zero _).symm, (UInt64.add_zero _).symm⟩
  | cons frame frames induction =>
      intro statistics
      rcases induction (countSent statistics frame) with ⟨packets, total⟩
      refine ⟨?_, ?_⟩
      · rw [List.foldl_cons, packets, List.length_cons, ← one_add_ofNat_length]
        rfl
      · rw [List.foldl_cons, total, ← ofNat_add_length]
        rfl

theorem countReceived_bytesIn (statistics : ConnectionStatistics) (frame : PreparedPacket) :
    (countReceived statistics frame).bytesIn =
      statistics.bytesIn + UInt64.ofNat frame.totalBytes := by
  unfold countReceived totalBytes
  cases frame.payload with
  | none => rfl
  | some payload =>
      rw [Option.getD_some, UInt64.ofNat_add, ← UInt64.add_assoc]
      rfl

theorem countReceived_packetsIn (statistics : ConnectionStatistics) (frame : PreparedPacket) :
    (countReceived statistics frame).packetsIn = statistics.packetsIn + 1 := by
  unfold countReceived
  cases frame.payload <;> rfl

theorem foldl_countReceived (frames : List PreparedPacket) :
    ∀ statistics : ConnectionStatistics,
      (frames.foldl countReceived statistics).packetsIn =
          statistics.packetsIn + UInt64.ofNat frames.length ∧
        (frames.foldl countReceived statistics).bytesIn =
          statistics.bytesIn + UInt64.ofNat (frames.flatMap bytes).length := by
  induction frames with
  | nil =>
      intro statistics
      exact ⟨(UInt64.add_zero _).symm, (UInt64.add_zero _).symm⟩
  | cons frame frames induction =>
      intro statistics
      rcases induction (countReceived statistics frame) with ⟨packets, total⟩
      refine ⟨?_, ?_⟩
      · rw [List.foldl_cons, packets, List.length_cons, countReceived_packetsIn,
          one_add_ofNat_length]
      · rw [List.foldl_cons, total, countReceived_bytesIn, ofNat_add_length]

end PreparedPacket

theorem toNat_add_ofNat {value : UInt64} {increase : Nat} (fits : value.toNat + increase < 2 ^ 64) :
    (value + UInt64.ofNat increase).toNat = value.toNat + increase := by
  rw [UInt64.toNat_add, UInt64.toNat_ofNat']
  omega

/-! ## Both ends of a connection -/

theorem sendGwPacket_settle_comm (zstd : Zstd) (statistics : ConnectionStatistics)
    (first second : SendCall) :
    (sendGwPacket zstd).settle ((sendGwPacket zstd).settle statistics first) second =
      (sendGwPacket zstd).settle ((sendGwPacket zstd).settle statistics second) first := by
  simp only [sendGwPacket, PreparedPacket.countSent, ConnectionStatistics.incPacketsOut,
    ConnectionStatistics.addBytesOut, UInt64.add_assoc,
    UInt64.add_comm (UInt64.ofNat (preparePacket zstd first.1 first.2).totalBytes)]

/-- Every call that has written anything has returned. -/
structure Returned {Task : Type*}
    (state : MutexStream.State Task SendCall UInt8 ConnectionStatistics) : Prop where
  unlocked : state.holder = none
  settled : ∀ task, (state.phase task).unsettled = []

structure CountersFit (sent received : ConnectionStatistics) (packets bytes : Nat) : Prop where
  packetsOut : sent.packetsOut.toNat + packets < 2 ^ 64
  bytesOut : sent.bytesOut.toNat + bytes < 2 ^ 64
  packetsIn : received.packetsIn.toNat + packets < 2 ^ 64
  bytesIn : received.bytesIn.toNat + bytes < 2 ^ 64

/-- What the senders count is what the receiver counts is what went over the wire. -/
theorem traffic_accounted {Task : Type*} [DecidableEq Task] {zstd : Zstd}
    (lawful : zstd.Lawful) {calls : Task → List SendCall}
    (announced : ∀ task call, call ∈ calls task → Announces call.1 call.2)
    {sent received : ConnectionStatistics}
    {state : MutexStream.State Task SendCall UInt8 ConnectionStatistics}
    (reachable : (system (sendGwPacket zstd) calls sent).Reachable state)
    (returned : Returned state) {pooled : Nat → Bytes} {outcome : ReadAllOutcome}
    (read : readAll zstd pooled received state.stream = outcome) (finished : outcome.rest = [])
    (fits : CountersFit sent received outcome.packets.length state.stream.length) :
    state.account.packetsOut.toNat = sent.packetsOut.toNat + outcome.packets.length ∧
      outcome.statistics.packetsIn.toNat =
        received.packetsIn.toNat + outcome.packets.length ∧
      state.account.bytesOut.toNat = sent.bytesOut.toNat + state.stream.length ∧
      outcome.statistics.bytesIn.toNat = received.bytesIn.toNat + state.stream.length := by
  let frames := state.log.map fun entry => preparePacket zstd entry.2.1 entry.2.2
  have stream : state.stream = frames.flatMap PreparedPacket.bytes := by
    rw [stream_of_unlocked reachable returned.unlocked, List.flatMap_map]
    rfl
  have account : state.account = frames.foldl PreparedPacket.countSent sent := by
    rw [account_of_settled reachable returned.settled (sendGwPacket_settle_comm zstd),
      List.foldl_map, List.foldl_map]
    rfl
  have whole : ∀ frame, frame ∈ frames → frame.Whole := by
    intro frame member
    rcases List.mem_map.mp member with ⟨entry, logged, rfl⟩
    exact preparePacket_announces lawful
      (announced entry.1 entry.2 (mem_todo_of_log reachable logged))
  rw [← read] at finished
  rw [stream] at finished read
  rcases PreparedPacket.readAll_whole frames pooled received whole finished with
    ⟨packets, statistics⟩
  rw [read] at packets statistics
  rcases PreparedPacket.foldl_countSent frames sent with ⟨packetsOut, bytesOut⟩
  rcases PreparedPacket.foldl_countReceived frames received with ⟨packetsIn, bytesIn⟩
  rw [packets, stream] at fits
  rw [account, statistics, packetsOut, bytesOut, packetsIn, bytesIn, packets, stream]
  exact ⟨toNat_add_ofNat fits.packetsOut, toNat_add_ofNat fits.packetsIn,
    toNat_add_ofNat fits.bytesOut, toNat_add_ofNat fits.bytesIn⟩

def twoSendersSettled : MutexStream.State Bool SendCall UInt8 ConnectionStatistics :=
  ((system (sendGwPacket Zstd.runLength) twoSenders .new).step twoSendersEnd
    (.settle false)).getD twoSendersEnd

theorem traffic_accounted_two :
    let outcome := readAll Zstd.runLength (fun _ => []) .new twoSendersSettled.stream
    twoSendersSettled.account.packetsOut.toNat = 0 + outcome.packets.length ∧
      outcome.statistics.packetsIn.toNat = 0 + outcome.packets.length ∧
      twoSendersSettled.account.bytesOut.toNat = 0 + twoSendersSettled.stream.length ∧
      outcome.statistics.bytesIn.toNat = 0 + twoSendersSettled.stream.length := by
  have executed : (system (sendGwPacket Zstd.runLength) twoSenders .new).run
      (system (sendGwPacket Zstd.runLength) twoSenders .new).start
        (twoSendersRun ++ [.settle false]) = some twoSendersSettled := rfl
  have sendable : ∀ call, call ∈ twoSenders true ++ twoSenders false →
      Sendable call.1 call.2 := by
    intro call member
    rcases List.mem_append.mp member with first | second
    · cases List.mem_singleton.mp first
      exact ⟨rfl, rfl, by decide, by decide⟩
    · cases List.mem_singleton.mp second
      exact ⟨rfl, rfl, by decide, by decide⟩
  have announced : ∀ task call, call ∈ twoSenders task → Announces call.1 call.2 := by
    intro task call member
    have sent : Sendable call.1 call.2 := by
      apply sendable
      cases task with
      | true => exact List.mem_append_left _ member
      | false => exact List.mem_append_right _ member
    exact ⟨sent.sized, sent.nonempty, sent.bounded⟩
  have stream : twoSendersSettled.stream =
      (twoSenders true ++ twoSenders false).flatMap (sendGwPacket Zstd.runLength).bytes := rfl
  rcases readAll_sendGwPacket Zstd.runLength_lawful _ sendable (fun _ => []) .new with
    ⟨packets, finished⟩
  have length := congrArg List.length packets
  rw [List.length_map, List.length_map, ← stream] at length
  rw [← stream] at finished
  refine traffic_accounted Zstd.runLength_lawful announced
    (TransitionSystem.reaches_of_run executed) ⟨rfl, ?_⟩ rfl finished ?_
  · intro task
    cases task <;> rfl
  · rw [length]
    exact ⟨by decide, by decide, by decide, by decide⟩

end IoGateway

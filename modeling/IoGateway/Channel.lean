import IoGateway.Conversation
import IoGateway.Gateway

/-! # A gateway connection as a channel of frames

The bytes that a writer has accepted are its whole frames and possibly the front of
one more. What the other side has read of them is a front of these frames.
-/

namespace IoGateway

variable {zstd : Zstd} {writer after : GatewayWriter} {call : SendCall}

def frameBytes (zstd : Zstd) (call : SendCall) : Bytes := (sendGwPacket zstd).bytes call

theorem frameBytes_eq (zstd : Zstd) (call : SendCall) :
    frameBytes zstd call = (preparePacket zstd call.1 call.2).bytes := rfl

/-- No whole frame: nothing, or the front of a frame whose write has failed. -/
def Truncated (zstd : Zstd) (bytes : Bytes) : Prop :=
  bytes = [] ∨ ∃ call : SendCall, Sendable call.1 call.2 ∧
    ∃ accepted < (frameBytes zstd call).length, bytes = (frameBytes zstd call).take accepted

/-- The writer's bytes are its frames, and the rest of them the front of a frame. -/
structure Framed (zstd : Zstd) (writer : GatewayWriter) : Prop where
  sendable : ∀ call ∈ writer.frames, Sendable call.1 call.2
  bytes : ∃ tail, writer.half.written = writer.frames.flatMap (frameBytes zstd) ++ tail ∧
    (writer.half.failed = false → tail = []) ∧ Truncated zstd tail

theorem framed_new : Framed zstd .new where
  sendable := fun _ member => by cases member
  bytes := ⟨[], rfl, fun _ => rfl, .inl rfl⟩

/-- What a send does to a writer that accepts nothing after a failure. -/
inductive SendStep (zstd : Zstd) (writer : GatewayWriter) (call : SendCall) :
    GatewayWriter → Prop
  | sent (healthy : writer.half.failed = false) {after : GatewayWriter}
      (written : after.half.written = writer.half.written ++ frameBytes zstd call)
      (failed : after.half.failed = false) (frames : after.frames = writer.frames ++ [call]) :
      SendStep zstd writer call after
  | broken (healthy : writer.half.failed = false) {after : GatewayWriter} {accepted : Nat}
      (partially : accepted < (frameBytes zstd call).length)
      (written : after.half.written =
        writer.half.written ++ (frameBytes zstd call).take accepted)
      (failed : after.half.failed = true) (frames : after.frames = writer.frames) :
      SendStep zstd writer call after
  | refused (broken : writer.half.failed = true) {after : GatewayWriter}
      (written : after.half.written = writer.half.written)
      (failed : after.half.failed = true) (frames : after.frames = writer.frames) :
      SendStep zstd writer call after

theorem sendStep_of_eq {outcome : WriteOutcome}
    (sent : writer.send zstd call outcome = some after) (sticky : after.half.resumed = false) :
    SendStep zstd writer call after := by
  rcases Option.map_eq_some_iff.mp sent with ⟨half, wrote, equal⟩
  cases outcome with
  | ok =>
      rcases WriteHalf.writeAll_ok_eq_some.mp wrote with ⟨_, rfl⟩
      subst equal
      have healthy : writer.half.failed = false := by
        simpa [GatewayWriter.bytes_ne_nil zstd call] using (Bool.or_eq_false_iff.mp sticky).2
      exact .sent healthy rfl healthy rfl
  | failed accepted =>
      rcases WriteHalf.writeAll_failed_eq_some.mp wrote with ⟨⟨partially, _⟩, rfl⟩
      subst equal
      cases broken : writer.half.failed with
      | false => exact .broken broken partially rfl rfl rfl
      | true =>
          simp only [broken, Bool.true_and, Bool.or_eq_false_iff, decide_eq_false_iff_not,
            ne_eq, not_not] at sticky
          refine .refused broken ?_ rfl rfl
          change writer.half.written ++ _ = _
          rw [sticky.2, List.take_zero, List.append_nil]

theorem Framed.send (framed : Framed zstd writer) (sendable : Sendable call.1 call.2)
    (sent : SendStep zstd writer call after) : Framed zstd after := by
  rcases framed.bytes with ⟨tail, written, whole, truncated⟩
  cases sent with
  | sent healthy grown failed frames =>
      refine ⟨?_, [], ?_, fun _ => rfl, .inl rfl⟩
      · intro other member
        rw [frames, List.mem_append, List.mem_singleton] at member
        rcases member with member | rfl
        · exact framed.sendable other member
        · exact sendable
      · rw [grown, written, frames, whole healthy]
        simp
  | @broken healthy after accepted partially grown failed frames =>
      refine ⟨frames ▸ framed.sendable, (frameBytes zstd call).take accepted, ?_, ?_, ?_⟩
      · rw [grown, written, frames, whole healthy, List.append_nil]
      · intro healthy
        rw [failed] at healthy
        cases healthy
      · exact .inr ⟨call, sendable, accepted, partially, rfl⟩
  | refused broken same failed frames =>
      refine ⟨frames ▸ framed.sendable, tail, by rw [same, frames, written], ?_, truncated⟩
      intro healthy
      rw [failed] at healthy
      cases healthy

theorem Framed.silent (framed : Framed zstd writer) (silent : writer.Silent after) :
    Framed zstd after := by
  refine ⟨silent.frames ▸ framed.sendable, ?_⟩
  rw [silent.written, silent.frames, silent.failed]
  exact framed.bytes

/-! ## Reading -/

/-- `read_packet` on the bytes that have been sent and not yet read: the packet, and
how many bytes have been read after it. The counters passed along do not matter. -/
def receiveFrame (zstd : Zstd) (writer : GatewayWriter) (consumed : Nat) (pooled : Bytes) :
    Option (SendCall × Nat) :=
  let outcome := readGwPacket zstd pooled .new (writer.half.written.drop consumed)
  outcome.packet.map fun packet =>
    (packet, writer.half.written.length - outcome.rest.length)

/-- The front of a frame is not read as a packet. -/
theorem readGwPacket_of_truncated (lawful : zstd.Lawful) {bytes : Bytes}
    (truncated : Truncated zstd bytes) (pooled : Bytes) (statistics : ConnectionStatistics) :
    (readGwPacket zstd pooled statistics bytes).packet = none := by
  rcases truncated with rfl | ⟨call, sendable, accepted, partially, rfl⟩
  · rw [readGwPacket_nil]
  · by_contra some
    rcases Option.ne_none_iff_exists'.mp some with ⟨⟨packet, data⟩, read⟩
    rcases readGwPacket_eq_some read with ⟨header, raw, split, headerLength, rawLength, decoded⟩
    generalize (readGwPacket zstd pooled statistics _).rest = rest at split
    have describes := preparePacket_describes lawful sendable
    generalize prepared : preparePacket zstd call.1 call.2 = sent at describes
    have whole : frameBytes zstd call = sent.packet.toBytes ++ sent.payload.getD [] := by
      rw [frameBytes_eq, prepared, PreparedPacket.bytes_eq]
    have same : header = sent.packet.toBytes := by
      have joined := List.take_append_drop accepted (frameBytes zstd call)
      rw [split, whole, List.append_assoc, List.append_assoc] at joined
      exact (List.append_inj joined (by rw [headerLength, PacketGW.length_toBytes])).1
    have decodes := PacketGW.fromBytes_toBytes_append sent.packet []
    rw [List.append_nil, ← same, decoded] at decodes
    cases decodes
    have lengths := congrArg List.length split
    rw [whole] at partially lengths
    simp only [List.length_take, List.length_append, PacketGW.length_toBytes] at partially lengths
    rw [describes.sized] at rawLength
    omega

/-- The packets that have been read are a front of the frames that have been sent, and
the bytes read so far are those of these frames. -/
structure Delivered (zstd : Zstd) (writer : GatewayWriter) (consumed : Nat)
    (received : List SendCall) : Prop where
  frames : received.map Frame.of <+: writer.frames.map Frame.of
  consumed : consumed =
    ((writer.frames.take received.length).flatMap (frameBytes zstd)).length

theorem delivered_nil (zstd : Zstd) (writer : GatewayWriter) : Delivered zstd writer 0 [] where
  frames := List.nil_prefix
  consumed := rfl

theorem Delivered.length_le {consumed : Nat} {received : List SendCall}
    (delivered : Delivered zstd writer consumed received) :
    received.length ≤ writer.frames.length := by
  simpa using delivered.frames.length_le

theorem Delivered.grow {consumed : Nat} {received : List SendCall}
    (delivered : Delivered zstd writer consumed received)
    (grown : writer.frames <+: after.frames) : Delivered zstd after consumed received := by
  have reached := delivered.length_le
  rcases grown with ⟨later, grown⟩
  refine ⟨delivered.frames.trans ?_, ?_⟩
  · rw [← grown, List.map_append]
    exact List.prefix_append _ _
  · rw [← grown, List.take_append_of_le_length reached]
    exact delivered.consumed

/-- A frame that has been sent and not been read can be read. -/
theorem Delivered.exists_receive {consumed : Nat} {received : List SendCall}
    (lawful : zstd.Lawful) (framed : Framed zstd writer)
    (delivered : Delivered zstd writer consumed received)
    (unread : received.length < writer.frames.length) (pooled : Bytes) :
    ∃ frame after, receiveFrame zstd writer consumed pooled = some (frame, after) := by
  rcases framed.bytes with ⟨tail, written, _, _⟩
  have split := List.take_append_drop received.length writer.frames
  rw [List.drop_eq_getElem_cons unread] at split
  generalize call_ : writer.frames[received.length] = call at split
  have sendable : Sendable call.1 call.2 := framed.sendable call (call_ ▸ List.getElem_mem unread)
  have stream : writer.half.written.drop consumed = (preparePacket zstd call.1 call.2).bytes ++
      ((writer.frames.drop (received.length + 1)).flatMap (frameBytes zstd) ++ tail) := by
    rw [written, delivered.consumed]
    nth_rewrite 2 [← split]
    rw [List.flatMap_append, List.append_assoc, List.drop_left, List.flatMap_cons,
      List.append_assoc, frameBytes_eq]
  unfold receiveFrame
  rw [stream, readGwPacket_bytes_append (preparePacket_describes lawful sendable)]
  exact ⟨_, _, rfl⟩

theorem Delivered.receive {consumed after : Nat} {received : List SendCall} {frame : SendCall}
    {pooled : Bytes} (lawful : zstd.Lawful) (framed : Framed zstd writer)
    (delivered : Delivered zstd writer consumed received)
    (read : receiveFrame zstd writer consumed pooled = some (frame, after)) :
    Delivered zstd writer after (received ++ [frame]) := by
  rcases framed.bytes with ⟨tail, written, _, truncated⟩
  have split := List.take_append_drop received.length writer.frames
  generalize front : writer.frames.take received.length = read_ at split
  generalize writer.frames.drop received.length = unread at split
  have consumedLength := delivered.consumed
  rw [front] at consumedLength
  have stream : writer.half.written.drop consumed = unread.flatMap (frameBytes zstd) ++ tail := by
    rw [written, ← split, List.flatMap_append, List.append_assoc, consumedLength,
      List.drop_left]
  unfold receiveFrame at read
  rw [stream] at read
  cases unread with
  | nil =>
      simp only [List.flatMap_nil, List.nil_append,
        readGwPacket_of_truncated lawful truncated] at read
      cases read
  | cons call rest =>
      have sendable := framed.sendable call (by rw [← split]; simp)
      have outcome := readGwPacket_bytes_append (preparePacket_describes lawful sendable) pooled
        .new (rest.flatMap (frameBytes zstd) ++ tail)
      rw [List.flatMap_cons, List.append_assoc, frameBytes_eq, outcome] at read
      simp only [Option.map_some, Option.some.injEq, Prod.mk.injEq] at read
      rcases read with ⟨rfl, rfl⟩
      have reached : read_.length = received.length := by
        rw [← front, List.length_take, Nat.min_eq_left delivered.length_le]
      have same : received.map Frame.of = read_.map Frame.of := by
        have frames := delivered.frames
        rw [← split, List.map_append] at frames
        exact List.prefix_of_prefix_length_le frames (List.prefix_append _ _)
          (by simp [reached]) |>.eq_of_length (by simp [reached])
      constructor
      · refine ⟨rest.map Frame.of, ?_⟩
        rw [← split, List.map_append, same]
        simp [Frame.of_preparePacket]
      · have next : writer.frames.take (received.length + 1) = read_ ++ [call] := by
          rw [← split, ← reached]
          simp [List.take_append]
        have counted : (received ++ [((preparePacket zstd call.1 call.2).packet, call.2)]).length =
            received.length + 1 := List.length_append
        rw [counted, next, written, ← split]
        simp only [List.flatMap_append, List.flatMap_cons, List.flatMap_nil, List.append_nil,
          List.length_append]
        omega

end IoGateway

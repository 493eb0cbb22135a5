import IoGateway.Foundation.MutexStream
import IoGateway.Framing

/-! # Concurrent senders on one gateway writer

`send_gw_packet` by any number of tasks on one shared writer. A call prepares
its packet, locks the socket, writes the header and the payload with separate
`write_all` calls, drops the lock and then updates the statistics.
-/

namespace IoGateway

open MutexStream

abbrev SendCall := PacketGW × Option Bytes

def sendGwPacket (zstd : Zstd) : Protocol SendCall UInt8 ConnectionStatistics where
  chunks call := (preparePacket zstd call.1 call.2).chunks
  settle statistics call := PreparedPacket.countSent statistics (preparePacket zstd call.1 call.2)

/-- What a frame says, apart from the header fields that depend on how its
payload travelled. -/
structure Frame where
  packetType : PacketType
  packetId : UInt64
  linkId : UInt16
  payload : Option Bytes
deriving DecidableEq, Repr

def Frame.of (call : SendCall) : Frame where
  packetType := call.1.packetType
  packetId := call.1.packetId
  linkId := call.1.linkId
  payload := call.2

theorem Frame.of_preparePacket (zstd : Zstd) (call : SendCall) :
    Frame.of ((preparePacket zstd call.1 call.2).packet, call.2) = Frame.of call := by
  rcases preparePacket_fields zstd call.1 call.2 with ⟨packetType, packetId, linkId⟩
  simp [Frame.of, packetType, packetId, linkId]

theorem readAll_sendGwPacket {zstd : Zstd} (lawful : zstd.Lawful) (calls : List SendCall)
    (sendable : ∀ call, call ∈ calls → Sendable call.1 call.2) (pooled : Nat → Bytes)
    (statistics : ConnectionStatistics) :
    let outcome := readAll zstd pooled statistics (calls.flatMap (sendGwPacket zstd).bytes)
    outcome.packets.map Frame.of = calls.map Frame.of ∧ outcome.rest = [] := by
  have frames := readAll_flatMap
    (calls.map fun call => (preparePacket zstd call.1 call.2, call.2)) pooled statistics
    (by
      intro frame member
      rcases List.mem_map.mp member with ⟨call, source, rfl⟩
      exact preparePacket_describes lawful (sendable call source))
  rw [List.flatMap_map] at frames
  have stream : calls.flatMap (sendGwPacket zstd).bytes =
      calls.flatMap fun call => (preparePacket zstd call.1 call.2).bytes := rfl
  simp only [stream, frames, and_true, List.map_map]
  apply List.map_congr_left
  intro call _
  exact Frame.of_preparePacket zstd call

/-- Whatever the interleaving of the senders' lock acquisitions and writes,
reading the stream until its end returns a merge of their calls. -/
theorem readAll_of_concurrent_sends {Task : Type*} [DecidableEq Task] {zstd : Zstd}
    (lawful : zstd.Lawful) {calls : Task → List SendCall}
    (sendable : ∀ task call, call ∈ calls task → Sendable call.1 call.2)
    {sent : ConnectionStatistics}
    {state : MutexStream.State Task SendCall UInt8 ConnectionStatistics}
    (reachable : (system (sendGwPacket zstd) calls sent).Reachable state)
    (finished : Finished state) (pooled : Nat → Bytes) (received : ConnectionStatistics) :
    Interleaves (fun task => (calls task).map Frame.of)
        ((readAll zstd pooled received state.stream).packets.map Frame.of) ∧
      (readAll zstd pooled received state.stream).rest = [] := by
  rcases stream_of_finished reachable finished with ⟨merged, interleaves, stream⟩
  have mergedSendable : ∀ call, call ∈ merged → Sendable call.1 call.2 := by
    intro call member
    rcases interleaves.mem member with ⟨task, member⟩
    exact sendable task call member
  rcases readAll_sendGwPacket lawful merged mergedSendable pooled received with ⟨packets, rest⟩
  rw [stream]
  refine ⟨?_, rest⟩
  rw [packets]
  exact interleaves.map Frame.of

/-! A run of two senders: the second queues while the first holds the lock
between its header and its payload. -/

def twoSenders : Bool → List SendCall
  | true => [(PacketGW.new .regular 1 7 3, some [10, 20, 30])]
  | false => [(PacketGW.new .ping 2 0 0, none)]

def twoSendersRun : List (MutexStream.Action Bool) :=
  [.begin true, .acquire true, .write true, .begin false, .write true, .release true,
    .acquire false, .settle true, .write false, .release false]

def twoSendersEnd : MutexStream.State Bool SendCall UInt8 ConnectionStatistics :=
  let senders := system (sendGwPacket Zstd.runLength) twoSenders .new
  (senders.run senders.start twoSendersRun).getD senders.start

theorem readAll_of_concurrent_sends_two :
    Interleaves (fun task => (twoSenders task).map Frame.of)
        ((readAll Zstd.runLength (fun _ => []) .new twoSendersEnd.stream).packets.map Frame.of) ∧
      (readAll Zstd.runLength (fun _ => []) .new twoSendersEnd.stream).rest = [] := by
  have sendable : ∀ task call, call ∈ twoSenders task → Sendable call.1 call.2 := by
    intro task call member
    cases task with
    | true =>
        cases List.mem_singleton.mp member
        exact ⟨rfl, rfl, by decide, by decide⟩
    | false =>
        cases List.mem_singleton.mp member
        exact ⟨rfl, rfl, by decide, by decide⟩
  have executed : (system (sendGwPacket Zstd.runLength) twoSenders .new).run
      (system (sendGwPacket Zstd.runLength) twoSenders .new).start twoSendersRun =
        some twoSendersEnd := rfl
  have finished : Finished twoSendersEnd := by
    intro task
    cases task <;> exact ⟨rfl, rfl⟩
  exact readAll_of_concurrent_sends Zstd.runLength_lawful sendable
    (TransitionSystem.reaches_of_run executed) finished (fun _ => []) .new

end IoGateway

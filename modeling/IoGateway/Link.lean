import IoGateway.Consts

/-! # Connections to applications

The write half of a socket with what has happened to it so far, and the `Link`
record of `link.rs` around the socket of one application. The awaiter field is
left out: nothing ever sets it.
-/

namespace IoGateway

/-- Result of a `write_all`: everything was accepted, or an error came after
some of the bytes. -/
inductive WriteOutcome
  | ok
  | failed (accepted : Nat)
deriving DecidableEq, Repr

/-- The write half of a TCP socket. `written` is every byte the socket has
accepted, `shut` whether this side has shut it down, `reset` whether the peer
is gone, `failed` whether a write has failed, and `resumed` whether it has
accepted bytes after that. -/
structure WriteHalf where
  written : Bytes
  shut : Bool
  reset : Bool
  failed : Bool
  resumed : Bool
deriving DecidableEq, Repr

namespace WriteHalf

def new : WriteHalf := ⟨[], false, false, false, false⟩

def dead (half : WriteHalf) : Bool := half.shut || half.reset

/-- `write_all` with the given outcome, `none` where it cannot have it: a dead
socket accepts no byte, an error leaves at least one byte over, and a write of
nothing succeeds on any socket. -/
def writeAll (half : WriteHalf) (bytes : Bytes) : WriteOutcome → Option WriteHalf
  | .ok =>
      if half.dead = true ∧ bytes ≠ [] then none
      else some { half with
        written := half.written ++ bytes
        resumed := half.resumed || (half.failed && decide (bytes ≠ [])) }
  | .failed accepted =>
      if accepted < bytes.length ∧ (half.dead = true → accepted = 0) then
        some { half with
          written := half.written ++ bytes.take accepted
          failed := true
          resumed := half.resumed || (half.failed && decide (accepted ≠ 0)) }
      else none

theorem writeAll_ok_eq_some {half after : WriteHalf} {bytes : Bytes} :
    half.writeAll bytes .ok = some after ↔ (half.dead = true → bytes = []) ∧
      after = { half with
        written := half.written ++ bytes
        resumed := half.resumed || (half.failed && decide (bytes ≠ [])) } := by
  simp only [writeAll]
  constructor
  · intro wrote
    split at wrote
    · cases wrote
    · rename_i possible
      exact ⟨fun dead => Decidable.byContradiction fun some_ => possible ⟨dead, some_⟩,
        (Option.some.inj wrote).symm⟩
  · intro written
    rw [if_neg fun refused => refused.2 (written.1 refused.1), written.2]

theorem alive_of_writeAll {half after : WriteHalf} {bytes : Bytes} (some_ : bytes ≠ [])
    (wrote : half.writeAll bytes .ok = some after) : half.dead = false := by
  cases dead : half.dead with
  | false => rfl
  | true => exact absurd ((writeAll_ok_eq_some.mp wrote).1 dead) some_

theorem writeAll_failed_eq_some {half after : WriteHalf} {bytes : Bytes} {accepted : Nat} :
    half.writeAll bytes (.failed accepted) = some after ↔
      (accepted < bytes.length ∧ (half.dead = true → accepted = 0)) ∧
      after = { half with
        written := half.written ++ bytes.take accepted
        failed := true
        resumed := half.resumed || (half.failed && decide (accepted ≠ 0)) } := by
  simp only [writeAll]
  constructor
  · intro wrote
    split at wrote
    · rename_i possible
      exact ⟨possible, (Option.some.inj wrote).symm⟩
    · cases wrote
  · intro written
    rw [if_pos written.1, written.2]

theorem exists_writeAll (half : WriteHalf) (bytes : Bytes) :
    ∃ outcome after, half.writeAll bytes outcome = some after := by
  by_cases possible : half.dead = true → bytes = []
  · exact ⟨.ok, _, writeAll_ok_eq_some.mpr ⟨possible, rfl⟩⟩
  · rcases Classical.not_imp.mp possible with ⟨_, some_⟩
    exact ⟨.failed 0, _, writeAll_failed_eq_some.mpr
      ⟨⟨List.length_pos_iff.mpr some_, fun _ => rfl⟩, rfl⟩⟩

def shutdown (half : WriteHalf) : WriteHalf := { half with shut := true }

def peerReset (half : WriteHalf) : WriteHalf := { half with reset := true }

end WriteHalf

inductive ConnectionState
  | disconnected
  | connected
  | waiting
deriving DecidableEq, Repr

/-- A connection to an application. `received` is every byte read from it. -/
structure Link where
  connectionId : UInt16
  writer : WriteHalf
  state : ConnectionState
  statistics : ConnectionStatistics
  received : Bytes
deriving DecidableEq, Repr

/-- The shared reference `Arc<Mutex<Link>>`. -/
abbrev LinkRef := Nat

namespace Link

def new (connectionId : UInt16) : Link where
  connectionId := connectionId
  writer := .new
  state := .disconnected
  statistics := .new
  received := []

/-- `send_packet`: unless the link is connected the data is not sent. -/
def sendPacket (link : Link) (payload : Bytes) (outcome : WriteOutcome) : Option Link :=
  if link.state ≠ .connected then
    some link
  else
    (link.writer.writeAll payload outcome).map fun writer =>
      match outcome with
      | .ok => { link with
          writer := writer
          statistics := link.statistics.addBytesOut (UInt64.ofNat payload.length) }
      | .failed _ => { link with writer := writer }

def sent (payload : Bytes) (outcome : WriteOutcome) (link : Link) : Link :=
  (link.sendPacket payload outcome).getD link

def under (linkId : UInt16) (link : Link) : Option Link :=
  if link.connectionId = linkId then some link else none

theorem sent_of_eq {link written : Link} {payload : Bytes} {outcome : WriteOutcome}
    (wrote : link.sendPacket payload outcome = some written) :
    link.sent payload outcome = written := by
  rw [sent, wrote, Option.getD_some]

theorem under_self {linkId : UInt16} {link : Link} (carried : link.connectionId = linkId) :
    link.under linkId = some link :=
  if_pos carried

theorem under_of_ne {linkId : UInt16} {link : Link} (different : link.connectionId ≠ linkId) :
    link.under linkId = none :=
  if_neg different

inductive SendPacketStep (link : Link) (payload : Bytes) : WriteOutcome → Link → Prop
  | dropped {outcome : WriteOutcome} (gated : link.state ≠ .connected) :
      SendPacketStep link payload outcome link
  | sent (connected : link.state = .connected)
      (alive : link.writer.dead = true → payload = []) :
      SendPacketStep link payload .ok
        { link with
          writer := { link.writer with
            written := link.writer.written ++ payload
            resumed := link.writer.resumed || (link.writer.failed && decide (payload ≠ [])) }
          statistics := link.statistics.addBytesOut (UInt64.ofNat payload.length) }
  | failed {accepted : Nat} (connected : link.state = .connected)
      (partially : accepted < payload.length)
      (dead : link.writer.dead = true → accepted = 0) :
      SendPacketStep link payload (.failed accepted)
        { link with
          writer := { link.writer with
            written := link.writer.written ++ payload.take accepted
            failed := true
            resumed := link.writer.resumed || (link.writer.failed && decide (accepted ≠ 0)) } }

theorem sendPacketStep_of_eq {link written : Link} {payload : Bytes} {outcome : WriteOutcome}
    (sent : link.sendPacket payload outcome = some written) :
    SendPacketStep link payload outcome written := by
  unfold sendPacket at sent
  by_cases connected : link.state = .connected
  · rw [if_neg (fun different => different connected)] at sent
    rcases Option.map_eq_some_iff.mp sent with ⟨half, wrote, equal⟩
    cases outcome with
    | ok =>
        rcases WriteHalf.writeAll_ok_eq_some.mp wrote with ⟨alive, after⟩
        subst after
        cases equal
        exact .sent connected alive
    | failed accepted =>
        rcases WriteHalf.writeAll_failed_eq_some.mp wrote with ⟨⟨partially, dead⟩, after⟩
        subst after
        cases equal
        exact .failed connected partially dead
  · rw [if_pos connected] at sent
    cases sent
    exact .dropped connected

theorem exists_sent {link : Link} (payload : Bytes) (connected : link.state = .connected)
    (alive : link.writer.dead = false) :
    ∃ written, link.sendPacket payload .ok = some written ∧
      written.writer.written = link.writer.written ++ payload := by
  have wrote : link.writer.writeAll payload .ok = some _ :=
    WriteHalf.writeAll_ok_eq_some.mpr ⟨fun dead => Bool.noConfusion (alive.symm.trans dead), rfl⟩
  simp only [sendPacket, connected, ne_eq, not_true_eq_false, if_false, wrote, Option.map_some]
  exact ⟨_, rfl, rfl⟩

theorem exists_sendPacket (link : Link) (payload : Bytes) :
    ∃ outcome after, link.sendPacket payload outcome = some after := by
  unfold sendPacket
  split
  · exact ⟨.ok, link, rfl⟩
  · rcases link.writer.exists_writeAll payload with ⟨outcome, half, wrote⟩
    exact ⟨outcome, _, Option.map_eq_some_iff.mpr ⟨half, wrote, rfl⟩⟩

def addIncoming (link : Link) (bytes : UInt64) : Link :=
  { link with statistics := link.statistics.addBytesIn bytes }

/-- `set_state` also resets the byte counters. -/
def setState (link : Link) (state : ConnectionState) : Link :=
  { link with
    state := state
    statistics := { link.statistics with bytesIn := 0, bytesOut := 0 } }

def closeConnection (link : Link) : Link :=
  { link with writer := link.writer.shutdown, state := .disconnected }

def receive (link : Link) (chunk : Bytes) : Link :=
  { link with received := link.received ++ chunk }

structure Quiet (before after : Link) : Prop where
  connectionId : after.connectionId = before.connectionId
  written : after.writer.written = before.writer.written
  failed : after.writer.failed = before.writer.failed
  received : after.received = before.received

theorem Quiet.refl (link : Link) : link.Quiet link := ⟨rfl, rfl, rfl, rfl⟩

theorem quiet_closeConnection (link : Link) : link.Quiet link.closeConnection :=
  ⟨rfl, rfl, rfl, rfl⟩

theorem SendPacketStep.state {before after : Link} {payload : Bytes} {outcome : WriteOutcome}
    (sent : before.SendPacketStep payload outcome after) : after.state = before.state := by
  cases sent <;> rfl

/-- A payload reaches the socket whole, in part or not at all. -/
theorem SendPacketStep.data {before after : Link} {payload : Bytes}
    {outcome : WriteOutcome} (sent : before.SendPacketStep payload outcome after) :
    after.connectionId = before.connectionId ∧ after.received = before.received ∧
      ∃ accepted, accepted <+: payload ∧
        after.writer.written = before.writer.written ++ accepted := by
  cases sent with
  | dropped => exact ⟨rfl, rfl, [], List.nil_prefix, (List.append_nil _).symm⟩
  | sent => exact ⟨rfl, rfl, payload, List.prefix_refl _, rfl⟩
  | failed => exact ⟨rfl, rfl, _, List.take_prefix _ _, rfl⟩

end Link

end IoGateway

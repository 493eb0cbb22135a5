import IoGateway.Channel

/-! # The sending side of gateway connections

What the server and a client have in common when they forward the data of their
applications. Each link sends a frame that opens it, then the chunks that are read
from its application, and then its `Close`, all on one connection; the links of a
connection share its writer.
-/

namespace IoGateway

/-- The frames by which one side opens its links or refuses to. -/
structure Signals where
  opening : PacketType
  refusal : Option PacketType
  opening_bare : opening ≠ .regular ∧ opening ≠ .close
  refusal_bare : ∀ type, refusal = some type →
    type ≠ opening ∧ type ≠ .regular ∧ type ≠ .close

/-- How far the sender of a link has come, with the chunk it has read and not sent. -/
inductive SenderPhase
  | unopened
  | forwarding (chunk : Option Bytes)
  | closed
deriving DecidableEq

def SenderPhase.pending : SenderPhase → Bytes
  | .forwarding (some chunk) => chunk
  | _ => []

@[simp] theorem SenderPhase.pending_unopened : SenderPhase.unopened.pending = [] := rfl

@[simp] theorem SenderPhase.pending_idle : (SenderPhase.forwarding none).pending = [] := rfl

@[simp] theorem SenderPhase.pending_chunk (chunk : Bytes) :
    (SenderPhase.forwarding (some chunk)).pending = chunk := rfl

@[simp] theorem SenderPhase.pending_closed : SenderPhase.closed.pending = [] := rfl

/-- The sender of one link. `received` is every byte read from the application. -/
structure Sender where
  phase : SenderPhase
  connection : ConnectionRef
  received : Bytes

def Sender.idle : Sender := ⟨.unopened, 0, []⟩

/-- The senders by the identifiers of their links, and the writers of all connections. -/
structure Senders where
  link : UInt16 → Sender
  writer : ConnectionRef → GatewayWriter

def Senders.new : Senders := ⟨fun _ => .idle, fun _ => .new⟩

def GatewayWriter.sent (writer : GatewayWriter) : List Frame := writer.frames.map Frame.of

def WritersSilent (before after : ConnectionRef → GatewayWriter) : Prop :=
  ∀ connection, (before connection).Silent (after connection)

structure SentOn (zstd : Zstd) (before after : ConnectionRef → GatewayWriter)
    (connection : ConnectionRef) (call : SendCall) : Prop where
  sent : SendStep zstd (before connection) call (after connection)
  others : ∀ other, other ≠ connection → (before other).Silent (after other)

theorem sentOn_of_send {zstd : Zstd} {sockets after : GatewaySockets} {ref : ConnectionRef}
    {call : SendCall} {outcome : WriteOutcome}
    (sent : sockets.send zstd ref call outcome = some after)
    (sticky : (after.writer ref).half.resumed = false) :
    SentOn zstd sockets.writer after.writer ref call where
  sent := sendStep_of_eq (GatewaySockets.send_own sent) sticky
  others := by
    intro other different
    rw [GatewaySockets.send_other sent different]
    exact .refl _

inductive SenderSends (signals : Signals) (linkId : UInt16) : Sender → SendCall → Sender → Prop
  | opened {connection : ConnectionRef} {packetId : UInt64} :
      SenderSends signals linkId .idle (PacketGW.new signals.opening packetId linkId 0, none)
        ⟨.forwarding none, connection, []⟩
  | refused {connection : ConnectionRef} {packetId : UInt64} {type : PacketType}
      (refusal : signals.refusal = some type) :
      SenderSends signals linkId .idle (PacketGW.new type packetId linkId 0, none)
        ⟨.closed, connection, []⟩
  | regular {connection : ConnectionRef} {packetId : UInt64} {received chunk : Bytes} :
      SenderSends signals linkId ⟨.forwarding (some chunk), connection, received⟩
        (PacketGW.new .regular packetId linkId (UInt16.ofNat chunk.length), some chunk)
        ⟨.forwarding none, connection, received⟩
  | closed {connection : ConnectionRef} {packetId : UInt64} {received : Bytes} :
      SenderSends signals linkId ⟨.forwarding none, connection, received⟩
        (PacketGW.new .close packetId linkId 0, none) ⟨.closed, connection, received⟩

inductive SendersStep (zstd : Zstd) (signals : Signals) (before after : Senders) : Prop
  | quiet (link : after.link = before.link) (silent : WritersSilent before.writer after.writer)
  | control {connection : ConnectionRef} {call : SendCall} (link : after.link = before.link)
      (unlinked : call.1.linkId = 0)
      (control : call.1.packetType ≠ signals.opening ∧ call.1.packetType ≠ .regular)
      (sendable : Sendable call.1 call.2)
      (sent : SentOn zstd before.writer after.writer connection call)
  | read {linkId : UInt16} {connection : ConnectionRef} {received chunk : Bytes}
      (idle : before.link linkId = ⟨.forwarding none, connection, received⟩)
      (size : 1 ≤ chunk.length ∧ chunk.length ≤ bufferSize)
      (link : after.link = Function.update before.link linkId
        ⟨.forwarding (some chunk), connection, received ++ chunk⟩)
      (silent : WritersSilent before.writer after.writer)
  | sent {linkId : UInt16} {new : Sender} {call : SendCall} (positive : linkId ≠ 0)
      (sends : SenderSends signals linkId (before.link linkId) call new)
      (link : after.link = Function.update before.link linkId new)
      (sent : SentOn zstd before.writer after.writer new.connection call)

/-! ## What has been sent of a link -/

/-- The types of a link's frames, by the phase of its sender and whether a write has
failed: a failed write may leave any part of them unsent. -/
inductive Spoken (signals : Signals) : SenderPhase → Bool → List PacketType → Prop
  | unopened {failed : Bool} : Spoken signals .unopened failed []
  | forwarding {chunk : Option Bytes} {failed : Bool} (count : Nat) :
      Spoken signals (.forwarding chunk) failed
        (signals.opening :: List.replicate count .regular)
  | closed {failed : Bool} (count : Nat) :
      Spoken signals .closed failed (signals.opening :: List.replicate count .regular ++ [.close])
  | refused {failed : Bool} {type : PacketType} (refusal : signals.refusal = some type) :
      Spoken signals .closed failed [type]
  | unheard {phase : SenderPhase} (started : phase ≠ .unopened) : Spoken signals phase true []
  | cut (count : Nat) :
      Spoken signals .closed true (signals.opening :: List.replicate count .regular)

/-- The frames carry what was read from the application: all but the pending chunk
until a write fails, and a front of it after that. -/
structure Sender.Faithful (signals : Signals) (linkId : UInt16) (frames : List Frame)
    (failed : Bool) (sender : Sender) : Prop where
  spoken : Spoken signals sender.phase failed (types linkId frames)
  part : payloads linkId frames <+: sender.received
  whole : failed = false → payloads linkId frames ++ sender.phase.pending = sender.received
  closed : Has .close linkId frames → payloads linkId frames = sender.received
  size : ∀ chunk, sender.phase = .forwarding (some chunk) →
    1 ≤ chunk.length ∧ chunk.length ≤ bufferSize

structure Senders.Faithful (zstd : Zstd) (signals : Signals) (senders : Senders) : Prop where
  framed : ∀ connection, Framed zstd (senders.writer connection)
  sender : ∀ linkId, linkId ≠ 0 → (senders.link linkId).Faithful signals linkId
    (senders.writer (senders.link linkId).connection).sent
    (senders.writer (senders.link linkId).connection).half.failed
  elsewhere : ∀ linkId, linkId ≠ 0 → ∀ connection,
    (senders.link linkId).phase = .unopened ∨ connection ≠ (senders.link linkId).connection →
      types linkId (senders.writer connection).sent = []
  introduced : ∀ connection linkId,
    Introduced signals.opening linkId (senders.writer connection).sent
  concluded : ∀ connection linkId, linkId ≠ 0 →
    Concluded linkId (senders.writer connection).sent
  unlinked : ∀ connection, ¬ Has signals.opening 0 (senders.writer connection).sent

variable {zstd : Zstd} {signals : Signals} {linkId : UInt16} {frames : List Frame}
  {frame : Frame} {failed : Bool} {sender old new : Sender} {call : SendCall}

theorem Spoken.ofFailed {phase : SenderPhase} {spoken : List PacketType}
    (speaks : Spoken signals phase failed spoken) : Spoken signals phase true spoken := by
  cases speaks with
  | unopened => exact .unopened
  | forwarding count => exact .forwarding count
  | closed count => exact .closed count
  | refused refusal => exact .refused refusal
  | unheard started => exact .unheard started
  | cut count => exact .cut count

theorem Spoken.eq_nil {spoken : List PacketType}
    (speaks : Spoken signals .unopened failed spoken) : spoken = [] := by
  cases speaks <;> rfl

theorem Spoken.forwards {chunk : Option Bytes} {spoken : List PacketType}
    (speaks : Spoken signals (.forwarding chunk) false spoken) :
    ∃ count, spoken = signals.opening :: List.replicate count .regular := by
  cases speaks with
  | forwarding count => exact ⟨count, rfl⟩

theorem Spoken.not_mem_close {phase : SenderPhase} {spoken : List PacketType}
    (speaks : Spoken signals phase failed spoken) (unclosed : phase ≠ .closed) :
    PacketType.close ∉ spoken := by
  cases speaks with
  | unopened => exact List.not_mem_nil
  | forwarding count =>
      simpa [List.mem_replicate] using fun equal => signals.opening_bare.2 equal.symm
  | unheard => exact List.not_mem_nil
  | closed => exact absurd rfl unclosed
  | refused => exact absurd rfl unclosed
  | cut => exact absurd rfl unclosed

theorem Spoken.not_mem_refusal {phase : SenderPhase} {spoken : List PacketType} {type : PacketType}
    (speaks : Spoken signals phase failed spoken) (unclosed : phase ≠ .closed)
    (refusal : signals.refusal = some type) : type ∉ spoken := by
  have other := signals.refusal_bare type refusal
  cases speaks with
  | unopened => exact List.not_mem_nil
  | forwarding count => simp [List.mem_replicate, other]
  | unheard => exact List.not_mem_nil
  | closed => exact absurd rfl unclosed
  | refused => exact absurd rfl unclosed
  | cut => exact absurd rfl unclosed

/-- A sender that is done has closed its link or refused to open it. -/
theorem Spoken.done {spoken : List PacketType} (speaks : Spoken signals .closed false spoken) :
    PacketType.close ∈ spoken ∨ ∃ type ∈ spoken, signals.refusal = some type := by
  cases speaks with
  | closed count => exact .inl (by simp)
  | refused refusal => exact .inr ⟨_, List.mem_singleton_self _, refusal⟩

theorem Sender.Faithful.unclosed (faithful : sender.Faithful signals linkId frames failed)
    (unclosed : sender.phase ≠ .closed) : ¬ Has .close linkId frames := by
  rw [has_iff]
  exact faithful.spoken.not_mem_close unclosed

/-- Who has spoken of a link on a connection is its sender. -/
theorem Senders.Faithful.speaker {senders : Senders} {connection : ConnectionRef}
    (faithful : senders.Faithful zstd signals) (positive : linkId ≠ 0)
    (spoken : types linkId (senders.writer connection).sent ≠ []) :
    (senders.link linkId).connection = connection ∧
      (senders.link linkId).Faithful signals linkId (senders.writer connection).sent
        (senders.writer connection).half.failed := by
  have own : (senders.link linkId).connection = connection := by
    by_contra different
    exact spoken (faithful.elsewhere linkId positive connection (.inr (Ne.symm different)))
  refine ⟨own, ?_⟩
  rw [← own]
  exact faithful.sender linkId positive

theorem Sender.faithful_idle (silent : types linkId frames = []) :
    Sender.idle.Faithful signals linkId frames failed where
  spoken := silent ▸ .unopened
  part := payloads_of_types_eq_nil silent ▸ List.nil_prefix
  whole := fun _ => by rw [payloads_of_types_eq_nil silent]; rfl
  closed := fun _ => payloads_of_types_eq_nil silent
  size := fun chunk phase => by cases phase

/-- Frames of other links do not change what has been sent of this one. -/
theorem Sender.Faithful.foreign (faithful : sender.Faithful signals linkId frames failed)
    (other : frame.linkId ≠ linkId) :
    sender.Faithful signals linkId (frames ++ [frame]) failed := by
  have same : payloads linkId (frames ++ [frame]) = payloads linkId frames := by
    rw [payloads_concat]
    simp [Frame.payloadOf, other]
  have spoken := @types_concat_other linkId frame frames other
  exact {
    spoken := spoken ▸ faithful.spoken
    part := same ▸ faithful.part
    whole := same ▸ faithful.whole
    closed := by
      rw [has_iff, spoken, same, ← has_iff]
      exact faithful.closed
    size := faithful.size }

theorem Sender.Faithful.ofFailed (faithful : sender.Faithful signals linkId frames failed) :
    sender.Faithful signals linkId frames true where
  spoken := faithful.spoken.ofFailed
  part := faithful.part
  whole := fun healthy => by cases healthy
  closed := faithful.closed
  size := faithful.size

theorem Sender.Faithful.read {connection : ConnectionRef} {received chunk : Bytes}
    (faithful : Sender.Faithful signals linkId frames failed
      ⟨.forwarding none, connection, received⟩)
    (size : 1 ≤ chunk.length ∧ chunk.length ≤ bufferSize) :
    Sender.Faithful signals linkId frames failed
      ⟨.forwarding (some chunk), connection, received ++ chunk⟩ where
  spoken := by
    have spoken := faithful.spoken
    generalize types linkId frames = heard at spoken ⊢
    cases spoken with
    | forwarding count => exact .forwarding count
    | unheard => exact .unheard (by simp)
  part := faithful.part.trans (List.prefix_append _ _)
  whole := by
    intro healthy
    have whole := faithful.whole healthy
    simp only [SenderPhase.pending_idle, SenderPhase.pending_chunk, List.append_nil] at whole ⊢
    rw [whole]
  closed := fun has => absurd has (faithful.unclosed (by simp))
  size := fun other phase => by
    cases phase
    exact size

/-! ## Sends -/

theorem SenderSends.linkId_of_call (sends : SenderSends signals linkId old call new) :
    (Frame.of call).linkId = linkId := by
  cases sends <;> rfl

theorem SenderSends.phase (sends : SenderSends signals linkId old call new) :
    new.phase ≠ .unopened ∧ old.phase ≠ .closed := by
  cases sends <;> simp [Sender.idle]

/-- A sender that has opened its link keeps to its connection. -/
theorem SenderSends.connection (sends : SenderSends signals linkId old call new) :
    old = .idle ∨ old.connection = new.connection := by
  cases sends with
  | opened => exact .inl rfl
  | refused => exact .inl rfl
  | regular => exact .inr rfl
  | closed => exact .inr rfl

theorem SenderSends.sendable (sends : SenderSends signals linkId old call new)
    (faithful : old.Faithful signals linkId frames failed) : Sendable call.1 call.2 := by
  cases sends with
  | @regular connection packetId received chunk =>
      rcases faithful.size chunk rfl with ⟨nonempty, bounded⟩
      refine ⟨rfl, ?_, ?_, bounded⟩
      · have small : chunk.length < 2 ^ 16 := Nat.lt_of_le_of_lt bounded (by decide)
        simpa [PacketGW.new] using Nat.mod_eq_of_lt small
      · intro empty
        cases empty
        cases nonempty
  | _ => exact ⟨rfl, rfl, by simp, Nat.zero_le _⟩

theorem SenderSends.introduced (sends : SenderSends signals linkId old call new)
    (faithful : old.Faithful signals linkId frames false)
    (introduced : Introduced signals.opening linkId frames) :
    Introduced signals.opening linkId (frames ++ [Frame.of call]) := by
  apply introduced.concat
  · intro is
    cases sends with
    | opened => rw [has_iff, faithful.spoken.eq_nil]; exact List.not_mem_nil
    | refused => rw [has_iff, faithful.spoken.eq_nil]; exact List.not_mem_nil
    | regular => exact absurd is.1.symm signals.opening_bare.1
    | closed => exact absurd is.1.symm signals.opening_bare.2
  · intro carries
    cases sends with
    | regular =>
        rcases faithful.spoken.forwards with ⟨count, spoken⟩
        rw [has_iff, spoken]
        exact List.mem_cons_self
    | _ => exact absurd (Frame.payloadOf_of_none rfl) carries

theorem SenderSends.concluded (sends : SenderSends signals linkId old call new)
    (faithful : old.Faithful signals linkId frames failed)
    (concluded : Concluded linkId frames) : Concluded linkId (frames ++ [Frame.of call]) :=
  concluded.concat fun _ => faithful.unclosed sends.phase.2

/-- A send that fails adds no frame, and from then on none is added. -/
theorem SenderSends.stalled (sends : SenderSends signals linkId old call new)
    (faithful : old.Faithful signals linkId frames failed) :
    new.Faithful signals linkId frames true where
  spoken := by
    have spoken := faithful.spoken
    generalize types linkId frames = heard at spoken ⊢
    cases sends with
    | opened => exact spoken.eq_nil ▸ .unheard (by simp)
    | refused => exact spoken.eq_nil ▸ .unheard (by simp)
    | regular =>
        cases spoken with
        | forwarding count => exact .forwarding count
        | unheard => exact .unheard (by simp)
    | closed =>
        cases spoken with
        | forwarding count => exact .cut count
        | unheard => exact .unheard (by simp)
  part := by
    have part := faithful.part
    cases sends <;> exact part
  whole := fun healthy => by cases healthy
  closed := fun has => absurd has (faithful.unclosed sends.phase.2)
  size := fun chunk phase => by cases sends <;> cases phase

theorem SenderSends.spoken (sends : SenderSends signals linkId old call new)
    (faithful : old.Faithful signals linkId frames false) :
    Spoken signals new.phase false (types linkId (frames ++ [Frame.of call])) := by
  have spoken := faithful.spoken
  rw [types_concat_own sends.linkId_of_call]
  generalize types linkId frames = heard at spoken ⊢
  cases sends with
  | opened =>
      rw [spoken.eq_nil]
      exact .forwarding 0
  | refused refusal =>
      rw [spoken.eq_nil]
      exact .refused refusal
  | regular =>
      rcases spoken.forwards with ⟨count, rfl⟩
      have longer := @Spoken.forwarding signals none false (count + 1)
      rw [List.replicate_succ'] at longer
      exact longer
  | closed =>
      rcases spoken.forwards with ⟨count, rfl⟩
      exact .closed count

theorem SenderSends.whole (sends : SenderSends signals linkId old call new)
    (faithful : old.Faithful signals linkId frames false) :
    payloads linkId (frames ++ [Frame.of call]) ++ new.phase.pending = new.received := by
  have whole := faithful.whole rfl
  rw [payloads_concat]
  cases sends with
  | opened => simpa [Frame.payloadOf_of_none, Frame.of, Sender.idle] using whole
  | refused => simpa [Frame.payloadOf_of_none, Frame.of, Sender.idle] using whole
  | regular => simpa [Frame.payloadOf, Frame.of, PacketGW.new] using whole
  | closed => simpa [Frame.payloadOf_of_none, Frame.of] using whole

theorem SenderSends.closed_of_has (sends : SenderSends signals linkId old call new)
    (faithful : old.Faithful signals linkId frames failed)
    (has : Has .close linkId (frames ++ [Frame.of call])) : new.phase = .closed := by
  rw [has_concat] at has
  rcases has with before | is
  · exact absurd before (faithful.unclosed sends.phase.2)
  · cases sends with
    | opened => exact absurd is.1 signals.opening_bare.2
    | regular => cases is.1
    | refused => rfl
    | closed => rfl

/-- A send that succeeds adds the frame of what the sender held. -/
theorem SenderSends.sent (sends : SenderSends signals linkId old call new)
    (faithful : old.Faithful signals linkId frames false) :
    new.Faithful signals linkId (frames ++ [Frame.of call]) false where
  spoken := sends.spoken faithful
  part := by
    rw [← sends.whole faithful]
    exact List.prefix_append _ _
  whole := fun _ => sends.whole faithful
  closed := by
    intro has
    have whole := sends.whole faithful
    rwa [sends.closed_of_has faithful has, SenderPhase.pending_closed, List.append_nil] at whole
  size := fun chunk phase => by cases sends <;> cases phase

/-! ## One step of all senders -/

section

variable {writer after : GatewayWriter} {writers later : ConnectionRef → GatewayWriter}
  {connection : ConnectionRef}

theorem GatewayWriter.Silent.sent (silent : writer.Silent after) : after.sent = writer.sent := by
  rw [GatewayWriter.sent, silent.frames, GatewayWriter.sent]

theorem GatewayWriter.sent_of_send {outcome : WriteOutcome}
    (wrote : writer.send zstd call outcome = some after) :
    after.sent = writer.sent ∨ after.sent = writer.sent ++ [Frame.of call] := by
  rcases Option.map_eq_some_iff.mp wrote with ⟨half, _, equal⟩
  cases outcome with
  | ok =>
      subst equal
      exact .inr (by simp [GatewayWriter.sent])
  | failed accepted =>
      subst equal
      exact .inl rfl

theorem SendStep.sent_or_failed (sent : SendStep zstd writer call after) :
    (writer.half.failed = false ∧ after.half.failed = false ∧
      after.sent = writer.sent ++ [Frame.of call]) ∨
      (after.half.failed = true ∧ after.sent = writer.sent) := by
  cases sent with
  | sent healthy written failed frames =>
      exact .inl ⟨healthy, failed, by simp [GatewayWriter.sent, frames]⟩
  | broken healthy partially written failed frames =>
      exact .inr ⟨failed, by simp [GatewayWriter.sent, frames]⟩
  | refused broken written failed frames =>
      exact .inr ⟨failed, by simp [GatewayWriter.sent, frames]⟩

theorem Sender.Faithful.silent (faithful : sender.Faithful signals linkId writer.sent
    writer.half.failed) (silent : writer.Silent after) :
    sender.Faithful signals linkId after.sent after.half.failed := by
  rw [silent.sent, silent.failed]
  exact faithful

/-- A send on any connection adds at most its own frame to each of them. -/
theorem SentOn.sent_or_same (sentOn : SentOn zstd writers later connection call)
    (other : ConnectionRef) : (later other).sent = (writers other).sent ∨
      other = connection ∧ (later other).sent = (writers other).sent ++ [Frame.of call] := by
  by_cases equal : other = connection
  · subst equal
    rcases sentOn.sent.sent_or_failed with ⟨_, _, grown⟩ | ⟨_, same⟩
    · exact .inr ⟨rfl, grown⟩
    · exact .inl same
  · exact .inl (sentOn.others other equal).sent

theorem SentOn.framed (sentOn : SentOn zstd writers later connection call)
    (sendable : Sendable call.1 call.2) (framed : ∀ other, Framed zstd (writers other))
    (other : ConnectionRef) : Framed zstd (later other) := by
  by_cases equal : other = connection
  · subst equal
    exact (framed other).send sendable sentOn.sent
  · exact (framed other).silent (sentOn.others other equal)

theorem SentOn.faithful_other (sentOn : SentOn zstd writers later connection call)
    (foreign : (Frame.of call).linkId ≠ linkId)
    (faithful : sender.Faithful signals linkId (writers sender.connection).sent
      (writers sender.connection).half.failed) :
    sender.Faithful signals linkId (later sender.connection).sent
      (later sender.connection).half.failed := by
  by_cases equal : sender.connection = connection
  · rw [equal] at faithful ⊢
    rcases sentOn.sent.sent_or_failed with ⟨healthy, still, grown⟩ | ⟨failed, same⟩
    · rw [grown, still, ← healthy]
      exact faithful.foreign foreign
    · rw [failed, same]
      exact faithful.ofFailed
  · exact faithful.silent (sentOn.others _ equal)

theorem SentOn.types_other (sentOn : SentOn zstd writers later connection call)
    (foreign : (Frame.of call).linkId ≠ linkId) (other : ConnectionRef) :
    types linkId (later other).sent = types linkId (writers other).sent := by
  rcases sentOn.sent_or_same other with same | ⟨_, grown⟩
  · rw [same]
  · rw [grown, types_concat_other foreign]

theorem SentOn.introduced_other (sentOn : SentOn zstd writers later connection call)
    (unopening : ¬ (Frame.of call).Is signals.opening linkId)
    (silent : (Frame.of call).payloadOf linkId = []) {other : ConnectionRef}
    (introduced : Introduced signals.opening linkId (writers other).sent) :
    Introduced signals.opening linkId (later other).sent := by
  rcases sentOn.sent_or_same other with same | ⟨_, grown⟩
  · rwa [same]
  · rw [grown]
    exact introduced.concat (fun is => absurd is unopening) fun carries => absurd silent carries

theorem SentOn.unlinked (sentOn : SentOn zstd writers later connection call)
    (unopening : ¬ (Frame.of call).Is signals.opening 0)
    (unlinked : ∀ other, ¬ Has signals.opening 0 (writers other).sent) (other : ConnectionRef) :
    ¬ Has signals.opening 0 (later other).sent := by
  rcases sentOn.sent_or_same other with same | ⟨_, grown⟩
  · exact same ▸ unlinked other
  · rw [grown, has_concat]
    exact not_or.mpr ⟨unlinked other, unopening⟩

theorem SentOn.concluded_other (sentOn : SentOn zstd writers later connection call)
    (silent : (Frame.of call).payloadOf linkId = []) {other : ConnectionRef}
    (concluded : Concluded linkId (writers other).sent) :
    Concluded linkId (later other).sent := by
  rcases sentOn.sent_or_same other with same | ⟨_, grown⟩
  · rwa [same]
  · rw [grown]
    exact concluded.concat fun carries => absurd silent carries

end

section

variable {before after : Senders} {connection : ConnectionRef}

theorem Senders.faithful_new (zstd : Zstd) (signals : Signals) :
    Senders.new.Faithful zstd signals where
  framed := fun _ => framed_new
  sender := fun _ _ => Sender.faithful_idle rfl
  elsewhere := fun _ _ _ _ => rfl
  introduced := fun _ _ => introduced_nil
  concluded := fun _ _ _ => concluded_nil
  unlinked := fun _ => not_has_nil

theorem Senders.Faithful.quiet (faithful : before.Faithful zstd signals)
    (link : after.link = before.link) (silent : WritersSilent before.writer after.writer) :
    after.Faithful zstd signals where
  framed := fun connection => (faithful.framed connection).silent (silent connection)
  sender := by
    intro linkId positive
    rw [link]
    exact (faithful.sender linkId positive).silent (silent _)
  elsewhere := by
    intro linkId positive connection away
    rw [link] at away
    rw [(silent connection).sent]
    exact faithful.elsewhere linkId positive connection away
  introduced := fun connection linkId =>
    (silent connection).sent ▸ faithful.introduced connection linkId
  concluded := fun connection linkId positive =>
    (silent connection).sent ▸ faithful.concluded connection linkId positive
  unlinked := fun connection => (silent connection).sent ▸ faithful.unlinked connection

theorem Senders.Faithful.control (faithful : before.Faithful zstd signals)
    (link : after.link = before.link) (unlinked : call.1.linkId = 0)
    (control : call.1.packetType ≠ signals.opening ∧ call.1.packetType ≠ .regular)
    (sendable : Sendable call.1 call.2)
    (sent : SentOn zstd before.writer after.writer connection call) :
    after.Faithful zstd signals := by
  have foreign : ∀ {linkId : UInt16}, linkId ≠ 0 → (Frame.of call).linkId ≠ linkId := by
    intro linkId positive same
    exact positive (same.symm.trans unlinked)
  have silent : ∀ linkId, (Frame.of call).payloadOf linkId = [] := by
    intro linkId
    simp [Frame.payloadOf, Frame.of, control.2]
  refine ⟨sent.framed sendable faithful.framed, ?_, ?_, ?_, ?_,
    sent.unlinked (fun is => control.1 is.1) faithful.unlinked⟩
  · intro linkId positive
    rw [link]
    exact sent.faithful_other (foreign positive) (faithful.sender linkId positive)
  · intro linkId positive other away
    rw [link] at away
    rw [sent.types_other (foreign positive)]
    exact faithful.elsewhere linkId positive other away
  · exact fun other linkId => sent.introduced_other (fun is => control.1 is.1) (silent linkId)
      (faithful.introduced other linkId)
  · exact fun other linkId positive => sent.concluded_other (silent linkId)
      (faithful.concluded other linkId positive)

theorem Senders.Faithful.read {received chunk : Bytes} (faithful : before.Faithful zstd signals)
    (idle : before.link linkId = ⟨.forwarding none, connection, received⟩)
    (size : 1 ≤ chunk.length ∧ chunk.length ≤ bufferSize)
    (link : after.link = Function.update before.link linkId
      ⟨.forwarding (some chunk), connection, received ++ chunk⟩)
    (silent : WritersSilent before.writer after.writer) : after.Faithful zstd signals := by
  refine ⟨fun other => (faithful.framed other).silent (silent other), ?_, ?_, ?_, ?_,
    fun other => (silent other).sent ▸ faithful.unlinked other⟩
  · intro other positive
    have before := faithful.sender other positive
    rw [link]
    by_cases own : other = linkId
    · subst own
      rw [idle] at before
      rw [Function.update_self]
      exact (before.read size).silent (silent connection)
    · rw [Function.update_of_ne own]
      exact before.silent (silent _)
  · intro other positive elsewhere away
    rw [(silent elsewhere).sent]
    apply faithful.elsewhere other positive
    rw [link] at away
    by_cases own : other = linkId
    · subst own
      rw [Function.update_self] at away
      rw [idle]
      exact away.imp_left fun unopened => by cases unopened
    · rwa [Function.update_of_ne own] at away
  · exact fun other linkId => (silent other).sent ▸ faithful.introduced other linkId
  · exact fun other linkId positive =>
      (silent other).sent ▸ faithful.concluded other linkId positive

theorem Senders.Faithful.before_sends (faithful : before.Faithful zstd signals)
    (positive : linkId ≠ 0) (sends : SenderSends signals linkId (before.link linkId) call new) :
    (before.link linkId).Faithful signals linkId (before.writer new.connection).sent
      (before.writer new.connection).half.failed := by
  rcases sends.connection with idle | same
  · rw [idle]
    exact Sender.faithful_idle
      (faithful.elsewhere linkId positive new.connection (.inl (idle ▸ rfl)))
  · rw [← same]
    exact faithful.sender linkId positive

theorem Senders.Faithful.sent (faithful : before.Faithful zstd signals) (positive : linkId ≠ 0)
    (sends : SenderSends signals linkId (before.link linkId) call new)
    (link : after.link = Function.update before.link linkId new)
    (sent : SentOn zstd before.writer after.writer new.connection call) :
    after.Faithful zstd signals := by
  have own := faithful.before_sends positive sends
  have foreign : ∀ {other : UInt16}, other ≠ linkId → (Frame.of call).linkId ≠ other :=
    fun different same => different (same.symm.trans sends.linkId_of_call)
  have silent : ∀ {other : UInt16}, other ≠ linkId → (Frame.of call).payloadOf other = [] :=
    fun different => by simp [Frame.payloadOf, foreign different]
  refine ⟨sent.framed (sends.sendable own) faithful.framed, ?_, ?_, ?_, ?_,
    sent.unlinked (fun is => positive (sends.linkId_of_call.symm.trans is.2)) faithful.unlinked⟩
  · intro other otherPositive
    rw [link]
    by_cases mine : other = linkId
    · subst mine
      rw [Function.update_self]
      rcases sent.sent.sent_or_failed with ⟨healthy, still, grown⟩ | ⟨failed, same⟩
      · rw [healthy] at own
        rw [grown, still]
        exact sends.sent own
      · rw [failed, same]
        exact sends.stalled own
    · rw [Function.update_of_ne mine]
      exact sent.faithful_other (foreign mine) (faithful.sender other otherPositive)
  · intro other otherPositive elsewhere away
    rw [link] at away
    by_cases mine : other = linkId
    · subst mine
      rw [Function.update_self] at away
      have different := away.resolve_left sends.phase.1
      rw [(sent.others elsewhere different).sent]
      apply faithful.elsewhere other positive
      rcases sends.connection with idle | same
      · exact .inl (idle ▸ rfl)
      · exact .inr (same ▸ different)
    · rw [Function.update_of_ne mine] at away
      rw [sent.types_other (foreign mine)]
      exact faithful.elsewhere other otherPositive elsewhere away
  · intro other otherId
    by_cases mine : otherId = linkId
    · subst mine
      by_cases here : other = new.connection
      · subst here
        rcases sent.sent.sent_or_failed with ⟨healthy, _, grown⟩ | ⟨_, same⟩
        · rw [healthy] at own
          rw [grown]
          exact sends.introduced own (faithful.introduced _ _)
        · exact same ▸ faithful.introduced _ _
      · exact (sent.others other here).sent ▸ faithful.introduced _ _
    · exact sent.introduced_other (fun is => foreign mine is.2) (silent mine)
        (faithful.introduced _ _)
  · intro other otherId otherPositive
    by_cases mine : otherId = linkId
    · subst mine
      by_cases here : other = new.connection
      · subst here
        rcases sent.sent_or_same new.connection with same | ⟨_, grown⟩
        · exact same ▸ faithful.concluded _ _ positive
        · rw [grown]
          exact sends.concluded own (faithful.concluded _ _ positive)
      · exact (sent.others other here).sent ▸ faithful.concluded _ _ positive
    · exact sent.concluded_other (silent mine) (faithful.concluded _ _ otherPositive)

/-- A step of the senders keeps what they send faithful to what they have read. -/
theorem Senders.Faithful.step (faithful : before.Faithful zstd signals)
    (stepped : SendersStep zstd signals before after) : after.Faithful zstd signals := by
  cases stepped with
  | quiet link silent => exact faithful.quiet link silent
  | control link unlinked control sendable sent =>
      exact faithful.control link unlinked control sendable sent
  | read idle size link silent => exact faithful.read idle size link silent
  | sent positive sends link sent => exact faithful.sent positive sends link sent

end

end IoGateway

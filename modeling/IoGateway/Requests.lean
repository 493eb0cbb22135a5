import IoGateway.Channel
import IoGateway.Foundation.Responder
import IoGateway.Senders

/-! # Requests and answers on a gateway connection

A `Ping` asks for a `Pong`, and an `Open` for an `Opened` or an `OpenFail` of its link.
-/

namespace IoGateway

inductive Request
  | ping
  | open_ (linkId : UInt16)
deriving DecidableEq, Repr

inductive Answer
  | pong
  | opened (linkId : UInt16)
  | openFail (linkId : UInt16)
deriving DecidableEq, Repr

inductive Answers : Request → Answer → Prop
  | pong : Answers .ping .pong
  | opened {linkId : UInt16} : Answers (.open_ linkId) (.opened linkId)
  | openFail {linkId : UInt16} : Answers (.open_ linkId) (.openFail linkId)

namespace Frame

def request? (frame : Frame) : Option Request :=
  match frame.packetType with
  | .ping => some .ping
  | .open_ => some (.open_ frame.linkId)
  | _ => none

def answer? (frame : Frame) : Option Answer :=
  match frame.packetType with
  | .pong => some .pong
  | .opened => some (.opened frame.linkId)
  | .openFail => some (.openFail frame.linkId)
  | _ => none

def ping? (frame : Frame) : Option Request :=
  match frame.packetType with
  | .ping => some .ping
  | _ => none

def pong? (frame : Frame) : Option Answer :=
  match frame.packetType with
  | .pong => some .pong
  | _ => none

end Frame

def requests (frames : List Frame) : List Request := frames.filterMap Frame.request?

def answers (frames : List Frame) : List Answer := frames.filterMap Frame.answer?

def pings (frames : List Frame) : List Request := frames.filterMap Frame.ping?

def pongs (frames : List Frame) : List Answer := frames.filterMap Frame.pong?

namespace GatewayWriter

variable {zstd : Zstd} {writer after : GatewayWriter} {call : SendCall} {outcome : WriteOutcome}

theorem sent_or_failed (sent : writer.send zstd call outcome = some after) :
    (after.sent = writer.sent ++ [Frame.of call] ∧ after.half.failed = writer.half.failed) ∨
      (after.sent = writer.sent ∧ after.half.failed = true) := by
  rcases Option.map_eq_some_iff.mp sent with ⟨half, wrote, equal⟩
  cases outcome with
  | ok =>
      subst equal
      rw [(WriteHalf.writeAll_ok_eq_some.mp wrote).2]
      exact .inl ⟨List.map_append, rfl⟩
  | failed accepted =>
      subst equal
      rw [(WriteHalf.writeAll_failed_eq_some.mp wrote).2]
      exact .inr ⟨rfl, rfl⟩

end GatewayWriter

/-- What is asked on a connection by the frames read from it, and what is answered by the
frames written to it. -/
def responder (request? : Frame → Option Request) (answer? : Frame → Option Answer)
    (sockets : GatewaySockets) (connection : ConnectionRef) (pending : Option Request) :
    Responder Request Answer where
  asked := ((sockets.received connection).map Frame.of).filterMap request?
  answered := (sockets.writer connection).sent.filterMap answer?
  pending := pending
  lossy := (sockets.writer connection).half.failed

variable {request? : Frame → Option Request} {answer? : Frame → Option Answer}
  {before after : GatewaySockets} {connection : ConnectionRef} {pending next : Option Request}
  {zstd : Zstd} {call : SendCall} {outcome : WriteOutcome}

/-- A step on other connections, and one that only silences the writer. -/
theorem responder_kept (received : after.received connection = before.received connection)
    (silent : (before.writer connection).Silent (after.writer connection))
    (same : next = pending) :
    Responder.Step Answers (responder request? answer? before connection pending)
      (responder request? answer? after connection next) := by
  refine .kept ?_ ?_ same ?_
  · simp only [responder, received]
  · simp only [responder, GatewayWriter.sent, silent.frames]
  · exact fun healthy => silent.failed.symm.trans healthy

/-- A frame that answers nothing is sent. -/
theorem responder_other (received : after.received connection = before.received connection)
    (sent : (before.writer connection).send zstd call outcome = some (after.writer connection))
    (other : answer? (Frame.of call) = none) (same : next = pending) :
    Responder.Step Answers (responder request? answer? before connection pending)
      (responder request? answer? after connection next) := by
  refine .kept ?_ ?_ same ?_
  · simp only [responder, received]
  · rcases GatewayWriter.sent_or_failed sent with ⟨grown, _⟩ | ⟨kept, _⟩
    · simp [responder, grown, other]
    · simp only [responder, kept]
  · intro healthy
    rcases GatewayWriter.sent_or_failed sent with ⟨_, failed⟩ | ⟨_, failed⟩
    · exact failed.symm.trans healthy
    · exact absurd healthy (by simp [responder, failed])

/-- The answer to the pending request is sent, or it is lost with the writer. -/
theorem responder_answered {request : Request} {answer : Answer}
    (received : after.received connection = before.received connection)
    (sent : (before.writer connection).send zstd call outcome = some (after.writer connection))
    (answering : answer? (Frame.of call) = some answer) (working : pending = some request)
    (matching : Answers request answer) (done : next = none) :
    Responder.Step Answers (responder request? answer? before connection pending)
      (responder request? answer? after connection next) := by
  have asked : (responder request? answer? after connection next).asked =
      (responder request? answer? before connection pending).asked := by
    simp only [responder, received]
  rcases GatewayWriter.sent_or_failed sent with ⟨grown, failed⟩ | ⟨kept, failed⟩
  · refine .given working matching asked ?_ done fun healthy => failed.symm.trans healthy
    simp [responder, grown, answering]
  · refine .lost working asked ?_ done failed
    simp only [responder, kept]

theorem responder_received (frame : SendCall)
    (received : after.received connection = before.received connection ++ [frame])
    (unwritten : after.writer = before.writer) (idle : pending = none)
    (asks : request? (Frame.of frame) = next) :
    Responder.Step Answers (responder request? answer? before connection pending)
      (responder request? answer? after connection next) := by
  have answered : (responder request? answer? after connection next).answered =
      (responder request? answer? before connection pending).answered := by
    simp only [responder, unwritten]
  have lossy : (responder request? answer? after connection next).lossy = false →
      (responder request? answer? before connection pending).lossy = false := by
    simp only [responder, unwritten]
    exact id
  cases next with
  | none =>
      refine .kept ?_ answered idle.symm lossy
      simp [responder, received, asks]
  | some request =>
      refine .taken idle ?_ answered rfl lossy
      simp [responder, received, asks]

end IoGateway

import IoGateway.Foundation.LittleEndian
import IoGateway.Foundation.TransitionSystem

/-! # Programs on a byte stream

A sequential program at one end of a duplex byte stream writes byte strings and
reads exact numbers of bytes. Such a program runs alone against the bytes of an
arbitrary peer, or against a second program at the other end of two reliable
FIFO channels.
-/

namespace IoGateway

/-- `writeAll` continues with whether the write succeeded, `readExact` with the
bytes or with `none` for an error, an end of stream or a timeout. -/
inductive SocketProgram (α : Type u)
  | done (value : α)
  | writeAll (bytes : Bytes) (next : Bool → SocketProgram α)
  | readExact (count : Nat) (next : Option Bytes → SocketProgram α)

namespace SocketProgram

def bind : SocketProgram α → (α → SocketProgram β) → SocketProgram β
  | .done value, next => next value
  | .writeAll bytes rest, next => .writeAll bytes fun written => (rest written).bind next
  | .readExact count rest, next => .readExact count fun received => (rest received).bind next

/-- The values that a program returns under some behaviour of its socket. -/
inductive Returns : SocketProgram α → α → Prop
  | done {value : α} : Returns (.done value) value
  | writeAll {bytes : Bytes} {next : Bool → SocketProgram α} {value : α} (written : Bool)
      (returns : Returns (next written) value) : Returns (.writeAll bytes next) value
  | readExact {count : Nat} {next : Option Bytes → SocketProgram α} {value : α}
      (received : Option Bytes) (sized : ∀ bytes, received = some bytes → bytes.length = count)
      (returns : Returns (next received) value) : Returns (.readExact count next) value

/-! ## Alone against a fixed stream -/

structure Outcome (α : Type u) where
  value : α
  written : Bytes
  rest : Bytes
deriving DecidableEq

/-- A run in which every write succeeds and the peer sends exactly `stream`
before it closes. A read past the end consumes what is left and fails. -/
def run : SocketProgram α → Bytes → Outcome α
  | .done value, stream => ⟨value, [], stream⟩
  | .writeAll bytes next, stream =>
      let later := (next true).run stream
      { later with written := bytes ++ later.written }
  | .readExact count next, stream =>
      if count ≤ stream.length then
        (next (some (stream.take count))).run (stream.drop count)
      else
        (next none).run []

@[simp] theorem run_done (value : α) (stream : Bytes) :
    (done value).run stream = ⟨value, [], stream⟩ := rfl

theorem run_readExact_append {count : Nat} {front : Bytes} (sized : front.length = count)
    (next : Option Bytes → SocketProgram α) (rest : Bytes) :
    (readExact count next).run (front ++ rest) = (next (some front)).run rest := by
  subst sized
  simp [run]

theorem run_readExact_short {count : Nat} {stream : Bytes} (short : stream.length < count)
    (next : Option Bytes → SocketProgram α) :
    (readExact count next).run stream = (next none).run [] := by
  simp [run, Nat.not_le.mpr short]

/-! ## One byte at a time

A step on the bytes that have arrived: the program after it, the bytes still
unread, and the bytes sent. A read that finds nothing waits.
-/

def step : SocketProgram α → Bytes → Option (SocketProgram α × Bytes × Bytes)
  | .done _, _ => none
  | .writeAll [] next, arrived => some (next true, arrived, [])
  | .writeAll (byte :: later) next, arrived => some (.writeAll later next, arrived, [byte])
  | .readExact 0 next, arrived => some (next (some []), arrived, [])
  | .readExact (count + 1) next, byte :: arrived =>
      some (.readExact count fun received => next (received.map (byte :: ·)), arrived, [])
  | .readExact (_ + 1) _, [] => none

/-- A step never depends on what has not yet been read. -/
theorem step_append {program next : SocketProgram α} {arrived unread sent : Bytes}
    (stepped : program.step arrived = some (next, unread, sent)) (more : Bytes) :
    program.step (arrived ++ more) = some (next, unread ++ more, sent) := by
  cases program with
  | done => cases stepped
  | writeAll bytes =>
      cases bytes with
      | nil =>
          cases stepped
          rfl
      | cons =>
          cases stepped
          rfl
  | readExact count =>
      cases count with
      | zero =>
          cases stepped
          rfl
      | succ =>
          cases arrived with
          | nil => cases stepped
          | cons =>
              cases stepped
              rfl

/-- The steps of one program in which it takes `taken` from the front of the
arrived bytes and sends `sent`. -/
inductive Steps : SocketProgram α → (taken sent : Bytes) → SocketProgram α → Prop
  | refl {program : SocketProgram α} : Steps program [] [] program
  | step {program middle final : SocketProgram α} {taken sent front out : Bytes}
      (first : program.step (front ++ taken) = some (middle, taken, out))
      (later : Steps middle taken sent final) :
      Steps program (front ++ taken) (out ++ sent) final

theorem Steps.trans {program middle final : SocketProgram α} {taken sent front out : Bytes}
    (first : Steps program front out middle) (later : Steps middle taken sent final) :
    Steps program (front ++ taken) (out ++ sent) final := by
  induction first with
  | refl => exact later
  | @step program _ _ consumed written front out stepped _ induction =>
      rw [List.append_assoc, List.append_assoc]
      refine .step ?_ (induction later)
      rw [← List.append_assoc]
      exact step_append stepped taken

theorem steps_writeAll (next : Bool → SocketProgram α) :
    ∀ bytes : Bytes, Steps (.writeAll bytes next) [] bytes (next true)
  | [] => @Steps.step _ _ _ _ [] [] [] [] rfl .refl
  | byte :: later => @Steps.step _ _ _ _ [] later [] [byte] rfl (steps_writeAll next later)

theorem step_bind {program next : SocketProgram α} {arrived unread sent : Bytes}
    (stepped : program.step arrived = some (next, unread, sent))
    (continuation : α → SocketProgram β) :
    (program.bind continuation).step arrived = some (next.bind continuation, unread, sent) := by
  cases program with
  | done => cases stepped
  | writeAll bytes =>
      cases bytes with
      | nil =>
          cases stepped
          rfl
      | cons =>
          cases stepped
          rfl
  | readExact count =>
      cases count with
      | zero =>
          cases stepped
          rfl
      | succ =>
          cases arrived with
          | nil => cases stepped
          | cons =>
              cases stepped
              rfl

theorem Steps.bind {program final : SocketProgram α} {taken sent : Bytes}
    (steps : Steps program taken sent final) (continuation : α → SocketProgram β) :
    Steps (program.bind continuation) taken sent (final.bind continuation) := by
  induction steps with
  | refl => exact .refl
  | step first _ induction => exact .step (step_bind first continuation) induction

theorem steps_readExact : ∀ (bytes : Bytes) (next : Option Bytes → SocketProgram α),
    Steps (.readExact bytes.length next) bytes [] (next (some bytes))
  | [], _ => @Steps.step _ _ _ _ [] [] [] [] rfl .refl
  | byte :: later, next =>
      @Steps.step _ _ _ _ later [] [byte] [] rfl
        (steps_readExact later fun received => next (received.map (byte :: ·)))

theorem steps_readExact_of_length {bytes : Bytes} {count : Nat} (sized : bytes.length = count)
    (next : Option Bytes → SocketProgram α) :
    Steps (.readExact count next) bytes [] (next (some bytes)) :=
  sized ▸ steps_readExact bytes next

theorem Steps.afterRead {bytes sent : Bytes} {count : Nat} {next : Option Bytes → SocketProgram α}
    {final : SocketProgram α} (sized : bytes.length = count)
    (later : Steps (next (some bytes)) [] sent final) :
    Steps (.readExact count next) bytes sent final := by
  have both := (steps_readExact_of_length sized next).trans later
  rwa [List.append_nil] at both

end SocketProgram

/-! ## Two programs and the channels between them -/

structure Duplex (α : Type u) (β : Type v) where
  left : SocketProgram α
  right : SocketProgram β
  toRight : Bytes
  toLeft : Bytes

inductive Side
  | left
  | right
deriving DecidableEq, Repr

namespace Duplex

def step (duplex : Duplex α β) : Side → Option (Duplex α β)
  | .left => (duplex.left.step duplex.toLeft).map fun (program, unread, sent) =>
      { duplex with left := program, toLeft := unread, toRight := duplex.toRight ++ sent }
  | .right => (duplex.right.step duplex.toRight).map fun (program, unread, sent) =>
      { duplex with right := program, toRight := unread, toLeft := duplex.toLeft ++ sent }

theorem step_left {program next : SocketProgram α} {arrived unread sent : Bytes}
    (stepped : program.step arrived = some (next, unread, sent)) (other : SocketProgram β)
    (toRight : Bytes) :
    step ⟨program, other, toRight, arrived⟩ .left =
      some ⟨next, other, toRight ++ sent, unread⟩ :=
  Option.map_eq_some_iff.mpr ⟨_, stepped, rfl⟩

theorem step_right {program next : SocketProgram β} {arrived unread sent : Bytes}
    (stepped : program.step arrived = some (next, unread, sent)) (other : SocketProgram α)
    (toLeft : Bytes) :
    step ⟨other, program, arrived, toLeft⟩ .right =
      some ⟨other, next, unread, toLeft ++ sent⟩ :=
  Option.map_eq_some_iff.mpr ⟨_, stepped, rfl⟩

def system (left : SocketProgram α) (right : SocketProgram β) :
    TransitionSystem (Duplex α β) Side where
  start := ⟨left, right, [], []⟩
  step := step

variable {left : SocketProgram α} {right : SocketProgram β}

theorem commuting : (system left right).Commuting := by
  have swap : ∀ state afterLeft afterRight : Duplex α β,
      state.step .left = some afterLeft → state.step .right = some afterRight →
      ∃ joined, afterLeft.step .right = some joined ∧ afterRight.step .left = some joined := by
    intro state afterLeft afterRight leftStepped rightStepped
    rcases Option.map_eq_some_iff.mp leftStepped with ⟨⟨program, unread, sent⟩, moved, rfl⟩
    rcases Option.map_eq_some_iff.mp rightStepped with ⟨⟨other, pending, out⟩, answered, rfl⟩
    refine ⟨⟨program, other, pending ++ sent, unread ++ out⟩, ?_, ?_⟩
    · exact Option.map_eq_some_iff.mpr ⟨_, SocketProgram.step_append answered sent, rfl⟩
    · exact Option.map_eq_some_iff.mpr ⟨_, SocketProgram.step_append moved out, rfl⟩
  intro state first second afterFirst afterSecond different firstStepped secondStepped
  cases first with
  | left =>
      cases second with
      | left => exact absurd rfl different
      | right => exact swap _ _ _ firstStepped secondStepped
  | right =>
      cases second with
      | left =>
          rcases swap _ _ _ secondStepped firstStepped with ⟨joined, second, first⟩
          exact ⟨joined, first, second⟩
      | right => exact absurd rfl different

theorem stuck_done (leftValue : α) (rightValue : β) (toRight toLeft : Bytes) :
    (system left right).Stuck ⟨.done leftValue, .done rightValue, toRight, toLeft⟩ := by
  intro side
  cases side with
  | left => rfl
  | right => rfl

open TransitionSystem (Always)

variable (left right)

theorem reaches_left {program final : SocketProgram α} {taken sent : Bytes}
    (steps : program.Steps taken sent final) (other : SocketProgram β) (rest : Bytes) :
    ∀ toRight, (system left right).Reaches Always ⟨program, other, toRight, taken ++ rest⟩
      ⟨final, other, toRight ++ sent, rest⟩ := by
  induction steps with
  | refl =>
      intro toRight
      rw [List.append_nil]
      exact .refl
  | step first _ induction =>
      intro toRight
      have moved : (system left right).step _ .left = some _ :=
        step_left (SocketProgram.step_append first rest) other toRight
      rw [← List.append_assoc]
      exact .trans (.step .refl trivial moved) (induction _)

theorem reaches_right {program final : SocketProgram β} {taken sent : Bytes}
    (steps : program.Steps taken sent final) (other : SocketProgram α) (rest : Bytes) :
    ∀ toLeft, (system left right).Reaches Always ⟨other, program, taken ++ rest, toLeft⟩
      ⟨other, final, rest, toLeft ++ sent⟩ := by
  induction steps with
  | refl =>
      intro toLeft
      rw [List.append_nil]
      exact .refl
  | step first _ induction =>
      intro toLeft
      have moved : (system left right).step _ .right = some _ :=
        step_right (SocketProgram.step_append first rest) other toLeft
      rw [← List.append_assoc]
      exact .trans (.step .refl trivial moved) (induction _)

end Duplex

end IoGateway

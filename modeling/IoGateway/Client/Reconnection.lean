import IoGateway.Client.Transitions
import Mathlib.Data.List.Chain

/-! # Reconnection of the client

The connection attempts of `run` and the pauses between them. `connect_gateway` sleeps
after an attempt that failed, and `run` calls it again when a session has ended.
-/

namespace IoGateway

inductive ReconnectEvent
  | connect
  | connected
  | failed
  | sleep (milliseconds : Nat)
deriving DecidableEq

/-- A pause of the reconnection timeout lies between any two calls of `connect`. -/
def Paced (events : List ReconnectEvent) : Prop :=
  ∀ before between after, events = before ++ .connect :: between ++ .connect :: after →
    .sleep gwReconnectTimeout ∈ between

def RefusedUntilLast (events : List ReconnectEvent) : Prop :=
  ∀ before after, events = before ++ .connected :: after → .connect ∉ after

/-! ## Runs -/

def RunTask.events : RunTask → Input → List ReconnectEvent
  | .setWaiting, .go => [.connect]
  | .connect, .verdict true => [.connected]
  | .connect, .verdict false => [.failed]
  | .sleep, .go => [.sleep gwReconnectTimeout, .connect]
  | _, _ => []

namespace Client

def eventsOf (client : Client) : ClientAction → List ReconnectEvent
  | .run input => client.run.events input
  | _ => []

def reconnectEvents (zstd : Zstd) : Client → List ClientAction → List ReconnectEvent
  | _, [] => []
  | client, action :: rest =>
      match client.step zstd action with
      | some next => client.eventsOf action ++ reconnectEvents zstd next rest
      | none => []

end Client

/-! ## What can follow what -/

namespace ReconnectEvent

inductive Follows : ReconnectEvent → ReconnectEvent → Prop
  | connected : Follows .connect .connected
  | failed : Follows .connect .failed
  | pause : Follows .failed (.sleep gwReconnectTimeout)
  | retry (milliseconds : Nat) : Follows (.sleep milliseconds) .connect
  | reconnect : Follows .connected .connect

/-- The events of a client that has not made an attempt before. -/
structure Alternate (events : List ReconnectEvent) : Prop where
  chain : events.IsChain Follows
  first : ∀ event ∈ events.head?, event = .connect

variable {events : List ReconnectEvent}

/-- An attempt that succeeded and was not the last had no pause after it. -/
theorem Alternate.refusedUntilLast (alternate : Alternate events) (paced : Paced events) :
    RefusedUntilLast events := by
  rintro before (_ | ⟨next, after⟩) rfl again
  · cases again
  have chain := List.isChain_append_cons_cons.mp alternate.chain
  cases chain.2.1
  rcases List.eq_nil_or_concat before with rfl | ⟨earlier, previous, rfl⟩
  · cases alternate.first .connected rfl
  · rw [List.concat_eq_append, List.append_assoc] at chain
    cases (List.isChain_append_cons_cons.mp chain.1).2.1
    have pause := paced earlier [.connected] after (by simp)
    simp at pause

/-- An attempt that failed is followed by a pause before anything else. -/
theorem Alternate.paced (alternate : Alternate events) (refused : RefusedUntilLast events) :
    Paced events := by
  rintro before (_ | ⟨result, between⟩) after rfl
  · have chain := alternate.chain
    rw [List.append_assoc, List.singleton_append] at chain
    cases (List.isChain_append_cons_cons.mp chain).2.1
  have chain := alternate.chain
  simp only [List.append_assoc, List.cons_append] at chain
  rcases List.isChain_append_cons_cons.mp chain with ⟨-, follows, later⟩
  cases follows with
  | connected =>
      have again := refused (before ++ [.connect]) (between ++ .connect :: after) (by simp)
      simp at again
  | failed =>
      cases between with
      | nil => cases (List.isChain_cons_cons.mp later).1
      | cons pause between =>
          rw [List.cons_append] at later
          cases (List.isChain_cons_cons.mp later).1
          simp

end ReconnectEvent

/-- The events that `run` can go on with at a point of its loops. -/
def RunTask.Expects : RunTask → ReconnectEvent → Prop
  | .connect => ReconnectEvent.Follows .connect
  | .sleep => ReconnectEvent.Follows .failed
  | _ => ReconnectEvent.Follows .connected

structure RunTask.Continues (task : RunTask) (events : List ReconnectEvent) : Prop where
  chain : events.IsChain ReconnectEvent.Follows
  first : ∀ event ∈ events.head?, task.Expects event

namespace Client

open ReconnectEvent

variable {zstd : Zstd} {client next : Client} {connection : ConnectionRef} {input : Input}

/-! ## The trace of a run -/

theorem ConnectStep.expects {point : ConnectClient}
    (stepped : ConnectStep zstd connection client point input next) :
    next.run.Expects = Follows .connected := by
  cases stepped <;> rfl

theorem ExchangeStep.expects {point : GatewayExchange}
    (stepped : ExchangeStep zstd connection client point input next) :
    next.run.Expects = Follows .connected := by
  cases stepped with
  | connecting stepped => exact stepped.expects
  | _ => rfl

theorem OnConnectionStep.expects {point : OnConnection}
    (stepped : OnConnectionStep zstd connection client point input next) :
    next.run.Expects = Follows .connected := by
  cases stepped with
  | exchanging stepped => exact stepped.expects
  | _ => rfl

theorem OnDisconnectionStep.expects {point : OnDisconnection}
    (stepped : OnDisconnectionStep client point next) :
    next.run.Expects = Follows .connected := by
  cases stepped <;> rfl

/-- A step of a session does nothing that the trace shows. -/
theorem continues_of_expects {task later : RunTask} {events : List ReconnectEvent}
    (continues : later.Continues events) (silent : task.events input = [])
    (same : later.Expects = task.Expects) : task.Continues (task.events input ++ events) := by
  rw [silent]
  exact ⟨continues.chain, fun event head => same ▸ continues.first event head⟩

theorem RunStep.continues {task : RunTask} {events : List ReconnectEvent}
    (stepped : RunStep zstd client task input next) (continues : next.run.Continues events) :
    task.Continues (task.events input ++ events) := by
  cases stepped with
  | setWaiting => exact ⟨continues.chain.cons continues.first, by rintro _ ⟨⟩; exact .reconnect⟩
  | connected => exact ⟨continues.chain.cons continues.first, by rintro _ ⟨⟩; exact .connected⟩
  | refused => exact ⟨continues.chain.cons continues.first, by rintro _ ⟨⟩; exact .failed⟩
  | retry =>
      have attempt := continues.chain.cons continues.first
      exact ⟨attempt.cons (by rintro _ ⟨⟩; exact .retry _), by rintro _ ⟨⟩; exact .pause⟩
  | onConnection stepped =>
      exact continues_of_expects continues (by cases input <;> rfl) stepped.expects
  | onDisconnection stepped => exact continues_of_expects continues rfl stepped.expects

theorem ShutdownStep.run_eq {task : ClientShutdown} (stepped : ShutdownStep client task next) :
    next.run = client.run := by
  cases stepped <;> rfl

theorem Transition.continues {action : ClientAction} {events : List ReconnectEvent}
    (transition : Transition zstd client action next) (continues : next.run.Continues events) :
    client.run.Continues (client.eventsOf action ++ events) := by
  cases transition with
  | run stepped => exact stepped.continues continues
  | shutdown stepped =>
      rw [stepped.run_eq] at continues
      exact continues
  | _ => exact continues

theorem continues_reconnectEvents :
    ∀ (actions : List ClientAction) (client : Client),
      client.run.Continues (client.reconnectEvents zstd actions)
  | [], client => ⟨.nil, by rintro _ ⟨⟩⟩
  | action :: rest, client => by
      unfold reconnectEvents
      cases stepped : client.step zstd action with
      | none => exact ⟨.nil, by rintro _ ⟨⟩⟩
      | some next =>
          exact (transition_of_step stepped).continues (continues_reconnectEvents rest next)

theorem alternate_reconnectEvents (zstd : Zstd) (actions : List ClientAction) :
    Alternate (Client.new.reconnectEvents zstd actions) := by
  rcases @continues_reconnectEvents zstd actions .new with ⟨chain, first⟩
  refine ⟨chain, ?_⟩
  intro event head
  cases first event head
  rfl

/-- The pauses between the attempts of a run are kept exactly if no session ever ends and
is followed by another attempt. -/
theorem reconnection_paced_iff (zstd : Zstd) (actions : List ClientAction) :
    Paced (Client.new.reconnectEvents zstd actions) ↔
      RefusedUntilLast (Client.new.reconnectEvents zstd actions) :=
  ⟨(alternate_reconnectEvents zstd actions).refusedUntilLast,
    (alternate_reconnectEvents zstd actions).paced⟩

/-- The server accepts the connection and denies the session. -/
def deniedSession : List ClientAction :=
  [.run .go, .run (.verdict true), .run .go, .run .go, .run .go, .run (.verdict true), .run .go,
    .run (.verdict false), .run .go, .run .go, .run .go, .run .go, .run .go, .run .go, .run .go]

theorem reconnection_unpaced :
    ¬ ∀ (zstd : Zstd) (actions : List ClientAction) (final : Client),
      (system zstd).run (system zstd).start actions = some final →
      Paced (Client.new.reconnectEvents zstd actions) := by
  intro claim
  have executed : ((system Zstd.runLength).run (system Zstd.runLength).start
      deniedSession).isSome = true := by decide
  rcases Option.isSome_iff_exists.mp executed with ⟨final, executed⟩
  have paced := claim Zstd.runLength deniedSession final executed
  have pause := paced [] [.connected] [] (by decide)
  simp at pause

end Client

end IoGateway

import IoGateway.Client.Abandoned
import IoGateway.Server.Abandoned

/-! # No writes on a torn down gateway connection

The laws of both sides together, and a run of the client that breaks them: the
gateway ends the session with `GwDeny` and keeps the TCP connection open.
-/

namespace IoGateway

/-- In the allowed runs no frame is sent on a gateway connection after its teardown, and
the client runs the ping loop of one connection at a time. -/
structure SilentAfterTeardown (zstd : Zstd) (clientAllowed : Client → ClientAction → Prop)
    (serverAllowed : Server → ServerAction → Prop) : Prop where
  client : ∀ (torn later : Client) (connection : ConnectionRef),
    (Client.system zstd).ReachableUnder clientAllowed torn → torn.TornDown connection →
    (Client.system zstd).Reaches clientAllowed torn later →
      (later.shared.sockets.writer connection).frames =
        (torn.shared.sockets.writer connection).frames
  onePing : ∀ (client : Client) (first second : ConnectionRef),
    (Client.system zstd).ReachableUnder clientAllowed client →
    (client.ping first).running = true → (client.ping second).running = true → first = second
  server : ∀ (torn later : Server) (connection : ConnectionRef),
    (Server.system zstd).ReachableUnder serverAllowed torn → torn.TornDown connection →
    (Server.system zstd).Reaches serverAllowed torn later →
      (later.shared.sockets.writer connection).frames =
        (torn.shared.sockets.writer connection).frames

/-- The law holds of every run in which a teardown completes only when no task can send
on the connection any more, and a ping loop starts only after the end of the others. -/
theorem silent_after_quiet_teardown (zstd : Zstd) :
    SilentAfterTeardown zstd Client.QuietTeardown Server.QuietCleanup where
  client := fun _ _ _ reachable tornDown reaches =>
    (Client.frames_of_tornDown reachable tornDown reaches).2
  onePing := fun _ first second reachable =>
    (Client.silenced_of_reachable reachable).onePing first second
  server := fun _ _ _ reachable tornDown reaches =>
    (Server.frames_of_tornDown reachable tornDown reaches).2

/-- The server goes away while a link is open; `on_disconnection` completes. -/
def connectionLost : List ClientAction :=
  .run .go :: Client.connect ++ Client.openLink 1 ++
    [.resetGateway 0, .run .ended, .run .go, .run .go, .run .go, .run .go]

def reconnected : List ClientAction :=
  [.ping 0 .go, .ping 0 .go, .ping 0 (.write (.failed 0)), .app 0 .ended, .app 0 .go,
    .app 0 (.write (.failed 0)), .run .go] ++ Client.connect

theorem silent_after_quiet_teardown_reconnected :
    ∃ torn later : Client, later.app 0 = .running 1 0 .removeLink ∧
      (later.ping 1).running = true ∧
      (later.shared.sockets.writer 0).frames = (torn.shared.sockets.writer 0).frames := by
  have executed : ((Client.system .runLength).runChecked
      (fun client action => Client.QuietTeardown client action) .new connectionLost).any
      (fun torn => (torn.run = .setWaiting ∧ torn.connectionCount = 1) ∧
        ((Client.system .runLength).runChecked
          (fun client action => Client.QuietTeardown client action) torn reconnected).any
          (fun later => later.app 0 = .running 1 0 .removeLink ∧
            (later.ping 1).running = true) = true) = true := by decide +kernel
  rcases TransitionSystem.exists_reaches_of_runChecked executed with ⟨torn, first, found⟩
  rcases of_decide_eq_true found with ⟨⟨run, count⟩, executed⟩
  rcases TransitionSystem.exists_reaches_of_runChecked executed with ⟨later, second, found⟩
  rcases of_decide_eq_true found with ⟨app, ping⟩
  have tornDown : torn.TornDown 0 := by simp [Client.TornDown, run, count, RunTask.Disconnected]
  exact ⟨torn, later, app, ping, (silent_after_quiet_teardown .runLength).client torn later 0
    (first.mono fun _ _ passed => of_decide_eq_true passed) tornDown
    (second.mono fun _ _ passed => of_decide_eq_true passed)⟩

/-- The gateway denies the session and leaves the connection open; `on_disconnection`
completes. -/
def denied : List ClientAction :=
  .run .go :: Client.connect ++ [.run (.frame (PacketGW.new .gwDeny 1 0 0) none), .run .go,
    .run .go, .run .go, .run .go]

/-- The ping loop of the denied connection goes on. -/
theorem ping_after_teardown :
    ¬ SilentAfterTeardown .runLength TransitionSystem.Always TransitionSystem.Always := by
  intro silent
  have executed : ((Client.system .runLength).runChecked (fun _ _ => true) .new denied).any
      (fun torn => (torn.run = .setWaiting ∧ torn.connectionCount = 1 ∧
          (torn.shared.sockets.writer 0).frames = []) ∧
        ((Client.system .runLength).runChecked (fun _ _ => true) torn
          [.ping 0 .go, .ping 0 .go, .ping 0 (.write .ok)]).any
          (fun later => (later.shared.sockets.writer 0).frames =
            [(PacketGW.new .ping 2 0 0, none)]) = true) = true := by decide +kernel
  rcases TransitionSystem.exists_reaches_of_runChecked executed with ⟨torn, first, found⟩
  rcases of_decide_eq_true found with ⟨⟨run, count, before⟩, executed⟩
  rcases TransitionSystem.exists_reaches_of_runChecked executed with ⟨later, second, found⟩
  have tornDown : torn.TornDown 0 := by simp [Client.TornDown, run, count, RunTask.Disconnected]
  have same := silent.client torn later 0 first.always tornDown second.always
  rw [before, of_decide_eq_true found] at same
  cases same

end IoGateway

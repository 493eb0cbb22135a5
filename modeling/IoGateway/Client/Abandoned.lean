import IoGateway.Client.Separation

/-! # Abandoned gateway connections of the client

After `on_disconnection` the tasks of a gateway connection go on: its ping loop and
the forwarding loops of its links keep its writer. They are harmless exactly when
that writer is dead or none of them can still send.
-/

namespace IoGateway

def RunTask.Disconnected : RunTask → Prop
  | .setWaiting | .connect | .sleep => True
  | _ => False

/-- The points of `run` at which `gw_writer` has been cleared and not yet set. -/
def RunTask.WriterCleared : RunTask → Prop
  | .setWaiting | .connect | .sleep | .onDisconnection .setWaiting => True
  | _ => False

def PingTask.running : PingTask → Bool
  | .absent | .finished => false
  | _ => true

def ClientAppTask.maySendOn (connection : ConnectionRef) : ClientAppTask → Bool
  | .running _ writer point => writer = connection && point ≠ .removeLink
  | _ => false

def PingCommand.writer? : PingCommand → Option ConnectionRef
  | .idle => none
  | .pingId writer => some writer
  | .sendPing writer _ => some writer

theorem GatewayClient.Sent.gwWriter {zstd : Zstd} {client after : GatewayClient}
    {writer : ConnectionRef} {call : SendCall} {outcome : WriteOutcome}
    (sent : client.Sent zstd writer call outcome after) : after.gwWriter = client.gwWriter := by
  rcases sent with ⟨sockets, _, rfl⟩
  rfl

namespace Client

variable {zstd : Zstd} {client next : Client} {action : ClientAction} {input : Input}

/-- `gateway_exchange` has returned and `on_disconnection` has completed. -/
def TornDown (client : Client) (connection : ConnectionRef) : Prop :=
  connection + 1 < client.connectionCount ∨
    connection + 1 = client.connectionCount ∧ client.run.Disconnected

/-- No frame can be sent on the connection any more. -/
def Quiet (client : Client) (connection : ConnectionRef) : Prop :=
  (client.shared.sockets.writer connection).half.dead = true ∨
    (client.ping connection).running = false ∧
      ∀ link < client.linkCount, (client.app link).maySendOn connection = false

/-- The last step of `on_disconnection` finds the connection quiet, and the ping loop of
a connection is started when that of every other one has ended. -/
def QuietTeardown (client : Client) : ClientAction → Prop
  | .run _ =>
      (client.run = .onDisconnection .setWaiting →
        ∀ connection < client.connectionCount, connection + 1 = client.connectionCount →
          client.Quiet connection) ∧
      (∀ serving < client.connectionCount, client.run = .onConnection serving .startPing →
        ∀ other < client.connectionCount, (client.ping other).running = false)
  | _ => True

instance (client : Client) (connection : ConnectionRef) :
    Decidable (client.Quiet connection) :=
  inferInstanceAs (Decidable (_ ∨ _))

instance (client : Client) : (action : ClientAction) → Decidable (client.QuietTeardown action)
  | .run _ => inferInstanceAs (Decidable (_ ∧ _))
  | .app _ _ | .ping _ _ | .beginCommand | .command _ | .resetGateway _ | .beginShutdown
  | .shutdown => .isTrue trivial

/-! ## The writer of the command loop -/

/-- What the command loop writes on is the connection that is being served. -/
structure WriterHeld (client : Client) : Prop where
  current : ∀ writer, client.shared.gwWriter = some writer → writer + 1 = client.connectionCount
  cleared : client.run.WriterCleared → client.shared.gwWriter = none
  command : ∀ writer, client.command.writer? = some writer →
    client.shared.gwWriter = some writer

theorem writerHeld_new : WriterHeld Client.new where
  current := fun _ held => by cases held
  cleared := fun _ => rfl
  command := fun _ held => by cases held

theorem WriterHeld.stay (held : WriterHeld client)
    (writer : next.shared.gwWriter = client.shared.gwWriter)
    (command : next.command = client.command)
    (connectionCount : next.connectionCount = client.connectionCount)
    (run : next.run.WriterCleared → client.run.WriterCleared) : WriterHeld next := by
  constructor
  · rw [writer, connectionCount]
    exact held.current
  · intro cleared
    rw [writer]
    exact held.cleared (run cleared)
  · rw [writer, command]
    exact held.command

/-- `gw_writer` is cleared while no `send_ping` holds its lock. -/
theorem WriterHeld.clear (unlocked : client.WriterUnlocked)
    (writer : next.shared.gwWriter = none) (command : next.command = client.command) :
    WriterHeld next := by
  constructor
  · intro ref held
    rw [writer] at held
    cases held
  · intro _
    exact writer
  · intro ref held
    rw [command, unlocked] at held
    cases held

theorem ConnectStep.writerHeld {connection : ConnectionRef} {point : ConnectClient}
    (stepped : ConnectStep zstd connection client point input next) (held : WriterHeld client) :
    WriterHeld next := by
  cases stepped with
  | sendOpened sent => exact held.stay sent.gwWriter rfl rfl False.elim
  | sendOpenFail sent => exact held.stay sent.gwWriter rfl rfl False.elim
  | _ => exact held.stay rfl rfl rfl False.elim

theorem ExchangeStep.writerHeld {connection : ConnectionRef} {point : GatewayExchange}
    (stepped : ExchangeStep zstd connection client point input next)
    (held : WriterHeld client) : WriterHeld next := by
  cases stepped with
  | connecting stepped => exact stepped.writerHeld held
  | sendPong sent => exact held.stay sent.gwWriter rfl rfl False.elim
  | _ => exact held.stay rfl rfl rfl False.elim

theorem RunStep.writerHeld (stepped : RunStep zstd client client.run input next)
    (held : WriterHeld client) (epochs : Epochs client) : WriterHeld next := by
  generalize run : client.run = task at stepped
  cases stepped with
  | onConnection stepped =>
      cases stepped with
      | exchanging stepped => exact stepped.writerHeld held
      | setWriter unlocked =>
          refine ⟨?_, False.elim, ?_⟩
          · intro writer some
            cases some
            exact epochs.connection _ _ run
          · intro writer some
            rw [show client.command = .idle from unlocked] at some
            cases some
      | clearWriter unlocked => exact .clear unlocked rfl rfl
      | _ => exact held.stay rfl rfl rfl False.elim
  | onDisconnection stepped =>
      cases stepped with
      | clearWriter unlocked => exact .clear unlocked rfl rfl
      | setWaiting => exact held.stay rfl rfl rfl fun _ => by rw [run]; trivial
      | _ => exact held.stay rfl rfl rfl False.elim
  | connected =>
      have cleared := held.cleared (by rw [run]; trivial)
      refine ⟨?_, False.elim, held.command⟩
      intro writer some
      rw [cleared] at some
      cases some
  | _ => exact held.stay rfl rfl rfl fun _ => by rw [run]; trivial

theorem WriterHeld.step (held : WriterHeld client) (epochs : Epochs client)
    (stepped : step zstd client action = some next) : WriterHeld next := by
  cases transition_of_step stepped with
  | run moved => exact moved.writerHeld held epochs
  | app moved =>
      generalize client.app _ = task at moved
      cases moved with
      | sendRegular sent => exact held.stay sent.gwWriter rfl rfl id
      | sendFailed sent => exact held.stay sent.gwWriter rfl rfl id
      | sendClose sent => exact held.stay sent.gwWriter rfl rfl id
      | _ => exact held.stay rfl rfl rfl id
  | ping moved =>
      generalize client.ping _ = task at moved
      cases moved with
      | sendPing sent => exact held.stay sent.gwWriter rfl rfl id
      | sendFailed sent => exact held.stay sent.gwWriter rfl rfl id
      | _ => exact held.stay rfl rfl rfl id
  | beginCommand idle some =>
      refine ⟨held.current, held.cleared, ?_⟩
      intro writer begun
      cases begun
      exact some
  | command moved =>
      generalize running : client.command = command at moved
      cases moved with
      | pingId =>
          refine ⟨held.current, held.cleared, ?_⟩
          intro writer begun
          exact held.command writer (by rw [running]; exact begun)
      | sendPing sent =>
          exact ⟨sent.gwWriter ▸ held.current, sent.gwWriter ▸ held.cleared,
            fun writer begun => by cases begun⟩
  | shutdown moved =>
      generalize client.shutdown = task at moved
      cases moved with
      | takeWriter unlocked => exact .clear unlocked rfl rfl
      | _ => exact held.stay rfl rfl rfl id
  | _ => exact held.stay rfl rfl rfl id

theorem writerHeld_of_reachable (reachable : (system zstd).Reachable client) :
    WriterHeld client :=
  reachable.invariant writerHeld_new fun _ _ _ earlier held _ stepped =>
    held.step (epochs_of_reachable earlier) stepped

/-! ## Tasks that start to send -/

theorem RunStep.ping (stepped : RunStep zstd client client.run input next) :
    next.ping = client.ping ∨ ∃ connection, client.run = .onConnection connection .startPing ∧
      next.ping = Function.update client.ping connection .tick := by
  generalize run : client.run = task at stepped
  cases stepped with
  | onConnection stepped =>
      cases stepped with
      | startPing => exact .inr ⟨_, rfl, rfl⟩
      | exchanging stepped =>
          cases stepped with
          | connecting stepped => cases stepped <;> exact .inl rfl
          | _ => exact .inl rfl
      | _ => exact .inl rfl
  | onDisconnection stepped => cases stepped <;> exact .inl rfl
  | _ => exact .inl rfl

theorem running_of_pingStep {shared after : GatewayClient} {writer : ConnectionRef}
    {task following : PingTask} (stepped : shared.PingStep zstd writer task input after following)
    (running : following.running = true) : task.running = true := by
  cases stepped with
  | sendFailed => cases running
  | _ => rfl

/-- A ping loop is started only by `on_connection`. -/
theorem ping_of_step (stepped : step zstd client action = some next) {connection : ConnectionRef}
    (running : (next.ping connection).running = true) :
    (client.ping connection).running = true ∨
      (∃ input, action = .run input) ∧ client.run = .onConnection connection .startPing := by
  cases transition_of_step stepped with
  | @run input next moved =>
      rcases moved.ping with same | ⟨serving, starting, same⟩
      · exact .inl (same ▸ running)
      · rw [same] at running
        by_cases equal : connection = serving
        · exact .inr ⟨⟨input, rfl⟩, equal ▸ starting⟩
        · rw [Function.update_of_ne equal] at running
          exact .inl running
  | @ping moving input shared task moved =>
      change (Function.update client.ping moving task connection).running = true at running
      by_cases equal : connection = moving
      · subst equal
        rw [Function.update_self] at running
        exact .inl (running_of_pingStep moved running)
      · rw [Function.update_of_ne equal] at running
        exact .inl running
  | shutdown moved =>
      generalize client.shutdown = task at moved
      cases moved <;> exact .inl running
  | _ => exact .inl running

theorem maySendOn_of_appStep {shared after : GatewayClient} {link : LinkRef}
    {task following : ClientAppTask} {connection : ConnectionRef}
    (stepped : shared.AppStep zstd link task input after following)
    (may : following.maySendOn connection = true) : task.maySendOn connection = true := by
  cases stepped <;> simp_all [ClientAppTask.maySendOn]

/-- The task of a link comes to a connection only by `connect_client`. -/
theorem maySendOn_of_step (stepped : step zstd client action = some next) {link : LinkRef}
    {connection : ConnectionRef} (may : (next.app link).maySendOn connection = true) :
    (client.app link).maySendOn connection = true ∨
      ∃ point, client.run = .onConnection connection (.exchanging point) := by
  cases transition_of_step stepped with
  | run moved =>
      rcases moved.app with same | ⟨serving, id, spawned, spawn, same⟩
      · exact .inl (same ▸ may)
      · rw [same] at may
        by_cases equal : link = spawned
        · rw [equal, Function.update_self] at may
          have serves : serving = connection := by
            simpa [ClientAppTask.maySendOn] using may
          exact .inr ⟨_, serves ▸ spawn⟩
        · rw [Function.update_of_ne equal] at may
          exact .inl may
  | @app moving input shared task moved =>
      change (Function.update client.app moving task link).maySendOn connection = true at may
      by_cases equal : link = moving
      · subst equal
        rw [Function.update_self] at may
        exact .inl (maySendOn_of_appStep moved may)
      · rw [Function.update_of_ne equal] at may
        exact .inl may
  | shutdown moved =>
      generalize client.shutdown = task at moved
      cases moved <;> exact .inl may
  | _ => exact .inl may

/-! ## Torn down connections -/

structure Unserved (client : Client) (connection : ConnectionRef) : Prop where
  run : ∀ point, client.run ≠ .onConnection connection point
  writer : client.shared.gwWriter ≠ some connection

theorem TornDown.unserved {connection : ConnectionRef} (tornDown : client.TornDown connection)
    (epochs : Epochs client) (held : WriterHeld client) : client.Unserved connection := by
  rcases tornDown with older | ⟨_, disconnected⟩
  · exact ⟨fun point run => Nat.ne_of_lt older (epochs.connection connection point run),
      fun writer => Nat.ne_of_lt older (held.current connection writer)⟩
  · generalize run : client.run = task at disconnected
    have cleared : client.run.WriterCleared := by
      rw [run]
      cases task <;> first | exact disconnected | cases disconnected
    refine ⟨fun point serving => ?_, fun writer => ?_⟩
    · rw [← run, serving] at disconnected
      exact disconnected
    · rw [held.cleared cleared] at writer
      cases writer

theorem unserved_of_completesTeardown {connection : ConnectionRef}
    (completes : client.run = .onDisconnection .setWaiting) (held : WriterHeld client) :
    client.Unserved connection := by
  refine ⟨fun point serving => ?_, fun writer => ?_⟩
  · rw [completes] at serving
    cases serving
  · rw [held.cleared (by rw [completes]; trivial)] at writer
    cases writer

theorem tornDown_iff_of_connected {connection : ConnectionRef}
    (before : ¬ client.run.Disconnected) (after : ¬ next.run.Disconnected)
    (connectionCount : next.connectionCount = client.connectionCount) :
    next.TornDown connection ↔ client.TornDown connection := by
  simp [TornDown, before, after, connectionCount]

theorem tornDown_iff_of_disconnected {connection : ConnectionRef}
    (before : client.run.Disconnected) (after : next.run.Disconnected)
    (connectionCount : next.connectionCount = client.connectionCount) :
    next.TornDown connection ↔ client.TornDown connection := by
  simp [TornDown, before, after, connectionCount]

def CompletesTeardown (client : Client) (connection : ConnectionRef) : ClientAction → Prop
  | .run _ => client.run = .onDisconnection .setWaiting ∧ connection + 1 = client.connectionCount
  | _ => False

theorem RunStep.tornDown {connection : ConnectionRef}
    (stepped : RunStep zstd client client.run input next) :
    next.TornDown connection ↔
      client.TornDown connection ∨ client.CompletesTeardown connection (.run input) := by
  generalize run : client.run = task at stepped
  have others : task ≠ .onDisconnection .setWaiting →
      ¬ client.CompletesTeardown connection (.run input) :=
    fun other completes => other (run.symm.trans completes.1)
  cases stepped with
  | onConnection stepped =>
      rw [or_iff_left (others (by simp))]
      have connected : ¬ client.run.Disconnected := by rw [run]; exact id
      cases stepped with
      | exchanging stepped =>
          cases stepped with
          | connecting stepped => cases stepped <;> exact tornDown_iff_of_connected connected id rfl
          | _ => exact tornDown_iff_of_connected connected id rfl
      | _ => exact tornDown_iff_of_connected connected id rfl
  | onDisconnection stepped =>
      have connected : ¬ client.run.Disconnected := by rw [run]; exact id
      cases stepped with
      | setWaiting => simp [TornDown, CompletesTeardown, RunTask.Disconnected, run]
      | _ =>
          rw [or_iff_left (others (by simp))]
          exact tornDown_iff_of_connected connected id rfl
  | connected =>
      rw [or_iff_left (others (by simp))]
      simp only [TornDown, RunTask.Disconnected, run, and_false, and_true, or_false,
        Nat.add_lt_add_iff_right]
      exact Nat.lt_iff_add_one_le.trans Nat.le_iff_lt_or_eq
  | _ =>
      rw [or_iff_left (others (by simp))]
      exact tornDown_iff_of_disconnected (by rw [run]; trivial) trivial rfl

/-- A connection is torn down by the last step of `on_disconnection` and stays so. -/
theorem tornDown_of_step {connection : ConnectionRef}
    (stepped : step zstd client action = some next) :
    next.TornDown connection ↔
      client.TornDown connection ∨ client.CompletesTeardown connection action := by
  cases transition_of_step stepped with
  | run moved => exact moved.tornDown
  | shutdown moved =>
      generalize client.shutdown = task at moved
      cases moved <;> simp [TornDown, CompletesTeardown]
  | _ => simp [TornDown, CompletesTeardown]

/-! ## Silence after the teardown -/

theorem running_of_maySendOn {task : ClientAppTask} {connection : ConnectionRef}
    (may : task.maySendOn connection = true) :
    ∃ linkId point, task = .running linkId connection point := by
  cases task with
  | running linkId writer point =>
      have writes : writer = connection := by
        simp only [ClientAppTask.maySendOn, Bool.and_eq_true, decide_eq_true_eq] at may
        exact may.1
      exact ⟨linkId, point, writes ▸ rfl⟩
  | _ => cases may

/-- A quiet connection that nobody serves stays quiet, and no frame is sent on it. -/
theorem Quiet.step {connection : ConnectionRef} (quiet : client.Quiet connection)
    (epochs : Epochs client) (held : WriterHeld client) (unserved : client.Unserved connection)
    (stepped : step zstd client action = some next) :
    next.Quiet connection ∧ (next.shared.sockets.writer connection).frames =
      (client.shared.sockets.writer connection).frames := by
  have moved := writerStep_of_step stepped connection
  rcases quiet with dead | ⟨ping, app⟩
  · cases moved with
    | silent silent => exact ⟨.inl (silent.dead dead), silent.frames⟩
    | sent sending sent =>
        have silent := GatewayWriter.send_of_dead sent dead
        exact ⟨.inl silent.2, silent.1⟩
  · constructor
    · refine .inr ⟨Bool.eq_false_iff.mpr ?_, fun link _ => Bool.eq_false_iff.mpr ?_⟩
      · intro running
        rcases ping_of_step stepped running with before | ⟨_, starting⟩
        · rw [ping] at before
          cases before
        · exact unserved.run _ starting
      · intro may
        rcases maySendOn_of_step stepped may with before | ⟨point, serving⟩
        · rcases running_of_maySendOn before with ⟨linkId, point, running⟩
          rw [app link (epochs.tasks link linkId connection point running).2] at before
          cases before
        · exact unserved.run _ serving
    · cases moved with
      | silent silent => exact silent.frames
      | sent sending sent =>
          exfalso
          cases sending with
          | opened point => exact unserved.run _ point
          | openFail point => exact unserved.run _ point
          | pong point => exact unserved.run _ point
          | @regular _ link linkId bytes packetId input running =>
              have silent := app link (epochs.tasks link linkId connection _ running).2
              simp [ClientAppTask.maySendOn, running] at silent
          | @close _ link linkId packetId input running =>
              have silent := app link (epochs.tasks link linkId connection _ running).2
              simp [ClientAppTask.maySendOn, running] at silent
          | ping running =>
              rw [running] at ping
              cases ping
          | command running =>
              exact unserved.writer (held.command connection (by rw [running]; rfl))

theorem RunStep.connectionCount_le (stepped : RunStep zstd client client.run input next) :
    client.connectionCount ≤ next.connectionCount := by
  generalize client.run = task at stepped
  cases stepped with
  | onConnection stepped =>
      cases stepped with
      | exchanging stepped =>
          cases stepped with
          | connecting stepped => cases stepped <;> exact Nat.le_refl _
          | _ => exact Nat.le_refl _
      | _ => exact Nat.le_refl _
  | onDisconnection stepped => cases stepped <;> exact Nat.le_refl _
  | connected => exact Nat.le_succ _
  | _ => exact Nat.le_refl _

theorem connectionCount_le_of_step (stepped : step zstd client action = some next) :
    client.connectionCount ≤ next.connectionCount := by
  cases transition_of_step stepped with
  | run moved => exact moved.connectionCount_le
  | shutdown moved =>
      generalize client.shutdown = task at moved
      cases moved <;> exact Nat.le_refl _
  | _ => exact Nat.le_refl _

/-- Every torn down connection is quiet, and at most one ping loop runs. -/
structure Silenced (client : Client) : Prop where
  quiet : ∀ connection, client.TornDown connection → client.Quiet connection
  started : ∀ connection, (client.ping connection).running = true →
    connection < client.connectionCount
  onePing : ∀ first second, (client.ping first).running = true →
    (client.ping second).running = true → first = second

theorem silenced_new : Silenced Client.new where
  quiet := fun connection tornDown => by
    rcases tornDown with older | ⟨newest, _⟩
    · cases older
    · cases newest
  started := fun _ running => by cases running
  onePing := fun _ _ running => by cases running

theorem Silenced.step (silenced : Silenced client) (epochs : Epochs client)
    (held : WriterHeld client) (quiet : QuietTeardown client action)
    (stepped : step zstd client action = some next) : Silenced next := by
  have counted := connectionCount_le_of_step stepped
  have starting : ∀ connection, (∃ input, action = .run input) →
      client.run = .onConnection connection .startPing →
        connection < client.connectionCount ∧
          ∀ other, (client.ping other).running = false := by
    intro connection taken start
    rcases taken with ⟨input, rfl⟩
    have current : connection < client.connectionCount :=
      Nat.lt_of_succ_le (Nat.le_of_eq (epochs.connection connection _ start))
    refine ⟨current, fun other => Bool.eq_false_iff.mpr fun running => ?_⟩
    rw [quiet.2 connection current start other (silenced.started other running)] at running
    cases running
  constructor
  · intro connection tornDown
    rcases (tornDown_of_step stepped).mp tornDown with before | completes
    · exact ((silenced.quiet connection before).step epochs held
        (before.unserved epochs held) stepped).1
    · cases action with
      | run input =>
          have newest : connection < client.connectionCount :=
            Nat.lt_of_succ_le (Nat.le_of_eq completes.2)
          exact ((quiet.1 completes.1 connection newest completes.2).step epochs held
            (unserved_of_completesTeardown completes.1 held) stepped).1
      | _ => cases completes
  · intro connection running
    rcases ping_of_step stepped running with before | ⟨taken, start⟩
    · exact Nat.lt_of_lt_of_le (silenced.started connection before) counted
    · exact Nat.lt_of_lt_of_le (starting connection taken start).1 counted
  · intro first second firstRunning secondRunning
    rcases ping_of_step stepped firstRunning with firstBefore | ⟨taken, firstStart⟩ <;>
      rcases ping_of_step stepped secondRunning with secondBefore | ⟨secondTaken, secondStart⟩
    · exact silenced.onePing first second firstBefore secondBefore
    · rw [(starting second secondTaken secondStart).2 first] at firstBefore
      cases firstBefore
    · rw [(starting first taken firstStart).2 second] at secondBefore
      cases secondBefore
    · rw [firstStart] at secondStart
      cases secondStart
      rfl

theorem silenced_of_reachable (reachable : (system zstd).ReachableUnder QuietTeardown client) :
    Silenced client :=
  reachable.invariant silenced_new fun _ _ _ earlier silenced quiet stepped =>
    silenced.step (epochs_of_reachable earlier.always) (writerHeld_of_reachable earlier.always)
      quiet stepped

/-- No frame is sent on a torn down connection in any later state. -/
theorem frames_of_tornDown {torn later : Client} {connection : ConnectionRef}
    (reachable : (system zstd).ReachableUnder QuietTeardown torn)
    (tornDown : torn.TornDown connection)
    (reaches : (system zstd).Reaches QuietTeardown torn later) :
    later.TornDown connection ∧ (later.shared.sockets.writer connection).frames =
      (torn.shared.sockets.writer connection).frames := by
  induction reaches with
  | refl => exact ⟨tornDown, rfl⟩
  | step earlier _ stepped induction =>
      have before := reachable.trans earlier
      have epochs := epochs_of_reachable before.always
      have held := writerHeld_of_reachable before.always
      have quiet := (silenced_of_reachable before).quiet connection induction.1
      have silent := quiet.step epochs held (induction.1.unserved epochs held) stepped
      exact ⟨(tornDown_of_step stepped).mpr (.inl induction.1), silent.2.trans induction.2⟩

end Client

end IoGateway

import IoGateway.Client.Sender
import IoGateway.Foundation.Draining

/-! # The client left alone

The steps of the client's tasks that wait for nothing from outside: each leaves less to do,
and until all tasks rest at a read, a timer or a connection attempt some task can go on.
-/

namespace IoGateway

def Client.goesOn (client : Client) : ClientAction → Bool
  | .run input => !input.fromOutside && client.run ≠ .connect && client.run ≠ .sleep
  | .app _ input => !input.fromOutside
  | .ping connection _ => client.ping connection ≠ .tick
  | .command _ => true
  | _ => false

/-! ## Work -/

def ConnectClient.work : ConnectClient → Nat
  | .connect _ => 12
  | .addLink _ => 11
  | .setConnected _ _ => 10
  | .openedId _ _ => 9
  | .sendOpened _ _ _ => 8
  | .spawn _ _ => 7
  | .openFailId _ => 8
  | .sendOpenFail _ _ => 7

/-- The end of the loop by a frame leads to `on_disconnection`. -/
def GatewayExchange.work : GatewayExchange → Nat
  | .receive => 6
  | .pongId => 8
  | .sendPong _ => 7
  | .connecting point => point.work
  | .removeLink _ => 8
  | .closeLink _ => 7
  | .forward _ _ => 7

def OnConnection.work : OnConnection → Nat
  | .setReader => 14
  | .setWriter => 13
  | .setProcessing => 12
  | .challenge => 11
  | .responseId => 10
  | .authenticate => 9
  | .setConnected => 8
  | .startPing => 7
  | .clearReader => 7
  | .clearWriter => 6
  | .exchanging point => point.work

def OnDisconnection.work : OnDisconnection → Nat
  | .closeAllLinks => 5
  | .clearReader => 4
  | .clearWriter => 3
  | .setWaiting => 2

def RunTask.work : RunTask → Nat
  | .setWaiting => 1
  | .connect => 0
  | .sleep => 0
  | .onConnection _ point => point.work
  | .onDisconnection point => point.work

def ClientAppExchange.work : ClientAppExchange → Nat
  | .regularId _ => 5
  | .sendRegular _ _ => 4
  | .closeId => 3
  | .sendClose _ => 2
  | .removeLink => 1
  | .addIncoming _ => 1
  | .read => 0

def ClientAppTask.work : ClientAppTask → Nat
  | .running _ _ point => point.work
  | _ => 0

def PingTask.work : PingTask → Nat
  | .pingId => 2
  | .sendPing _ => 1
  | _ => 0

def PingCommand.work : PingCommand → Nat
  | .pingId _ => 2
  | .sendPing _ _ => 1
  | .idle => 0

def Client.work (client : Client) : Nat :=
  client.run.work + totalWork ClientAppTask.work client.linkCount client.app +
    totalWork PingTask.work client.connectionCount client.ping + client.command.work

def PacketType.clientWork : PacketType → Nat
  | .open_ => 6
  | .close => 2
  | .ping => 2
  | .regular => 1
  | _ => 0

theorem GatewayClient.AppStep.work {zstd : Zstd} {client after : GatewayClient} {link : LinkRef}
    {task next : ClientAppTask} {input : Input}
    (stepped : client.AppStep zstd link task input after next)
    (inside : input.fromOutside = false) : next.work < task.work := by
  cases stepped with
  | read => cases inside
  | ended => cases inside
  | _ => simp [ClientAppTask.work, ClientAppExchange.work]

theorem GatewayClient.PingStep.work {zstd : Zstd} {client after : GatewayClient}
    {writer : ConnectionRef} {task next : PingTask} {input : Input}
    (stepped : client.PingStep zstd writer task input after next) (due : task ≠ .tick) :
    next.work < task.work := by
  cases stepped with
  | tick => exact absurd rfl due
  | _ => simp [PingTask.work]

theorem GatewayClient.CommandStep.work {zstd : Zstd} {client after : GatewayClient}
    {command next : PingCommand} {input : Input}
    (stepped : client.CommandStep zstd command input after next) : next.work < command.work := by
  cases stepped <;> simp [PingCommand.work]

namespace Client

variable {zstd : Zstd} {client next : Client} {action : ClientAction} {input : Input}
  {connection : ConnectionRef} {link : LinkRef}

/-- A step of the main task: no other task gets more to do. -/
structure RunWork (client next : Client) : Prop where
  run : next.run.work < client.run.work
  app : totalWork ClientAppTask.work next.linkCount next.app ≤
    totalWork ClientAppTask.work client.linkCount client.app
  ping : totalWork PingTask.work next.connectionCount next.ping ≤
    totalWork PingTask.work client.connectionCount client.ping
  command : next.command = client.command

theorem RunWork.lt (less : RunWork client next) : next.work < client.work := by
  have run := less.run
  have app := less.app
  have ping := less.ping
  have command := congrArg PingCommand.work less.command
  unfold Client.work
  omega

theorem ConnectStep.work {point : ConnectClient} (linked : Linked client)
    (stepped : ConnectStep zstd connection client point input next)
    (run : client.run = .onConnection connection (.exchanging (.connecting point))) :
    RunWork client next := by
  cases stepped with
  | addLink =>
      refine ⟨?_, ?_, Nat.le_refl _, rfl⟩
      · rw [run]
        exact Nat.lt_succ_self _
      · -- The task of the new link has not been started.
        have vacant := linked.vacant client.linkCount (Nat.le_refl _)
        simp [totalWork, Finset.sum_range_succ, vacant, ClientAppTask.work]
  | @spawn linkId link =>
      refine ⟨?_, ?_, Nat.le_refl _, rfl⟩
      · rw [run]
        exact Nat.lt_succ_self _
      · exact totalWork_update_le (Nat.zero_le _)
  | _ =>
      refine ⟨?_, Nat.le_refl _, Nat.le_refl _, rfl⟩
      simp [run, RunTask.work, OnConnection.work, GatewayExchange.work, ConnectClient.work]

theorem ExchangeStep.work {point : GatewayExchange} (linked : Linked client)
    (stepped : ExchangeStep zstd connection client point input next)
    (run : client.run = .onConnection connection (.exchanging point))
    (inside : input.fromOutside = false) : RunWork client next := by
  cases stepped with
  | receive => cases inside
  | denied => cases inside
  | ended => cases inside
  | connecting stepped => exact stepped.work linked run
  | _ =>
      refine ⟨?_, Nat.le_refl _, Nat.le_refl _, rfl⟩
      simp [run, RunTask.work, OnConnection.work, GatewayExchange.work]

theorem OnConnectionStep.work {point : OnConnection} (linked : Linked client)
    (stepped : OnConnectionStep zstd connection client point input next)
    (run : client.run = .onConnection connection point) (inside : input.fromOutside = false) :
    RunWork client next := by
  cases stepped with
  | exchanging stepped => exact stepped.work linked run inside
  | startPing =>
      refine ⟨?_, Nat.le_refl _, totalWork_update_le (Nat.zero_le _), rfl⟩
      rw [run]
      exact Nat.lt_succ_self _
  | _ =>
      refine ⟨?_, Nat.le_refl _, Nat.le_refl _, rfl⟩
      simp [run, RunTask.work, OnConnection.work, OnDisconnection.work]

theorem RunStep.work (linked : Linked client) (stepped : RunStep zstd client client.run input next)
    (inside : input.fromOutside = false) (due : client.run ≠ .connect ∧ client.run ≠ .sleep) :
    RunWork client next := by
  generalize run : client.run = task at stepped
  cases stepped with
  | connected => exact absurd run due.1
  | refused => exact absurd run due.1
  | retry => exact absurd run due.2
  | onConnection stepped => exact stepped.work linked run inside
  | setWaiting =>
      refine ⟨?_, Nat.le_refl _, Nat.le_refl _, rfl⟩
      rw [run]
      exact Nat.lt_succ_self _
  | onDisconnection stepped =>
      cases stepped <;> refine ⟨?_, Nat.le_refl _, Nat.le_refl _, rfl⟩ <;>
        simp [run, RunTask.work, OnDisconnection.work]

/-- Left alone, the client's tasks have less to do after each step. -/
theorem work_lt_of_step (linked : Linked client) (established : Established client)
    (goesOn : client.goesOn action = true) (stepped : step zstd client action = some next) :
    next.work < client.work := by
  cases transition_of_step stepped with
  | @run input next moved =>
      simp only [Client.goesOn, Bool.and_eq_true, Bool.not_eq_true', decide_eq_true_eq] at goesOn
      exact (moved.work linked goesOn.1.1 ⟨goesOn.1.2, goesOn.2⟩).lt
  | @app link input shared task moved =>
      have below : link < client.linkCount := by
        by_contra beyond
        rw [linked.vacant link (Nat.le_of_not_lt beyond)] at moved
        cases moved
      have less := totalWork_update_lt below
        (moved.work (by simpa [Client.goesOn] using goesOn))
      unfold Client.work
      dsimp only
      omega
  | @ping connection input shared task moved =>
      have due : client.ping connection ≠ .tick := of_decide_eq_true goesOn
      have below : connection < client.connectionCount := by
        refine established.ping connection ?_
        generalize client.ping connection = before at moved
        cases moved <;> rfl
      have less := totalWork_update_lt below (moved.work due)
      unfold Client.work
      dsimp only
      omega
  | command moved =>
      have less := moved.work
      unfold Client.work
      dsimp only
      omega
  | _ => cases goesOn

theorem work_of_dispatch {packet : PacketGW} {data : Option Bytes} {point : GatewayExchange}
    (dispatched : GatewayClient.dispatch packet data = some point) :
    point.work ≤ GatewayExchange.receive.work + packet.packetType.clientWork := by
  unfold GatewayClient.dispatch at dispatched
  cases type : packet.packetType <;> simp only [type] at dispatched
  case regular =>
    cases data <;> cases dispatched <;> simp [GatewayExchange.work, PacketType.clientWork]
  all_goals
    cases dispatched <;>
      simp [GatewayExchange.work, ConnectClient.work, PacketType.clientWork]

theorem work_of_frame {packet : PacketGW} {data : Option Bytes}
    (stepped : step zstd client (.run (.frame packet data)) = some next) :
    next.work ≤ client.work + packet.packetType.clientWork := by
  cases transition_of_step stepped with
  | run moved =>
      generalize run : client.run = task at moved
      cases moved with
      | onConnection moved =>
          cases moved with
          | exchanging moved =>
              cases moved with
              | @receive _ _ point dispatched =>
                  have less := work_of_dispatch dispatched
                  unfold Client.work
                  simp only [exchange, run, RunTask.work, OnConnection.work,
                    GatewayExchange.work] at less ⊢
                  omega
              | denied =>
                  unfold Client.work
                  simp only [run, RunTask.work, OnConnection.work, GatewayExchange.work,
                    OnDisconnection.work]
                  omega
              | connecting moved => cases moved

/-- A step adds at most the frame of one call to what has been sent. -/
theorem sentAtMost_of_step {rank : Frame → Nat} {extra : Nat}
    (bounded : ∀ frame, rank frame ≤ extra) (stepped : step zstd client action = some next) :
    SentAtMost rank extra (client.shared.sockets.writer connection).sent
      (next.shared.sockets.writer connection).sent := by
  cases writerStep_of_step stepped connection with
  | silent silent => exact .inl silent.sent
  | sent _ wrote =>
      exact (GatewayWriter.sent_of_send wrote).imp_right fun grown => ⟨_, grown, bounded _⟩

end Client

/-! ## Rest -/

/-- The task waits for a frame, for a timer, or for a connection. -/
def RunTask.Resting (task : RunTask) : Prop :=
  task = .connect ∨ task = .sleep ∨
    ∃ connection, task = .onConnection connection (.exchanging .receive)

/-- The task waits for its application, or there is none. -/
def ClientAppTask.Resting (task : ClientAppTask) : Prop :=
  task = .absent ∨ task = .finished ∨ ∃ linkId writer, task = .running linkId writer .read

def PingTask.Resting (task : PingTask) : Prop := task = .absent ∨ task = .finished ∨ task = .tick

structure Client.Resting (client : Client) : Prop where
  run : client.run.Resting
  app : ∀ link, (client.app link).Resting
  ping : ∀ connection, (client.ping connection).Resting
  command : client.command = .idle

namespace GatewayClient

theorem exists_send (zstd : Zstd) (client : GatewayClient) (writer : ConnectionRef)
    (call : SendCall) : ∃ outcome after, client.send zstd writer call outcome = some after := by
  rcases client.sockets.exists_send zstd writer call with ⟨outcome, after, sent⟩
  exact ⟨outcome, _, Option.map_eq_some_iff.mpr ⟨after, sent, rfl⟩⟩

theorem exists_appStep (zstd : Zstd) (link : LinkRef) (client : GatewayClient)
    {task : ClientAppTask} (busy : ¬ task.Resting) : ∃ input result,
      input.fromOutside = false ∧ client.appStep zstd link task input = some result := by
  cases task with
  | absent => exact absurd (.inl rfl) busy
  | finished => exact absurd (.inr (.inl rfl)) busy
  | running linkId writer point =>
      cases point with
      | read => exact absurd (.inr (.inr ⟨linkId, writer, rfl⟩)) busy
      | sendRegular bytes packetId =>
          rcases client.exists_send zstd writer
            (PacketGW.new .regular packetId linkId (UInt16.ofNat bytes.length), some bytes) with
            ⟨outcome, after, sent⟩
          exact ⟨.write outcome, _, rfl, Option.map_eq_some_iff.mpr ⟨after, sent, rfl⟩⟩
      | sendClose packetId =>
          rcases client.exists_send zstd writer (PacketGW.new .close packetId linkId 0, none) with
            ⟨outcome, after, sent⟩
          exact ⟨.write outcome, _, rfl, Option.map_eq_some_iff.mpr ⟨after, sent, rfl⟩⟩
      | _ => exact ⟨.go, _, rfl, rfl⟩

theorem exists_pingStep (zstd : Zstd) (writer : ConnectionRef) (client : GatewayClient)
    {task : PingTask} (busy : ¬ task.Resting) : ∃ input result,
      client.startPingLoop zstd writer task input = some result := by
  cases task with
  | absent => exact absurd (.inl rfl) busy
  | finished => exact absurd (.inr (.inl rfl)) busy
  | tick => exact absurd (.inr (.inr rfl)) busy
  | pingId => exact ⟨.go, _, rfl⟩
  | sendPing packetId =>
      rcases client.exists_send zstd writer (PacketGW.new .ping packetId 0 0, none) with
        ⟨outcome, after, sent⟩
      exact ⟨.write outcome, _, Option.map_eq_some_iff.mpr ⟨after, sent, rfl⟩⟩

theorem exists_commandStep (zstd : Zstd) (client : GatewayClient) {command : PingCommand}
    (busy : command ≠ .idle) : ∃ input result,
      client.sendPing zstd command input = some result := by
  cases command with
  | idle => exact absurd rfl busy
  | pingId writer => exact ⟨.go, _, rfl⟩
  | sendPing writer packetId =>
      rcases client.exists_send zstd writer (PacketGW.new .ping packetId 0 0, none) with
        ⟨outcome, after, sent⟩
      exact ⟨.write outcome, _, Option.map_eq_some_iff.mpr ⟨after, sent, rfl⟩⟩

theorem exists_forwardToApp (client : GatewayClient) (linkId : UInt16) (payload : Bytes) :
    ∃ input after, input.fromOutside = false ∧
      client.forwardToApp linkId payload input = some after := by
  cases found : client.base.links.lookup linkId with
  | none => exact ⟨.go, client, rfl, by simp [forwardToApp, found]⟩
  | some link =>
      rcases (client.base.link link).exists_sendPacket payload with ⟨outcome, written, sent⟩
      refine ⟨.write outcome, client.updateLink link fun _ => written, rfl, ?_⟩
      simp [forwardToApp, found, sent]

end GatewayClient

namespace Client

variable {zstd : Zstd} {client : Client}

theorem exists_connectClient (zstd : Zstd) (connection : ConnectionRef) (client : Client)
    (point : ConnectClient) : ∃ input next, input.fromOutside = false ∧
      client.connectClient zstd connection point input = some next := by
  cases point with
  | connect => exact ⟨.verdict true, _, rfl, rfl⟩
  | sendOpened linkId link packetId =>
      rcases client.shared.exists_send zstd connection
        (PacketGW.new .opened packetId linkId 0, none) with ⟨outcome, after, sent⟩
      exact ⟨.write outcome, _, rfl, Option.map_eq_some_iff.mpr ⟨after, sent, rfl⟩⟩
  | sendOpenFail linkId packetId =>
      rcases client.shared.exists_send zstd connection
        (PacketGW.new .openFail packetId linkId 0, none) with ⟨outcome, after, sent⟩
      exact ⟨.write outcome, _, rfl, Option.map_eq_some_iff.mpr ⟨after, sent, rfl⟩⟩
  | _ => exact ⟨.go, _, rfl, rfl⟩

theorem exists_gatewayExchange (zstd : Zstd) (connection : ConnectionRef) (client : Client)
    {point : GatewayExchange} (busy : point ≠ .receive) :
    ∃ input next, input.fromOutside = false ∧
      client.gatewayExchange zstd connection point input = some next := by
  cases point with
  | receive => exact absurd rfl busy
  | connecting point => exact exists_connectClient zstd connection client point
  | sendPong packetId =>
      rcases client.shared.exists_send zstd connection (PacketGW.new .pong packetId 0 0, none)
        with ⟨outcome, after, sent⟩
      exact ⟨.write outcome, _, rfl, Option.map_eq_some_iff.mpr ⟨after, sent, rfl⟩⟩
  | forward linkId payload =>
      rcases client.shared.exists_forwardToApp linkId payload with
        ⟨input, after, inside, forwarded⟩
      exact ⟨input, _, inside, Option.map_eq_some_iff.mpr ⟨after, forwarded, rfl⟩⟩
  | _ => exact ⟨.go, _, rfl, rfl⟩

/-- The main task waits for nothing but the lock that `send_ping` holds. -/
theorem exists_runStep (zstd : Zstd) (client : Client) {task : RunTask} (busy : ¬ task.Resting)
    (unlocked : client.WriterUnlocked) :
    ∃ input next, input.fromOutside = false ∧ client.runStep zstd task input = some next := by
  cases task with
  | setWaiting => exact ⟨.go, _, rfl, rfl⟩
  | connect => exact absurd (.inl rfl) busy
  | sleep => exact absurd (.inr (.inl rfl)) busy
  | onDisconnection point =>
      cases point with
      | clearWriter => exact ⟨.go, _, rfl, if_pos unlocked⟩
      | _ => exact ⟨.go, _, rfl, rfl⟩
  | onConnection connection point =>
      cases point with
      | setWriter => exact ⟨.go, _, rfl, if_pos unlocked⟩
      | clearWriter => exact ⟨.go, _, rfl, if_pos unlocked⟩
      | challenge => exact ⟨.verdict true, _, rfl, rfl⟩
      | authenticate => exact ⟨.verdict true, _, rfl, rfl⟩
      | exchanging point =>
          refine exists_gatewayExchange zstd connection client fun equal => ?_
          exact busy (.inr (.inr ⟨connection, by rw [equal]⟩))
      | _ => exact ⟨.go, _, rfl, rfl⟩

theorem resting_of_stuck
    (stuck : ∀ action next, client.goesOn action = true → step zstd client action ≠ some next) :
    client.Resting := by
  have command : client.command = .idle := by
    by_contra busy
    rcases client.shared.exists_commandStep zstd busy with ⟨input, result, moved⟩
    exact stuck (.command input) _ rfl (Option.map_eq_some_iff.mpr ⟨result, moved, rfl⟩)
  refine ⟨?_, ?_, ?_, command⟩
  · by_contra busy
    rcases exists_runStep zstd client busy command with ⟨input, next, inside, moved⟩
    refine stuck (.run input) next ?_ moved
    have due : client.run ≠ .connect ∧ client.run ≠ .sleep :=
      ⟨fun equal => busy (.inl equal), fun equal => busy (.inr (.inl equal))⟩
    simp [goesOn, inside, due]
  · intro link
    by_contra busy
    rcases client.shared.exists_appStep zstd link busy with ⟨input, result, inside, moved⟩
    exact stuck (.app link input) _ (by simp [goesOn, inside])
      (Option.map_eq_some_iff.mpr ⟨result, moved, rfl⟩)
  · intro connection
    by_contra busy
    rcases client.shared.exists_pingStep zstd connection busy with ⟨input, result, moved⟩
    have due : client.ping connection ≠ .tick := fun equal => busy (.inr (.inr equal))
    exact stuck (.ping connection input) _ (decide_eq_true due)
      (Option.map_eq_some_iff.mpr ⟨result, moved, rfl⟩)

end Client

end IoGateway

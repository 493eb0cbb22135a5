import IoGateway.Client.Separation
import IoGateway.Requests

/-! # The client's answers

The exchange loop answers a `Ping` with a `Pong` and an `Open` with an `Opened` or an
`OpenFail`, and it reads the next frame only after that. On the same writer the
forwarding and ping loops send frames that answer nothing.
-/

namespace IoGateway

def ConnectClient.pending : ConnectClient → Option Request
  | .connect linkId => some (.open_ linkId)
  | .addLink linkId => some (.open_ linkId)
  | .setConnected linkId _ => some (.open_ linkId)
  | .openedId linkId _ => some (.open_ linkId)
  | .sendOpened linkId _ _ => some (.open_ linkId)
  | .spawn _ _ => none
  | .openFailId linkId => some (.open_ linkId)
  | .sendOpenFail linkId _ => some (.open_ linkId)

def GatewayExchange.pending : GatewayExchange → Option Request
  | .pongId => some .ping
  | .sendPong _ => some .ping
  | .connecting point => point.pending
  | _ => none

def OnConnection.pending : OnConnection → Option Request
  | .exchanging point => point.pending
  | _ => none

def RunTask.pending (connection : ConnectionRef) : RunTask → Option Request
  | .onConnection serving point => if serving = connection then point.pending else none
  | _ => none

@[simp] theorem RunTask.pending_own (connection : ConnectionRef) (point : OnConnection) :
    (RunTask.onConnection connection point).pending connection = point.pending :=
  if_pos rfl

theorem RunTask.pending_other {connection serving : ConnectionRef} (point : OnConnection)
    (different : connection ≠ serving) :
    (RunTask.onConnection serving point).pending connection = none :=
  if_neg different.symm

namespace Client

def answering (client : Client) (connection : ConnectionRef) : Responder Request Answer :=
  responder Frame.request? Frame.answer? client.shared.sockets connection
    (client.run.pending connection)

variable {zstd : Zstd} {client next : Client} {connection serving : ConnectionRef} {input : Input}

theorem request_of_dispatch {packet : PacketGW} {data : Option Bytes} {point : GatewayExchange}
    (dispatched : GatewayClient.dispatch packet data = some point) :
    (Frame.of (packet, data)).request? = point.pending := by
  unfold GatewayClient.dispatch at dispatched
  cases type : packet.packetType <;> simp only [type] at dispatched <;>
    simp only [Frame.request?, Frame.of, type]
  case regular => cases data <;> cases dispatched <;> rfl
  case gwDeny => cases dispatched
  all_goals
    cases dispatched
    rfl

theorem request_of_denied {packet : PacketGW} {data : Option Bytes}
    (dispatched : GatewayClient.dispatch packet data = none) :
    (Frame.of (packet, data)).request? = none := by
  unfold GatewayClient.dispatch at dispatched
  cases type : packet.packetType <;> simp only [type] at dispatched <;>
    simp only [Frame.request?, Frame.of, type]
  case open_ => cases dispatched
  case ping => cases dispatched

theorem answering_unchanged (sockets : next.shared.sockets = client.shared.sockets)
    (same : next.run.pending connection = client.run.pending connection) :
    Responder.Step Answers (client.answering connection) (next.answering connection) := by
  rw [answering, answering, sockets]
  exact responder_kept rfl (.refl _) same

theorem answering_beside {action : ClientAction} (stepped : step zstd client action = some next)
    (received : next.shared.sockets.received connection =
      client.shared.sockets.received connection)
    (same : next.run.pending connection = client.run.pending connection)
    (other : ∀ call, client.Sending action connection call → (Frame.of call).answer? = none) :
    Responder.Step Answers (client.answering connection) (next.answering connection) := by
  cases writerStep_of_step stepped connection with
  | silent silent => exact responder_kept received silent same
  | sent sending sent => exact responder_other received sent (other _ sending) same

theorem answering_answered {call : SendCall} {outcome : WriteOutcome} {shared : GatewayClient}
    {request : Request} {answer : Answer}
    (sent : client.shared.Sent zstd connection call outcome shared)
    (sockets : next.shared.sockets = shared.sockets)
    (answers : (Frame.of call).answer? = some answer)
    (working : client.run.pending connection = some request) (matching : Answers request answer)
    (done : next.run.pending connection = none) :
    Responder.Step Answers (client.answering connection) (next.answering connection) := by
  rw [answering, answering, sockets]
  exact responder_answered (congrFun sent.received connection) sent.own answers working matching
    done

theorem ConnectStep.answering {point : ConnectClient}
    (stepped : ConnectStep zstd connection client point input next)
    (run : client.run = .onConnection connection (.exchanging (.connecting point))) :
    Responder.Step Answers (client.answering connection) (next.answering connection) := by
  have before : client.run.pending connection = point.pending := by
    rw [run]
    exact RunTask.pending_own _ _
  cases stepped with
  | sendOpened sent =>
      exact answering_answered sent rfl rfl before .opened (RunTask.pending_own _ _)
  | sendOpenFail sent =>
      exact answering_answered sent rfl rfl before .openFail (RunTask.pending_own _ _)
  | _ => exact answering_unchanged rfl ((RunTask.pending_own _ _).trans before.symm)

theorem ExchangeStep.answering {point : GatewayExchange}
    (stepped : ExchangeStep zstd connection client point input next)
    (run : client.run = .onConnection connection (.exchanging point)) :
    Responder.Step Answers (client.answering connection) (next.answering connection) := by
  have before : client.run.pending connection = point.pending := by
    rw [run]
    exact RunTask.pending_own _ _
  cases stepped with
  | @receive packet data point dispatched =>
      refine responder_received (packet, data) (by simp [GatewaySockets.receive]) rfl before ?_
      rw [request_of_dispatch dispatched]
      exact (RunTask.pending_own connection (.exchanging point)).symm
  | @denied packet data dispatched =>
      refine responder_received (packet, data) (by simp [GatewaySockets.receive]) rfl before ?_
      exact request_of_denied dispatched
  | sendPong sent => exact answering_answered sent rfl rfl before .pong (RunTask.pending_own _ _)
  | connecting stepped => exact stepped.answering run
  | ended => exact answering_unchanged rfl before.symm
  | _ => exact answering_unchanged rfl ((RunTask.pending_own _ _).trans before.symm)

theorem ExchangeStep.pending_other {point : GatewayExchange}
    (stepped : ExchangeStep zstd serving client point input next)
    (different : connection ≠ serving) : next.run.pending connection = none := by
  cases stepped with
  | denied => rfl
  | ended => rfl
  | connecting stepped => cases stepped <;> exact RunTask.pending_other _ different
  | _ => exact RunTask.pending_other _ different

theorem RunStep.pending_outside {task : RunTask} (stepped : RunStep zstd client task input next)
    (outside : ∀ point, task ≠ .onConnection connection (.exchanging point)) :
    task.pending connection = none ∧ next.run.pending connection = none := by
  have unserved : ∀ (serving : ConnectionRef) (point : OnConnection), point.pending = none →
      (RunTask.onConnection serving point).pending connection = none := by
    intro serving point idle
    simp [RunTask.pending, idle]
  cases stepped with
  | connected => exact ⟨rfl, unserved _ _ rfl⟩
  | @onConnection serving point input next stepped =>
      cases stepped with
      | exchanging stepped =>
          have different : connection ≠ serving := by
            intro equal
            subst equal
            exact outside _ rfl
          exact ⟨RunTask.pending_other _ different, stepped.pending_other different⟩
      | clearWriter => exact ⟨unserved _ _ rfl, rfl⟩
      | _ => exact ⟨unserved _ _ rfl, unserved _ _ rfl⟩
  | onDisconnection stepped => cases stepped <;> exact ⟨rfl, rfl⟩
  | _ => exact ⟨rfl, rfl⟩

/-- The other tasks answer nothing and read nothing. -/
theorem answering_aside {action : ClientAction} (stepped : step zstd client action = some next)
    (aside : ∀ input, action ≠ .run input) (same : next.run = client.run)
    (connection : ConnectionRef) :
    Responder.Step Answers (client.answering connection) (next.answering connection) := by
  refine answering_beside stepped ?_ (by rw [same]) ?_
  · cases receivedStep_of_step stepped with
    | kept same => rw [same]
    | received => exact absurd rfl (aside _)
  · intro call sending
    cases sending with
    | regular => rfl
    | close => rfl
    | ping => rfl
    | command => rfl
    | _ => exact absurd rfl (aside _)

theorem answering_of_run (stepped : step zstd client (.run input) = some next)
    (moved : RunStep zstd client client.run input next) (connection : ConnectionRef) :
    Responder.Step Answers (client.answering connection) (next.answering connection) := by
  by_cases serving : ∃ point, client.run = .onConnection connection (.exchanging point)
  · rcases serving with ⟨point, run⟩
    rw [run] at moved
    cases moved with
    | onConnection moved =>
        cases moved with
        | exchanging moved => exact moved.answering run
  · have outside : ∀ point, client.run ≠ .onConnection connection (.exchanging point) :=
      fun point run => serving ⟨point, run⟩
    rcases moved.pending_outside outside with ⟨before, after⟩
    refine answering_beside stepped ?_ (after.trans before.symm) ?_
    · generalize acted : ClientAction.run input = action at stepped
      cases receivedStep_of_step stepped with
      | kept same => rw [same]
      | @received serving packet data _ run sockets =>
          have different : connection ≠ serving := by
            intro equal
            subst equal
            exact outside _ run
          simp [sockets, GatewaySockets.receive, different]
    · intro call sending
      cases sending with
      | opened point => exact absurd point (outside _)
      | openFail point => exact absurd point (outside _)
      | pong point => exact absurd point (outside _)

theorem answering_of_step {action : ClientAction} (stepped : step zstd client action = some next)
    (connection : ConnectionRef) :
    Responder.Step Answers (client.answering connection) (next.answering connection) := by
  cases transition_of_step stepped with
  | run moved => exact answering_of_run stepped moved connection
  | app => exact answering_aside stepped nofun rfl connection
  | ping => exact answering_aside stepped nofun rfl connection
  | beginCommand => exact answering_aside stepped nofun rfl connection
  | command => exact answering_aside stepped nofun rfl connection
  | resetGateway => exact answering_aside stepped nofun rfl connection
  | beginShutdown => exact answering_aside stepped nofun rfl connection
  | shutdown moved =>
      refine answering_aside stepped nofun ?_ connection
      generalize client.shutdown = task at moved
      cases moved <;> rfl

/-- On every connection the requests are answered in their order. -/
def AnswersInOrder (client : Client) : Prop :=
  ∀ connection, (client.answering connection).InOrder Answers

theorem answersInOrder_of_reachable (reachable : (system zstd).Reachable client) :
    client.AnswersInOrder :=
  reachable.invariant (fun _ => Responder.inOrder_idle)
    fun _ _ _ _ inOrder _ stepped connection =>
      (inOrder connection).step (answering_of_step stepped connection)

/-- In every run, with any number of connections and failing writes: what a client has
answered on a connection belongs, in this order, to different requests read from it, and
to all of them but the one at work as long as no write has failed. -/
theorem answers_requests (zstd : Zstd) (client : Client)
    (reachable : (system zstd).Reachable client) (connection : ConnectionRef) :
    let asked := requests ((client.shared.sockets.received connection).map Frame.of)
    let answered := answers (client.shared.sockets.writer connection).sent
    let pending := (client.run.pending connection).toList
    ∃ served, List.Forall₂ Answers served answered ∧ (served ++ pending).Sublist asked ∧
      ((client.shared.sockets.writer connection).half.failed = false →
        served ++ pending = asked) :=
  answersInOrder_of_reachable reachable connection

/-- A link is opened, another one is asked for, and the application cannot be reached. -/
theorem answers_requests_refused :
    ∃ client : Client, answers (client.shared.sockets.writer 0).sent =
        [.opened 1, .pong, .openFail 2] ∧
      ∃ served, List.Forall₂ Answers served (answers (client.shared.sockets.writer 0).sent) ∧
        served = requests ((client.shared.sockets.received 0).map Frame.of) := by
  have executed : ((system .runLength).runChecked (fun _ _ => true) .new
      (.run .go :: connect ++ openLink 1 ++
        [.run (.frame (PacketGW.new .ping 2 0 0) none), .run .go, .run (.write .ok),
          .run (.frame (PacketGW.new .open_ 3 2 0) none), .run (.verdict false), .run .go,
          .run (.write .ok)])).any
      (fun client => answers (client.shared.sockets.writer 0).sent =
          [.opened 1, .pong, .openFail 2] ∧
        (client.shared.sockets.writer 0).half.failed = false ∧
        client.run.pending 0 = none) = true := by decide +kernel
  rcases TransitionSystem.exists_reaches_of_runChecked executed with ⟨client, reaches, found⟩
  rcases of_decide_eq_true found with ⟨answered, healthy, idle⟩
  rcases answers_requests .runLength client reaches.always 0 with ⟨served, matched, _, whole⟩
  refine ⟨client, answered, served, matched, ?_⟩
  have complete := whole healthy
  rwa [idle, Option.toList_none, List.append_nil] at complete

end Client

end IoGateway

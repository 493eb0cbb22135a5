import IoGateway.Conversation
import IoGateway.Client.Teardown

/-! # The links that a client opens

Each `Open` that is read leads to one link at most, which gets its task when `Opened`
has been sent. As long as the server opens each link once, the identifiers of the
links are distinct.
-/

namespace IoGateway

def ConnectClient.announces? : ConnectClient → Option UInt16
  | .connect linkId => some linkId
  | .addLink linkId => some linkId
  | .openFailId linkId => some linkId
  | .sendOpenFail linkId _ => some linkId
  | _ => none

def ConnectClient.spawns? : ConnectClient → Option LinkRef
  | .spawn _ link => some link
  | _ => none

namespace RunTask

def announces? : RunTask → Option UInt16
  | .onConnection _ (.exchanging (.connecting point)) => point.announces?
  | _ => none

def opening? : RunTask → Option (UInt16 × LinkRef)
  | .onConnection _ (.exchanging (.connecting point)) => point.opening?
  | _ => none

def spawns? : RunTask → Option (ConnectionRef × LinkRef)
  | .onConnection connection (.exchanging (.connecting point)) =>
      point.spawns?.map (connection, ·)
  | _ => none

structure SameOpening (before after : RunTask) : Prop where
  announces : after.announces? = before.announces?
  opening : after.opening? = before.opening?
  spawns : after.spawns? = before.spawns?

theorem SameOpening.refl (task : RunTask) : SameOpening task task := ⟨rfl, rfl, rfl⟩

end RunTask

namespace Client

variable {zstd : Zstd} {client next : Client} {action : ClientAction} {input : Input}

/-- The frames that have been read from the client's first connection. -/
def heard (client : Client) : List Frame := (client.shared.sockets.received 0).map Frame.of

def SendsControl (client : Client) (action : ClientAction) : Prop :=
  ∀ connection call, client.Sending action connection call → call.1.linkId = 0 ∧
    call.1.packetType ≠ .opened ∧ call.1.packetType ≠ .regular ∧ Sendable call.1 call.2

inductive OpeningStep (zstd : Zstd) (client : Client) : ClientAction → Client → Prop
  | kept {action : ClientAction} {next : Client}
      (opening : RunTask.SameOpening client.run next.run) (app : next.app = client.app)
      (linkCount : next.linkCount = client.linkCount)
      (notApp : ∀ link input, action ≠ .app link input) (control : client.SendsControl action) :
      OpeningStep zstd client action next
  | announced {connection : ConnectionRef} {packet : PacketGW} {data : Option Bytes}
      {next : Client} (type : packet.packetType = .open_)
      (run : client.run = .onConnection connection (.exchanging .receive))
      (nextRun : next.run = .onConnection connection
        (.exchanging (.connecting (.connect packet.linkId))))
      (app : next.app = client.app) (linkCount : next.linkCount = client.linkCount)
      (sockets : next.shared.sockets = client.shared.sockets.receive connection (packet, data)) :
      OpeningStep zstd client (.run (.frame packet data)) next
  | created {connection : ConnectionRef} {linkId : UInt16} {next : Client}
      (run : client.run = .onConnection connection
        (.exchanging (.connecting (.addLink linkId))))
      (nextRun : next.run = .onConnection connection
        (.exchanging (.connecting (.setConnected linkId client.linkCount))))
      (app : next.app = client.app) (linkCount : next.linkCount = client.linkCount + 1)
      (link : next.shared.base.link =
        Function.update client.shared.base.link client.linkCount (Link.new linkId))
      (sockets : next.shared.sockets = client.shared.sockets) :
      OpeningStep zstd client (.run .go) next
  | opened {connection : ConnectionRef} {linkId : UInt16} {link : LinkRef} {packetId : UInt64}
      {outcome : WriteOutcome} {next : Client}
      (run : client.run = .onConnection connection
        (.exchanging (.connecting (.sendOpened linkId link packetId))))
      (nextRun : next.run = .onConnection connection
        (.exchanging (.connecting (.spawn linkId link))))
      (app : next.app = client.app) (linkCount : next.linkCount = client.linkCount)
      (sent : client.shared.Sent zstd connection (PacketGW.new .opened packetId linkId 0, none)
        outcome next.shared) :
      OpeningStep zstd client (.run (.write outcome)) next
  | spawned {connection : ConnectionRef} {linkId : UInt16} {link : LinkRef} {next : Client}
      (run : client.run = .onConnection connection (.exchanging (.connecting (.spawn linkId link))))
      (nextRun : next.run = .onConnection connection (.exchanging .receive))
      (app : next.app = Function.update client.app link (.running linkId connection .read))
      (linkCount : next.linkCount = client.linkCount) (shared : next.shared = client.shared) :
      OpeningStep zstd client (.run .go) next
  | refused {connection : ConnectionRef} {linkId : UInt16} {packetId : UInt64}
      {outcome : WriteOutcome} {next : Client}
      (run : client.run = .onConnection connection
        (.exchanging (.connecting (.sendOpenFail linkId packetId))))
      (nextRun : next.run = .onConnection connection (.exchanging .receive))
      (app : next.app = client.app) (linkCount : next.linkCount = client.linkCount)
      (sent : client.shared.Sent zstd connection (PacketGW.new .openFail packetId linkId 0, none)
        outcome next.shared) :
      OpeningStep zstd client (.run (.write outcome)) next
  | app {link : LinkRef} {input : Input} {shared : GatewayClient} {task : ClientAppTask}
      (moved : client.shared.AppStep zstd link (client.app link) input shared task) :
      OpeningStep zstd client (.app link input)
        { client with shared := shared, app := Function.update client.app link task }

theorem control_of_type {type : PacketType} {packetId : UInt64} (opened : type ≠ .opened)
    (regular : type ≠ .regular) :
    (PacketGW.new type packetId 0 0).linkId = 0 ∧
      (PacketGW.new type packetId 0 0).packetType ≠ .opened ∧
      (PacketGW.new type packetId 0 0).packetType ≠ .regular ∧
      Sendable (PacketGW.new type packetId 0 0) none :=
  ⟨rfl, opened, regular, rfl, rfl, by simp, Nat.zero_le _⟩

theorem sendsControl_of_ne
    (opened : ∀ connection linkId link packetId, client.run ≠ .onConnection connection
      (.exchanging (.connecting (.sendOpened linkId link packetId))))
    (refused : ∀ connection linkId packetId, client.run ≠ .onConnection connection
      (.exchanging (.connecting (.sendOpenFail linkId packetId)))) :
    client.SendsControl (.run input) := by
  intro connection call sending
  cases sending with
  | opened point => exact absurd point (opened _ _ _ _)
  | openFail point => exact absurd point (refused _ _ _)
  | pong => exact control_of_type (fun equal => nomatch equal) fun equal => nomatch equal

theorem ExchangeStep.openingStep {connection : ConnectionRef} {point : GatewayExchange}
    (stepped : ExchangeStep zstd connection client point input next)
    (run : client.run = .onConnection connection (.exchanging point)) :
    OpeningStep zstd client (.run input) next := by
  have notApp : ∀ link other, ClientAction.run input ≠ .app link other :=
    fun _ _ => ClientAction.noConfusion
  have control : (∀ linkId link packetId,
      point ≠ .connecting (.sendOpened linkId link packetId)) →
      (∀ linkId packetId, point ≠ .connecting (.sendOpenFail linkId packetId)) →
      client.SendsControl (.run input) := by
    intro opened refused
    apply sendsControl_of_ne
    · intro other linkId link packetId equal
      cases run.symm.trans equal
      exact opened _ _ _ rfl
    · intro other linkId packetId equal
      cases run.symm.trans equal
      exact refused _ _ rfl
  cases stepped with
  | @receive packet data after dispatched =>
      have moved := dispatched
      unfold GatewayClient.dispatch at moved
      split at moved
      · cases moved
        exact .kept (run ▸ ⟨rfl, rfl, rfl⟩) rfl rfl notApp (control (by simp) (by simp))
      · rename_i type
        cases moved
        exact .announced type run rfl rfl rfl rfl
      · cases moved
        exact .kept (run ▸ ⟨rfl, rfl, rfl⟩) rfl rfl notApp (control (by simp) (by simp))
      · split at moved
        · cases moved
          exact .kept (run ▸ ⟨rfl, rfl, rfl⟩) rfl rfl notApp (control (by simp) (by simp))
        · cases moved
          exact .kept (run ▸ ⟨rfl, rfl, rfl⟩) rfl rfl notApp (control (by simp) (by simp))
      · cases moved
      · cases moved
        exact .kept (run ▸ ⟨rfl, rfl, rfl⟩) rfl rfl notApp (control (by simp) (by simp))
  | connecting stepped =>
      cases stepped with
      | addLink => exact .created run rfl rfl rfl rfl rfl
      | sendOpened sent => exact .opened run rfl rfl rfl sent
      | spawn => exact .spawned run rfl rfl rfl rfl
      | sendOpenFail sent => exact .refused run rfl rfl rfl sent
      | _ => exact .kept (run ▸ ⟨rfl, rfl, rfl⟩) rfl rfl notApp (control (by simp) (by simp))
  | _ => exact .kept (run ▸ ⟨rfl, rfl, rfl⟩) rfl rfl notApp (control (by simp) (by simp))

theorem RunStep.openingStep (stepped : RunStep zstd client client.run input next) :
    OpeningStep zstd client (.run input) next := by
  have notApp : ∀ link other, ClientAction.run input ≠ .app link other :=
    fun _ _ => ClientAction.noConfusion
  have control : (∀ connection point, client.run ≠ .onConnection connection (.exchanging point)) →
      client.SendsControl (.run input) :=
    fun outside => sendsControl_of_ne (fun _ _ _ _ => outside _ _) fun _ _ _ => outside _ _
  generalize run : client.run = task at stepped
  rw [run] at control
  cases stepped with
  | onConnection stepped =>
      cases stepped with
      | exchanging stepped => exact stepped.openingStep run
      | _ => exact .kept (run ▸ ⟨rfl, rfl, rfl⟩) rfl rfl notApp (control (by simp))
  | onDisconnection stepped =>
      cases stepped <;> exact .kept (run ▸ ⟨rfl, rfl, rfl⟩) rfl rfl notApp (control (by simp))
  | _ => exact .kept (run ▸ ⟨rfl, rfl, rfl⟩) rfl rfl notApp (control (by simp))

theorem openingStep_of_step (stepped : step zstd client action = some next) :
    OpeningStep zstd client action next := by
  have quiet : ∀ {other : ClientAction},
      (∀ connection call, ¬ client.Sending other connection call) →
      client.SendsControl other := fun silent _ _ sending => absurd sending (silent _ _)
  cases transition_of_step stepped with
  | run moved => exact moved.openingStep
  | app moved => exact .app moved
  | ping =>
      refine .kept (.refl _) rfl rfl (fun _ _ => ClientAction.noConfusion) ?_
      intro connection call sending
      cases sending with
      | ping => exact control_of_type (fun equal => nomatch equal) fun equal => nomatch equal
  | command =>
      refine .kept (.refl _) rfl rfl (fun _ _ => ClientAction.noConfusion) ?_
      intro connection call sending
      cases sending with
      | command => exact control_of_type (fun equal => nomatch equal) fun equal => nomatch equal
  | shutdown moved =>
      refine .kept ?_ ?_ ?_ (fun _ _ => ClientAction.noConfusion)
        (quiet fun _ _ sending => by cases sending)
      all_goals
        generalize client.shutdown = task at moved
        cases moved <;> first | rfl | exact .refl _
  | _ =>
      exact .kept (.refl _) rfl rfl (fun _ _ => ClientAction.noConfusion)
        (quiet fun _ _ sending => by cases sending)

/-! ## The links and their identifiers -/

/-- Every link was created for an `Open` of its own. -/
structure Linked (client : Client) : Prop where
  opened : ∀ link < client.linkCount,
    Has .open_ (client.shared.base.link link).connectionId client.heard
  distinct : ∀ link other, link < client.linkCount → other < client.linkCount →
    (client.shared.base.link link).connectionId = (client.shared.base.link other).connectionId →
      link = other
  announced : ∀ linkId, client.run.announces? = some linkId → Has .open_ linkId client.heard ∧
    ∀ link < client.linkCount, (client.shared.base.link link).connectionId ≠ linkId
  opening : ∀ linkId link, client.run.opening? = some (linkId, link) →
    link < client.linkCount ∧ (client.shared.base.link link).connectionId = linkId ∧
      client.app link = .absent
  task : ∀ link linkId writer point, client.app link = .running linkId writer point →
    (client.shared.base.link link).connectionId = linkId
  vacant : ∀ link, client.linkCount ≤ link → client.app link = .absent
  unread : ∀ link < client.linkCount, client.app link = .absent →
    (client.shared.base.link link).received = []

theorem linked_new : Linked Client.new where
  opened := fun link exists_ => absurd exists_ (Nat.not_lt_zero link)
  distinct := fun link _ exists_ => absurd exists_ (Nat.not_lt_zero link)
  announced := fun _ announced => by cases announced
  opening := fun _ _ opening => by cases opening
  task := fun _ _ _ _ running => by cases running
  vacant := fun _ _ => rfl
  unread := fun link exists_ => absurd exists_ (Nat.not_lt_zero link)

def SingleConnection (client : Client) : Prop := client.connectionCount ≤ 1

theorem Epochs.first_connection (epochs : Epochs client) (single : client.SingleConnection)
    {connection : ConnectionRef} {point : OnConnection}
    (run : client.run = .onConnection connection point) : connection = 0 := by
  have current := epochs.connection connection point run
  unfold SingleConnection at single
  rw [← current] at single
  exact Nat.le_zero.mp (Nat.succ_le_succ_iff.mp single)

theorem received_of_frame {packet : PacketGW} {data : Option Bytes}
    (single : client.SingleConnection) (epochs : Epochs client)
    (stepped : step zstd client (.run (.frame packet data)) = some next) :
    next.shared.sockets.received 0 =
      client.shared.sockets.received 0 ++ [(packet, data)] := by
  rcases sockets_of_frame stepped with ⟨connection, run, sockets⟩
  cases epochs.first_connection single run
  simp [sockets, GatewaySockets.receive]

theorem heard_prefix_of_step (stepped : step zstd client action = some next) :
    client.heard <+: next.heard :=
  (received_prefix_of_step stepped 0).map _

/-- Unless a link is created, only its own task changes what has been read from it. -/
theorem DataStep.source (moved : DataStep client action next)
    (linkCount : next.linkCount = client.linkCount) {link : LinkRef}
    (notApp : ∀ input, action ≠ .app link input) :
    (next.shared.base.link link).connectionId = (client.shared.base.link link).connectionId ∧
      (next.shared.base.link link).received = (client.shared.base.link link).received := by
  cases moved with
  | quiet quiet => exact ⟨(quiet.quiet link).connectionId, (quiet.quiet link).received⟩
  | created run links created openedOn more => exact absurd (linkCount.symm.trans more) (by omega)
  | @forwarded connection linkId payload outcome target written next run found sent shared =>
      have data := (Link.sendPacketStep_of_eq sent).data
      by_cases equal : link = target
      · subst equal
        simpa [shared, Gateway.updateLink] using ⟨data.1, data.2.1⟩
      · simp [shared, Gateway.updateLink, equal]
  | @read reading linkId writer bytes next running shared =>
      have different : link ≠ reading := fun equal => notApp (.chunk bytes) (equal ▸ rfl)
      simp [shared, Gateway.updateLink, different]

structure LinksSame (client next : Client) : Prop where
  linkCount : next.linkCount = client.linkCount
  source : ∀ link, (next.shared.base.link link).connectionId =
    (client.shared.base.link link).connectionId ∧
      (next.shared.base.link link).received = (client.shared.base.link link).received
  heard : client.heard <+: next.heard

theorem linksSame_of_step (stepped : step zstd client action = some next)
    (linkCount : next.linkCount = client.linkCount)
    (notApp : ∀ link input, action ≠ .app link input) : LinksSame client next where
  linkCount := linkCount
  source := fun link => (dataStep_of_step stepped).source linkCount (notApp link)
  heard := heard_prefix_of_step stepped

theorem Linked.same (linked : Linked client) (same : LinksSame client next)
    (app : next.app = client.app)
    (announced : ∀ linkId, next.run.announces? = some linkId → Has .open_ linkId next.heard ∧
      ∀ link < client.linkCount, (client.shared.base.link link).connectionId ≠ linkId)
    (opening : ∀ linkId link, next.run.opening? = some (linkId, link) →
      client.run.opening? = some (linkId, link)) : Linked next where
  opened := by
    intro link exists_
    rw [same.linkCount] at exists_
    rw [(same.source link).1]
    exact (linked.opened link exists_).mono same.heard
  distinct := by
    intro link other
    rw [same.linkCount, (same.source link).1, (same.source other).1]
    exact linked.distinct link other
  announced := by
    intro linkId announces
    refine ⟨(announced linkId announces).1, ?_⟩
    intro link exists_
    rw [same.linkCount] at exists_
    rw [(same.source link).1]
    exact (announced linkId announces).2 link exists_
  opening := by
    intro linkId link opens
    rw [same.linkCount, (same.source link).1, app]
    exact linked.opening linkId link (opening linkId link opens)
  task := by
    rw [app]
    intro link linkId writer point running
    rw [(same.source link).1]
    exact linked.task link linkId writer point running
  vacant := by
    rw [same.linkCount, app]
    exact linked.vacant
  unread := by
    intro link
    rw [same.linkCount, app, (same.source link).2]
    exact linked.unread link

theorem Linked.past (linked : Linked client) (same : LinksSame client next)
    (app : next.app = client.app) (announces : next.run.announces? = none)
    (opening : ∀ linkId link, next.run.opening? = some (linkId, link) →
      client.run.opening? = some (linkId, link)) : Linked next := by
  refine linked.same same app ?_ opening
  intro linkId announced
  rw [announces] at announced
  cases announced

theorem Linked.created {connection : ConnectionRef} {linkId : UInt16} (linked : Linked client)
    (run : client.run = .onConnection connection (.exchanging (.connecting (.addLink linkId))))
    (nextRun : next.run = .onConnection connection
      (.exchanging (.connecting (.setConnected linkId client.linkCount))))
    (app : next.app = client.app) (linkCount : next.linkCount = client.linkCount + 1)
    (link : next.shared.base.link =
      Function.update client.shared.base.link client.linkCount (Link.new linkId))
    (heard : next.heard = client.heard) : Linked next := by
  have fresh := linked.announced linkId (by rw [run]; rfl)
  have own : next.shared.base.link client.linkCount = Link.new linkId := by
    rw [link, Function.update_self]
  have older : ∀ {other}, other < client.linkCount →
      next.shared.base.link other = client.shared.base.link other := by
    intro other exists_
    rw [link, Function.update_of_ne (Nat.ne_of_lt exists_)]
  have split : ∀ {other}, other < next.linkCount →
      other = client.linkCount ∨ other < client.linkCount := by
    intro other exists_
    rw [linkCount] at exists_
    exact (Nat.lt_succ_iff_lt_or_eq.mp exists_).symm
  constructor
  · intro other exists_
    rw [heard]
    rcases split exists_ with rfl | before
    · rw [own]
      exact fresh.1
    · rw [older before]
      exact linked.opened other before
  · intro first second existsFirst existsSecond same
    rcases split existsFirst with rfl | beforeFirst
    · rcases split existsSecond with rfl | beforeSecond
      · rfl
      · rw [own, older beforeSecond] at same
        exact absurd same.symm (fresh.2 second beforeSecond)
    · rcases split existsSecond with rfl | beforeSecond
      · rw [own, older beforeFirst] at same
        exact absurd same (fresh.2 first beforeFirst)
      · rw [older beforeFirst, older beforeSecond] at same
        exact linked.distinct first second beforeFirst beforeSecond same
  · intro other announces
    rw [nextRun] at announces
    cases announces
  · intro other opened opening
    rw [nextRun] at opening
    cases opening
    rw [linkCount, own, app]
    exact ⟨Nat.lt_succ_self _, rfl, linked.vacant _ (Nat.le_refl _)⟩
  · intro other otherId writer point running
    rw [app] at running
    have exists_ : other < client.linkCount := by
      by_contra beyond
      rw [linked.vacant other (Nat.le_of_not_lt beyond)] at running
      cases running
    rw [older exists_]
    exact linked.task other otherId writer point running
  · intro other beyond
    rw [linkCount] at beyond
    rw [app]
    exact linked.vacant other (Nat.le_of_succ_le beyond)
  · intro other exists_ absent
    rcases split exists_ with rfl | before
    · rw [own]
      rfl
    · rw [app] at absent
      rw [older before]
      exact linked.unread other before absent

theorem Linked.app {link : LinkRef} {shared : GatewayClient} {task : ClientAppTask}
    (linked : Linked client) (epochs : Epochs client)
    (moved : client.shared.AppStep zstd link (client.app link) input shared task)
    (stepped : step zstd client (.app link input) = some { client with
      shared := shared
      app := Function.update client.app link task }) :
    Linked { client with shared := shared, app := Function.update client.app link task } := by
  have data := dataStep_of_step stepped
  have heard := heard_prefix_of_step stepped
  have present : client.app link ≠ .absent := by
    intro absent
    rw [absent] at moved
    cases moved
  have later : task ≠ .absent := by
    generalize client.app link = before at moved
    cases moved <;> simp
  have used : link < client.linkCount := by
    by_contra beyond
    exact present (linked.vacant link (Nat.le_of_not_lt beyond))
  have absent_of : ∀ {other}, Function.update client.app link task other = .absent →
      other ≠ link ∧ client.app other = .absent := by
    intro other absent
    by_cases equal : other = link
    · rw [equal, Function.update_self] at absent
      exact absurd absent later
    · rw [Function.update_of_ne equal] at absent
      exact ⟨equal, absent⟩
  constructor
  · intro other exists_
    rw [(data.existing exists_).1]
    exact (linked.opened other exists_).mono heard
  · intro first second existsFirst existsSecond
    rw [(data.existing existsFirst).1, (data.existing existsSecond).1]
    exact linked.distinct first second existsFirst existsSecond
  · intro linkId announces
    refine ⟨(linked.announced linkId announces).1.mono heard, ?_⟩
    intro other exists_
    rw [(data.existing exists_).1]
    exact (linked.announced linkId announces).2 other exists_
  · intro linkId other opening
    rcases linked.opening linkId other opening with ⟨exists_, id, absent⟩
    refine ⟨exists_, (data.existing exists_).1.trans id, ?_⟩
    change Function.update client.app link task other = .absent
    rw [Function.update_of_ne]
    · exact absent
    · intro equal
      exact present (equal ▸ absent)
  · intro other linkId writer point running
    change Function.update client.app link task other = _ at running
    by_cases equal : other = link
    · subst equal
      rw [Function.update_self] at running
      rcases moved.running running with ⟨before, was⟩
      rw [(data.existing used).1]
      exact linked.task other linkId writer before was
    · rw [Function.update_of_ne equal] at running
      rw [(data.existing (epochs.tasks other linkId writer point running).2).1]
      exact linked.task other linkId writer point running
  · intro other beyond
    change Function.update client.app link task other = .absent
    rw [Function.update_of_ne (Nat.ne_of_gt (Nat.lt_of_lt_of_le used beyond))]
    exact linked.vacant other beyond
  · intro other exists_ absent
    rcases absent_of absent with ⟨different, before⟩
    have same := data.received exists_ fun other equal =>
      different (ClientAction.app.inj equal).1.symm
    exact same.trans (linked.unread other exists_ before)

theorem Linked.step (linked : Linked client) (epochs : Epochs client)
    (single : client.SingleConnection) (introduced : ∀ linkId, Introduced .open_ linkId next.heard)
    (stepped : step zstd client action = some next) : Linked next := by
  have heard := heard_prefix_of_step stepped
  cases openingStep_of_step stepped with
  | kept opening app linkCount notApp =>
      refine linked.same (linksSame_of_step stepped linkCount notApp) app ?_ ?_
      · intro linkId announces
        rw [opening.announces] at announces
        exact ⟨(linked.announced linkId announces).1.mono heard,
          (linked.announced linkId announces).2⟩
      · intro linkId link opens
        rwa [opening.opening] at opens
  | @announced connection packet data _ type run nextRun app linkCount sockets =>
      have first := epochs.first_connection single run
      subst first
      have grown : next.heard = client.heard ++ [Frame.of (packet, data)] := by
        simp [Client.heard, sockets, GatewaySockets.receive]
      refine linked.same (linksSame_of_step stepped linkCount fun _ _ => ClientAction.noConfusion)
        app ?_ ?_
      · intro linkId announces
        rw [nextRun] at announces
        cases announces
        have is : (Frame.of (packet, data)).Is .open_ packet.linkId := ⟨type, rfl⟩
        refine ⟨grown ▸ has_concat.mpr (.inr is), ?_⟩
        intro link exists_ same
        have once := (introduced packet.linkId).once client.heard _ (grown ▸ List.prefix_refl _) is
        exact once (same ▸ linked.opened link exists_)
      · intro linkId link opens
        rw [nextRun] at opens
        cases opens
  | created run nextRun app linkCount link sockets =>
      exact linked.created run nextRun app linkCount link (by rw [Client.heard, sockets]; rfl)
  | opened run nextRun app linkCount =>
      refine linked.past (linksSame_of_step stepped linkCount fun _ _ => ClientAction.noConfusion)
        app (by rw [nextRun]; rfl) ?_
      intro linkId link opens
      rw [nextRun] at opens
      rw [run]
      exact opens
  | @spawned connection linkId link _ run nextRun app linkCount shared =>
      have opening := linked.opening linkId link (by rw [run]; rfl)
      constructor
      · rw [linkCount, shared, Client.heard, shared]
        exact linked.opened
      · rw [linkCount, shared]
        exact linked.distinct
      · intro other announces
        rw [nextRun] at announces
        cases announces
      · intro other opened opens
        rw [nextRun] at opens
        cases opens
      · intro other otherId writer point running
        rw [app] at running
        rw [shared]
        by_cases equal : other = link
        · subst equal
          rw [Function.update_self] at running
          cases running
          exact opening.2.1
        · rw [Function.update_of_ne equal] at running
          exact linked.task other otherId writer point running
      · intro other beyond
        rw [linkCount] at beyond
        rw [app, Function.update_of_ne (Nat.ne_of_gt (Nat.lt_of_lt_of_le opening.1 beyond))]
        exact linked.vacant other beyond
      · intro other exists_ absent
        rw [linkCount] at exists_
        rw [app] at absent
        rw [shared]
        by_cases equal : other = link
        · rw [equal, Function.update_self] at absent
          cases absent
        · rw [Function.update_of_ne equal] at absent
          exact linked.unread other exists_ absent
  | refused run nextRun app linkCount =>
      refine linked.past (linksSame_of_step stepped linkCount fun _ _ => ClientAction.noConfusion)
        app (by rw [nextRun]; rfl) ?_
      intro linkId link opens
      rw [nextRun] at opens
      cases opens
  | app moved => exact linked.app epochs moved stepped

end Client

end IoGateway

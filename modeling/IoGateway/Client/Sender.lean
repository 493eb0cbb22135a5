import IoGateway.Senders
import IoGateway.Client.Abandoned
import IoGateway.Client.Opening

/-! # The client as a sending side

The tasks of links are the senders of the client's connection: `Opened` opens a link,
`OpenFail` refuses to. Every step of a client that does not reconnect is one of its
senders.
-/

namespace IoGateway

def clientSignals : Signals where
  opening := .opened
  refusal := some .openFail
  opening_bare := ⟨by decide, by decide⟩
  refusal_bare := fun _ refusal => by
    cases refusal
    exact ⟨by decide, by decide, by decide⟩

def ClientAppExchange.phase : ClientAppExchange → SenderPhase
  | .regularId chunk => .forwarding (some chunk)
  | .sendRegular chunk _ => .forwarding (some chunk)
  | .removeLink => .closed
  | _ => .forwarding none

theorem GatewayClient.Sent.sentOn {zstd : Zstd} {client after : GatewayClient}
    {writer : ConnectionRef} {call : SendCall} {outcome : WriteOutcome}
    (sent : client.Sent zstd writer call outcome after)
    (sticky : (after.sockets.writer writer).half.resumed = false) :
    SentOn zstd client.sockets.writer after.sockets.writer writer call := by
  rcases sent with ⟨sockets, sending, rfl⟩
  exact sentOn_of_send sending sticky

namespace Client

variable {zstd : Zstd} {client next : Client} {action : ClientAction} {input : Input}

/-! ## The connection that the senders use -/

/-- Whatever may send is on a connection that has been established. -/
structure Established (client : Client) : Prop where
  app : ∀ link connection, (client.app link).maySendOn connection = true →
    connection < client.connectionCount
  ping : ∀ connection, (client.ping connection).running = true →
    connection < client.connectionCount

theorem Established.step (established : Established client) (epochs : Epochs client)
    (stepped : step zstd client action = some next) : Established next := by
  have counted := connectionCount_le_of_step stepped
  have serving : ∀ {connection point}, client.run = .onConnection connection point →
      connection < client.connectionCount :=
    fun run => Nat.lt_of_succ_le (Nat.le_of_eq (epochs.connection _ _ run))
  constructor
  · intro link connection may
    rcases maySendOn_of_step stepped may with before | ⟨point, run⟩
    · exact Nat.lt_of_lt_of_le (established.app link connection before) counted
    · exact Nat.lt_of_lt_of_le (serving run) counted
  · intro connection running
    rcases ping_of_step stepped running with before | ⟨_, run⟩
    · exact Nat.lt_of_lt_of_le (established.ping connection before) counted
    · exact Nat.lt_of_lt_of_le (serving run) counted

theorem established_of_reachable (reachable : (system zstd).Reachable client) :
    Established client := by
  refine reachable.invariant ⟨?_, ?_⟩ fun _ _ _ earlier established _ stepped =>
    established.step (epochs_of_reachable earlier) stepped
  · intro link connection may
    cases may
  · intro connection running
    cases running

/-- Whatever is sent is sent on the first connection. -/
theorem Sending.first {connection : ConnectionRef} {call : SendCall}
    (sending : client.Sending action connection call) (established : Established client)
    (epochs : Epochs client) (held : WriterHeld client) (single : client.SingleConnection) :
    connection = 0 := by
  have first : connection < client.connectionCount → connection = 0 :=
    fun below => Nat.lt_one_iff.mp (Nat.lt_of_lt_of_le below single)
  cases sending with
  | opened run => exact epochs.first_connection single run
  | openFail run => exact epochs.first_connection single run
  | pong run => exact epochs.first_connection single run
  | regular running =>
      exact first (established.app _ connection
        (by rw [running]; simp [ClientAppTask.maySendOn]))
  | close running =>
      exact first (established.app _ connection
        (by rw [running]; simp [ClientAppTask.maySendOn]))
  | ping running => exact first (established.ping connection (by rw [running]; rfl))
  | command running =>
      exact first (Nat.lt_of_succ_le (Nat.le_of_eq
        (held.current connection (held.command connection (by rw [running]; rfl)))))

/-- A step calls `send_gw_packet` on at most one connection. -/
theorem writers_of_step (stepped : step zstd client action = some next)
    (first : ∀ connection call, client.Sending action connection call → connection = 0) :
    WritersSilent client.shared.sockets.writer next.shared.sockets.writer ∨
      ∃ call outcome, client.Sending action 0 call ∧
        (client.shared.sockets.writer 0).send zstd call outcome =
          some (next.shared.sockets.writer 0) ∧
        ∀ other, other ≠ 0 →
          (client.shared.sockets.writer other).Silent (next.shared.sockets.writer other) := by
  have others : ∀ other, other ≠ 0 →
      (client.shared.sockets.writer other).Silent (next.shared.sockets.writer other) := by
    intro other different
    cases writerStep_of_step stepped other with
    | silent silent => exact silent
    | sent sending _ => exact absurd (first other _ sending) different
  cases writerStep_of_step stepped 0 with
  | silent silent =>
      refine .inl fun connection => ?_
      by_cases zero : connection = 0
      · exact zero ▸ silent
      · exact others connection zero
  | sent sending sent => exact .inr ⟨_, _, sending, sent, others⟩

theorem frames_prefix_of_step (stepped : step zstd client action = some next)
    (connection : ConnectionRef) : (client.shared.sockets.writer connection).frames <+:
      (next.shared.sockets.writer connection).frames := by
  cases writerStep_of_step stepped connection with
  | silent silent => rw [silent.frames]
  | sent sending sent => exact GatewayWriter.frames_prefix_of_send sent

/-! ## The senders of a state -/

/-- The sender of a link's task, or of the link that is about to be handed to it. -/
def sender (client : Client) (link : LinkRef) : Sender :=
  let received := (client.shared.base.link link).received
  match client.app link with
  | .running _ writer point => ⟨point.phase, writer, received⟩
  | .finished => ⟨.closed, client.shared.openedOn link, received⟩
  | .absent =>
      match client.run.spawns? with
      | some (connection, spawning) =>
          if spawning = link then ⟨.forwarding none, connection, received⟩ else .idle
      | none => .idle

structure Represents (client : Client) (senders : Senders) : Prop where
  writer : senders.writer = client.shared.sockets.writer
  unopened : ∀ linkId, ¬ Has .open_ linkId client.heard → senders.link linkId = .idle
  announced : ∀ linkId, client.run.announces? = some linkId → senders.link linkId = .idle
  link : ∀ link < client.linkCount,
    senders.link (client.shared.base.link link).connectionId = client.sender link
  unlinked : ∀ linkId,
    (∀ link < client.linkCount, (client.shared.base.link link).connectionId ≠ linkId) →
      (senders.link linkId).received = []

theorem represents_new : Represents Client.new .new where
  writer := rfl
  unopened := fun _ _ => rfl
  announced := fun _ announced => by cases announced
  link := fun link exists_ => absurd exists_ (Nat.not_lt_zero link)
  unlinked := fun _ _ => rfl

theorem sender_congr {link : LinkRef} (app : next.app link = client.app link)
    (spawns : next.run.spawns? = client.run.spawns?)
    (received : (next.shared.base.link link).received = (client.shared.base.link link).received)
    (openedOn : next.shared.openedOn link = client.shared.openedOn link) :
    next.sender link = client.sender link := by
  unfold sender
  rw [app, spawns, received, openedOn]

theorem sender_congr_of_present {link : LinkRef} (present : client.app link ≠ .absent)
    (app : next.app link = client.app link)
    (received : (next.shared.base.link link).received = (client.shared.base.link link).received)
    (openedOn : next.shared.openedOn link = client.shared.openedOn link) :
    next.sender link = client.sender link := by
  unfold sender
  rw [app, received, openedOn]
  cases task : client.app link with
  | absent => exact absurd task present
  | running => rfl
  | finished => rfl

theorem sender_of_absent {link : LinkRef} (absent : client.app link = .absent)
    (spawns : ∀ connection, client.run.spawns? ≠ some (connection, link)) :
    client.sender link = .idle := by
  unfold sender
  rw [absent]
  cases spawning : client.run.spawns? with
  | none => rfl
  | some spawned =>
      rcases spawned with ⟨connection, other⟩
      have different : other ≠ link := fun equal => spawns connection (equal ▸ spawning)
      simp [different]

theorem sender_congr_of_unspawned {link : LinkRef} (app : next.app link = client.app link)
    (before : ∀ connection, client.run.spawns? ≠ some (connection, link))
    (after : ∀ connection, next.run.spawns? ≠ some (connection, link))
    (received : (next.shared.base.link link).received = (client.shared.base.link link).received)
    (openedOn : next.shared.openedOn link = client.shared.openedOn link) :
    next.sender link = client.sender link := by
  by_cases absent : client.app link = .absent
  · rw [sender_of_absent absent before, sender_of_absent (app.trans absent) after]
  · exact sender_congr_of_present absent app received openedOn

theorem sender_of_running {link : LinkRef} {linkId : UInt16} {writer : ConnectionRef}
    {point : ClientAppExchange} (running : client.app link = .running linkId writer point) :
    client.sender link =
      ⟨point.phase, writer, (client.shared.base.link link).received⟩ := by
  unfold sender
  rw [running]

theorem sender_of_finished {link : LinkRef} (finished : client.app link = .finished) :
    client.sender link = ⟨.closed, client.shared.openedOn link,
      (client.shared.base.link link).received⟩ := by
  unfold sender
  rw [finished]

section

variable {senders : Senders}

theorem Represents.same (represents : client.Represents senders) (same : LinksSame client next)
    (sender : ∀ link < client.linkCount, next.sender link = client.sender link)
    (announced : ∀ linkId, next.run.announces? = some linkId →
      senders.link linkId = .idle) :
    next.Represents ⟨senders.link, next.shared.sockets.writer⟩ where
  writer := rfl
  unopened := fun linkId unheard => represents.unopened linkId fun has =>
    unheard (has.mono same.heard)
  announced := announced
  link := by
    intro link exists_
    rw [same.linkCount] at exists_
    rw [(same.source link).1, sender link exists_]
    exact represents.link link exists_
  unlinked := by
    intro linkId none
    apply represents.unlinked linkId
    intro link exists_
    rw [← (same.source link).1]
    exact none link (same.linkCount ▸ exists_)

theorem Represents.goesOn {link : LinkRef} (represents : client.Represents senders)
    (linked : Linked client) (exists_ : link < client.linkCount)
    (linkCount : next.linkCount = client.linkCount)
    (connectionId : ∀ other < client.linkCount, (next.shared.base.link other).connectionId =
      (client.shared.base.link other).connectionId)
    (heard : client.heard <+: next.heard)
    (others : ∀ other < client.linkCount, other ≠ link → next.sender other = client.sender other)
    (announced : ∀ linkId, next.run.announces? = some linkId →
      client.run.announces? = some linkId) :
    next.Represents ⟨Function.update senders.link (client.shared.base.link link).connectionId
      (next.sender link), next.shared.sockets.writer⟩ where
  writer := rfl
  unopened := by
    intro linkId unheard
    have before : ¬ Has .open_ linkId client.heard := fun has => unheard (has.mono heard)
    have different : linkId ≠ (client.shared.base.link link).connectionId :=
      fun equal => before (equal ▸ linked.opened link exists_)
    change Function.update senders.link _ _ linkId = _
    rw [Function.update_of_ne different]
    exact represents.unopened linkId before
  announced := by
    intro linkId announces
    have before := announced linkId announces
    have different : linkId ≠ (client.shared.base.link link).connectionId :=
      fun equal => (linked.announced linkId before).2 link exists_ equal.symm
    change Function.update senders.link _ _ linkId = _
    rw [Function.update_of_ne different]
    exact represents.announced linkId before
  link := by
    intro other present
    rw [linkCount] at present
    rw [connectionId other present]
    change Function.update senders.link _ _ _ = _
    by_cases equal : other = link
    · rw [equal, Function.update_self]
    · have different : (client.shared.base.link other).connectionId ≠
          (client.shared.base.link link).connectionId :=
        fun same => equal (linked.distinct other link present exists_ same)
      rw [Function.update_of_ne different, others other present equal]
      exact represents.link other present
  unlinked := by
    intro linkId none
    have before : ∀ other < client.linkCount,
        (client.shared.base.link other).connectionId ≠ linkId := by
      intro other present
      rw [← connectionId other present]
      exact none other (linkCount ▸ present)
    change (Function.update senders.link _ _ linkId).received = _
    rw [Function.update_of_ne (before link exists_).symm]
    exact represents.unlinked linkId before

theorem Represents.created {connection : ConnectionRef} {linkId : UInt16}
    (represents : client.Represents senders) (linked : Linked client)
    (run : client.run = .onConnection connection (.exchanging (.connecting (.addLink linkId))))
    (nextRun : next.run = .onConnection connection
      (.exchanging (.connecting (.setConnected linkId client.linkCount))))
    (app : next.app = client.app) (linkCount : next.linkCount = client.linkCount + 1)
    (link : next.shared.base.link =
      Function.update client.shared.base.link client.linkCount (Link.new linkId))
    (openedOn : ∀ link < client.linkCount,
      next.shared.openedOn link = client.shared.openedOn link)
    (heard : next.heard = client.heard) :
    next.Represents ⟨senders.link, next.shared.sockets.writer⟩ := by
  have older : ∀ {other}, other < client.linkCount →
      next.shared.base.link other = client.shared.base.link other := by
    intro other exists_
    rw [link, Function.update_of_ne (Nat.ne_of_lt exists_)]
  refine ⟨rfl, ?_, ?_, ?_, ?_⟩
  · rw [heard]
    exact represents.unopened
  · intro other announces
    rw [nextRun] at announces
    cases announces
  · intro other exists_
    rw [linkCount] at exists_
    rcases Nat.lt_succ_iff_lt_or_eq.mp exists_ with before | rfl
    · rw [older before]
      have spawns : next.run.spawns? = client.run.spawns? := by rw [nextRun, run]; rfl
      have received := congrArg Link.received (older before)
      rw [sender_congr (congrFun app other) spawns received (openedOn other before)]
      exact represents.link other before
    · have absent : next.app client.linkCount = .absent := by
        rw [app]
        exact linked.vacant _ (Nat.le_refl _)
      rw [sender_of_absent absent (by rw [nextRun]; intro _ spawns; cases spawns), link,
        Function.update_self]
      exact represents.announced linkId (by rw [run]; rfl)
  · intro other none
    apply represents.unlinked other
    intro before exists_
    rw [← older exists_]
    exact none before (linkCount ▸ Nat.lt_succ_of_lt exists_)

theorem Represents.refused {connection : ConnectionRef} {linkId : UInt16} {packetId : UInt64}
    {outcome : WriteOutcome} (represents : client.Represents senders) (linked : Linked client)
    (same : LinksSame client next)
    (run : client.run = .onConnection connection
      (.exchanging (.connecting (.sendOpenFail linkId packetId))))
    (nextRun : next.run = .onConnection connection (.exchanging .receive))
    (app : next.app = client.app)
    (sent : client.shared.Sent zstd connection (PacketGW.new .openFail packetId linkId 0, none)
      outcome next.shared) :
    next.Represents ⟨Function.update senders.link linkId ⟨.closed, connection, []⟩,
      next.shared.sockets.writer⟩ := by
  have announced := linked.announced linkId (by rw [run]; rfl)
  refine ⟨rfl, ?_, ?_, ?_, ?_⟩
  · intro other unheard
    have before : ¬ Has .open_ other client.heard := fun has => unheard (has.mono same.heard)
    have different : other ≠ linkId := fun equal => before (equal ▸ announced.1)
    change Function.update senders.link _ _ other = _
    rw [Function.update_of_ne different]
    exact represents.unopened other before
  · intro other announces
    rw [nextRun] at announces
    cases announces
  · intro link exists_
    rw [same.linkCount] at exists_
    rw [(same.source link).1]
    change Function.update senders.link _ _ _ = _
    rw [Function.update_of_ne (announced.2 link exists_)]
    have spawns : next.run.spawns? = client.run.spawns? := by rw [nextRun, run]; rfl
    rw [sender_congr (congrFun app link) spawns (same.source link).2
      (congrFun sent.openedOn link)]
    exact represents.link link exists_
  · intro other none
    change (Function.update senders.link _ _ other).received = _
    by_cases equal : other = linkId
    · rw [equal, Function.update_self]
    · rw [Function.update_of_ne equal]
      apply represents.unlinked other
      intro link exists_
      rw [← (same.source link).1]
      exact none link (same.linkCount ▸ exists_)

theorem sender_of_opened {connection : ConnectionRef} {linkId : UInt16} {link : LinkRef}
    {packetId : UInt64} (linked : Linked client) (same : LinksSame client next)
    (run : client.run = .onConnection connection
      (.exchanging (.connecting (.sendOpened linkId link packetId))))
    (nextRun : next.run = .onConnection connection
      (.exchanging (.connecting (.spawn linkId link))))
    (app : next.app = client.app) :
    client.sender link = .idle ∧ next.sender link = ⟨.forwarding none, connection, []⟩ := by
  rcases linked.opening linkId link (by rw [run]; rfl) with ⟨exists_, -, absent⟩
  refine ⟨sender_of_absent absent (by rw [run]; intro _ spawns; cases spawns), ?_⟩
  unfold sender
  rw [app, absent, nextRun, (same.source link).2, linked.unread link exists_ absent]
  simp [RunTask.spawns?, ConnectClient.spawns?]

theorem Represents.opened {connection : ConnectionRef} {linkId : UInt16} {link : LinkRef}
    {packetId : UInt64} (represents : client.Represents senders) (linked : Linked client)
    (same : LinksSame client next)
    (run : client.run = .onConnection connection
      (.exchanging (.connecting (.sendOpened linkId link packetId))))
    (nextRun : next.run = .onConnection connection
      (.exchanging (.connecting (.spawn linkId link))))
    (app : next.app = client.app)
    (openedOn : ∀ other < client.linkCount,
      next.shared.openedOn other = client.shared.openedOn other) :
    next.Represents ⟨Function.update senders.link linkId (next.sender link),
      next.shared.sockets.writer⟩ := by
  rcases linked.opening linkId link (by rw [run]; rfl) with ⟨exists_, id, -⟩
  rw [← id]
  refine represents.goesOn linked exists_ same.linkCount (fun other _ => (same.source other).1)
    same.heard ?_ ?_
  · intro other present different
    refine sender_congr_of_unspawned (congrFun app other) ?_ ?_ (same.source other).2
      (openedOn other present)
    · rw [run]
      intro _ spawns
      cases spawns
    · rw [nextRun]
      intro _ spawns
      cases spawns
      exact different rfl
  · intro other announces
    rw [nextRun] at announces
    cases announces

/-- The task takes over the sender of the link it is started for. -/
theorem Represents.spawned {connection : ConnectionRef} {linkId : UInt16} {link : LinkRef}
    (represents : client.Represents senders) (linked : Linked client)
    (same : LinksSame client next)
    (run : client.run = .onConnection connection (.exchanging (.connecting (.spawn linkId link))))
    (nextRun : next.run = .onConnection connection (.exchanging .receive))
    (app : next.app = Function.update client.app link (.running linkId connection .read))
    (shared : next.shared = client.shared) :
    next.Represents ⟨senders.link, next.shared.sockets.writer⟩ := by
  rcases linked.opening linkId link (by rw [run]; rfl) with ⟨-, -, absent⟩
  refine represents.same same ?_ ?_
  · intro other _
    by_cases equal : other = link
    · subst equal
      rw [@sender_of_running next other linkId connection .read
        (by rw [app, Function.update_self]), shared]
      unfold sender
      rw [absent, run]
      simp [RunTask.spawns?, ConnectClient.spawns?, ClientAppExchange.phase]
    · refine sender_congr_of_unspawned (by rw [app, Function.update_of_ne equal]) ?_ ?_
        (by rw [shared]) (by rw [shared])
      · rw [run]
        intro _ spawns
        cases spawns
        exact equal rfl
      · rw [nextRun]
        intro _ spawns
        cases spawns
  · intro other announces
    rw [nextRun] at announces
    cases announces

inductive OwnSenderStep (zstd : Zstd) (linkId : UInt16) (before after : Sender)
    (writers later : ConnectionRef → GatewayWriter) : Prop
  | quiet (same : after = before) (silent : WritersSilent writers later)
  | read {connection : ConnectionRef} {received chunk : Bytes}
      (idle : before = ⟨.forwarding none, connection, received⟩)
      (size : 1 ≤ chunk.length ∧ chunk.length ≤ bufferSize)
      (grown : after = ⟨.forwarding (some chunk), connection, received ++ chunk⟩)
      (silent : WritersSilent writers later)
  | sent {call : SendCall} (sends : SenderSends clientSignals linkId before call after)
      (sent : SentOn zstd writers later after.connection call)

theorem OwnSenderStep.sendersStep {linkId : UInt16} {after : Sender}
    {later : ConnectionRef → GatewayWriter} (positive : linkId ≠ 0)
    (own : OwnSenderStep zstd linkId (senders.link linkId) after senders.writer later) :
    SendersStep zstd clientSignals senders ⟨Function.update senders.link linkId after, later⟩ := by
  cases own with
  | quiet same silent =>
      subst same
      exact .quiet (Function.update_eq_self linkId senders.link) silent
  | read idle size grown silent =>
      subst grown
      exact .read idle size rfl silent
  | sent sends sent => exact .sent positive sends rfl sent

theorem ownSenderStep_of_app {link : LinkRef} {shared : GatewayClient} {task : ClientAppTask}
    (linked : Linked client) (epochs : Epochs client)
    (moved : client.shared.AppStep zstd link (client.app link) input shared task)
    (sticky : ∀ connection, (client.app link).maySendOn connection = true →
      (shared.sockets.writer connection).half.resumed = false) :
    OwnSenderStep zstd (client.shared.base.link link).connectionId (client.sender link)
      (({ client with
        shared := shared
        app := Function.update client.app link task } : Client).sender link)
      client.shared.sockets.writer shared.sockets.writer := by
  have after := Function.update_self link task client.app
  have silent : WritersSilent client.shared.sockets.writer client.shared.sockets.writer :=
    fun _ => .refl _
  generalize running : client.app link = before at moved sticky
  have may : ∀ {linkId writer point}, before = .running linkId writer point →
      point ≠ .removeLink → before.maySendOn writer = true := by
    intro linkId writer point equal unfinished
    rw [equal]
    simp [ClientAppTask.maySendOn, unfinished]
  have carried := fun linkId writer point found => linked.task link linkId writer point found
  cases moved with
  | read size =>
      refine .read (sender_of_running running) size ((sender_of_running after).trans ?_) silent
      simp [ClientAppExchange.phase, Gateway.updateLink, Link.receive]
  | sendRegular sent =>
      rw [sender_of_running running, carried _ _ _ running, sender_of_running after, sent.base]
      exact .sent .regular (sent.sentOn (sticky _ (may rfl (by simp))))
  | sendFailed sent =>
      rw [sender_of_running running, carried _ _ _ running, sender_of_running after, sent.base]
      exact .sent .regular (sent.sentOn (sticky _ (may rfl (by simp))))
  | sendClose sent =>
      rw [sender_of_running running, carried _ _ _ running, sender_of_running after, sent.base]
      exact .sent .closed (sent.sentOn (sticky _ (may rfl (by simp))))
  | addIncoming =>
      refine .quiet ?_ silent
      rw [sender_of_running running, sender_of_running after]
      simp [ClientAppExchange.phase, Gateway.updateLink, Link.addIncoming]
  | removeLink =>
      refine .quiet ?_ silent
      rw [sender_of_running running, sender_of_finished after]
      simp [ClientAppExchange.phase, (epochs.tasks link _ _ _ running).1]
  | _ =>
      refine .quiet ?_ silent
      rw [sender_of_running running, sender_of_running after]
      rfl

/-- Every step of a client that does not reconnect is one of its senders. -/
theorem Represents.step (represents : client.Represents senders) (linked : Linked client)
    (epochs : Epochs client) (held : WriterHeld client) (established : Established client)
    (single : client.SingleConnection) (introduced : ∀ linkId, Introduced .open_ linkId next.heard)
    (positive : ∀ linkId, Has .open_ linkId client.heard → linkId ≠ 0)
    (sticky : (next.shared.sockets.writer 0).half.resumed = false)
    (stepped : step zstd client action = some next) :
    ∃ after, SendersStep zstd clientSignals senders after ∧ next.Represents after := by
  have data := dataStep_of_step stepped
  have silentOf : next.shared.sockets.writer = client.shared.sockets.writer →
      WritersSilent senders.writer next.shared.sockets.writer := by
    intro same connection
    rw [represents.writer, same]
    exact .refl _
  cases openingStep_of_step stepped with
  | kept opening app linkCount notApp control =>
      have same := linksSame_of_step stepped linkCount notApp
      refine ⟨⟨senders.link, next.shared.sockets.writer⟩, ?_, represents.same same ?_ ?_⟩
      · rcases writers_of_step stepped (fun connection call sending =>
          sending.first established epochs held single) with
          silent | ⟨call, _, sending, sent, others⟩
        · exact .quiet rfl (represents.writer ▸ silent)
        · rcases control 0 call sending with ⟨unlinked, opened, regular, sendable⟩
          have sentOn := SentOn.mk (sendStep_of_eq sent sticky) others
          rw [← represents.writer] at sentOn
          exact .control rfl unlinked ⟨opened, regular⟩ sendable sentOn
      · intro link exists_
        exact sender_congr (congrFun app link) opening.spawns (same.source link).2
          (data.existing exists_).2
      · intro linkId announces
        exact represents.announced linkId (opening.announces ▸ announces)
  | @announced connection packet received _ type run nextRun app linkCount sockets =>
      have first := epochs.first_connection single run
      subst first
      have same := linksSame_of_step stepped linkCount fun _ _ => ClientAction.noConfusion
      have grown : next.heard = client.heard ++ [Frame.of (packet, received)] := by
        simp [Client.heard, sockets, GatewaySockets.receive]
      refine ⟨⟨senders.link, next.shared.sockets.writer⟩,
        .quiet rfl (silentOf (by rw [sockets]; rfl)), represents.same same ?_ ?_⟩
      · intro link exists_
        have spawns : next.run.spawns? = client.run.spawns? := by rw [nextRun, run]; rfl
        exact sender_congr (congrFun app link) spawns (same.source link).2
          (data.existing exists_).2
      · intro linkId announces
        rw [nextRun] at announces
        cases announces
        apply represents.unopened
        have whole : client.heard ++ [Frame.of (packet, received)] <+: next.heard :=
          grown ▸ List.prefix_refl _
        exact (introduced packet.linkId).once client.heard _ whole ⟨type, rfl⟩
  | created run nextRun app linkCount link sockets =>
      exact ⟨⟨senders.link, next.shared.sockets.writer⟩,
        .quiet rfl (silentOf (by rw [sockets])), represents.created linked run nextRun app
        linkCount link (fun _ exists_ => (data.existing exists_).2)
        (by rw [Client.heard, sockets]; rfl)⟩
  | @opened connection linkId link packetId outcome _ run nextRun app linkCount sent =>
      have first := epochs.first_connection single run
      subst first
      have same := linksSame_of_step stepped linkCount fun _ _ => ClientAction.noConfusion
      rcases linked.opening linkId link (by rw [run]; rfl) with ⟨exists_, id, -⟩
      rcases sender_of_opened linked same run nextRun app with ⟨idle, becomes⟩
      have sends : SenderSends clientSignals linkId (senders.link linkId)
          (PacketGW.new .opened packetId linkId 0, none) (next.sender link) := by
        rw [← id, represents.link link exists_, idle, becomes, id]
        exact .opened
      have sentOn := sent.sentOn sticky
      rw [← represents.writer] at sentOn
      exact ⟨_, .sent (id ▸ positive _ (linked.opened link exists_)) sends rfl
          (by rw [becomes]; exact sentOn),
        represents.opened linked same run nextRun app fun _ present => (data.existing present).2⟩
  | @spawned connection linkId link _ run nextRun app linkCount shared =>
      have same := linksSame_of_step stepped linkCount fun _ _ => ClientAction.noConfusion
      exact ⟨⟨senders.link, next.shared.sockets.writer⟩, .quiet rfl (silentOf (by rw [shared])),
        represents.spawned linked same run nextRun app shared⟩
  | @refused connection linkId packetId outcome _ run nextRun app linkCount sent =>
      have first := epochs.first_connection single run
      subst first
      have same := linksSame_of_step stepped linkCount fun _ _ => ClientAction.noConfusion
      have announced := linked.announced linkId (by rw [run]; rfl)
      have sends : SenderSends clientSignals linkId (senders.link linkId)
          (PacketGW.new .openFail packetId linkId 0, none) ⟨.closed, 0, []⟩ := by
        rw [represents.announced linkId (by rw [run]; rfl)]
        exact .refused rfl
      have sentOn := sent.sentOn sticky
      rw [← represents.writer] at sentOn
      exact ⟨_, .sent (positive linkId announced.1) sends rfl sentOn,
        represents.refused linked same run nextRun app sent⟩
  | @app link input shared task moved =>
      have exists_ : link < client.linkCount := by
        by_contra beyond
        have absent := linked.vacant link (Nat.le_of_not_lt beyond)
        rw [absent] at moved
        cases moved
      have own := ownSenderStep_of_app linked epochs moved fun connection may => by
        have first : connection = 0 := Nat.lt_one_iff.mp
          (Nat.lt_of_lt_of_le (established.app link connection may) single)
        exact first ▸ sticky
      rw [← represents.link link exists_, ← represents.writer] at own
      refine ⟨_, own.sendersStep (positive _ (linked.opened link exists_)),
        represents.goesOn linked exists_ rfl (fun other present => (data.existing present).1)
          (heard_prefix_of_step stepped) ?_ fun _ => id⟩
      intro other present different
      refine sender_congr (Function.update_of_ne different _ _) rfl ?_ (data.existing present).2
      exact data.received present fun _ equal => different (ClientAction.app.inj equal).1.symm

end

end Client

end IoGateway

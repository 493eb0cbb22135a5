import IoGateway.Senders
import IoGateway.Server.Abandoned
import IoGateway.Server.Identity
import IoGateway.Server.Links

/-! # The server as a sending side

The tasks of applications are the senders of the server's connections: `Open` opens a
link. Every step of the server is one of its senders.
-/

namespace IoGateway

def serverSignals : Signals where
  opening := .open_
  refusal := none
  opening_bare := ⟨by decide, by decide⟩
  refusal_bare := fun _ refusal => by cases refusal

def AppExchange.phase : AppExchange → SenderPhase
  | .addIncoming chunk => .forwarding (some chunk)
  | .regularId chunk => .forwarding (some chunk)
  | .sendRegular chunk _ => .forwarding (some chunk)
  | .removing _ => .closed
  | _ => .forwarding none

def AppTask.sender (received : Bytes) : AppTask → Sender
  | .handling (.setWaiting _ writer) => ⟨.forwarding none, writer, received⟩
  | .exchanging _ writer point => ⟨point.phase, writer, received⟩
  | _ => .idle

def AppTask.announcing : AppTask → Bool
  | .handling (.insertRoute _ _ _) => true
  | .handling (.openId _ _) => true
  | .handling (.sendOpen _ _ _) => true
  | _ => false

namespace GatewayServer

variable {zstd : Zstd} {server after : GatewayServer} {input : Input}

theorem AppDataStep.source_other {ref other : LinkRef} {task : AppTask}
    (moved : AppDataStep ref server task input after) (different : other ≠ ref) :
    (after.base.link other).connectionId = (server.base.link other).connectionId ∧
      (after.base.link other).received = (server.base.link other).received := by
  cases moved with
  | quiet quiet => exact ⟨(quiet.quiet other).connectionId, (quiet.quiet other).received⟩
  | created links link =>
      rw [link, Function.update_of_ne different]
      exact ⟨rfl, rfl⟩
  | read => simp [Gateway.updateLink, different]

theorem AppStep.announcing {ref : LinkRef} {task next : AppTask}
    (stepped : server.AppStep zstd ref task input after next)
    (announcing : next.announcing = true) :
    (after.base.link ref).received = [] ∨
      task.announcing = true ∧ after.base.link ref = server.base.link ref := by
  cases stepped with
  | handling stepped =>
      cases stepped with
      | addLink => exact .inl (by simp [Link.new])
      | insertRoute => exact .inr ⟨rfl, rfl⟩
      | openId => exact .inr ⟨rfl, rfl⟩
      | _ => cases announcing
  | exchanging stepped => cases stepped <;> cases announcing

theorem Sent.sentOn {writer : ConnectionRef} {call : SendCall} {outcome : WriteOutcome}
    (sent : server.Sent zstd writer call outcome after)
    (sticky : (after.sockets.writer writer).half.resumed = false) :
    SentOn zstd server.sockets.writer after.sockets.writer writer call := by
  rcases sent with ⟨sockets, sending, rfl⟩
  exact sentOn_of_send sending sticky

end GatewayServer

namespace Server

variable {zstd : Zstd} {server next : Server} {action : ServerAction}

/-! ## What has been read before the opening -/

def Unread (server : Server) : Prop :=
  ∀ ref, (server.app ref).announcing = true → (server.shared.base.link ref).received = []

theorem Unread.step (unread : Unread server) (stepped : step zstd server action = some next) :
    Unread next := by
  intro ref announcing
  cases transition_of_step stepped with
  | acceptApp =>
      change (Function.update server.app server.appCount _ ref).announcing = true at announcing
      by_cases equal : ref = server.appCount
      · rw [equal, Function.update_self] at announcing
        cases announcing
      · rw [Function.update_of_ne equal] at announcing
        exact unread ref announcing
  | @app moving input shared task moved =>
      change (Function.update server.app moving task ref).announcing = true at announcing
      by_cases equal : ref = moving
      · subst equal
        rw [Function.update_self] at announcing
        rcases moved.announcing announcing with empty | ⟨before, same⟩
        · exact empty
        · exact same ▸ unread ref before
      · rw [Function.update_of_ne equal] at announcing
        exact (moved.data.source_other equal).2.trans (unread ref announcing)
  | gateway moved => exact (moved.data.source ref).2.trans (unread ref announcing)
  | shutdown moved => exact (moved.linksQuiet.quiet ref).received.trans (unread ref announcing)
  | _ => exact unread ref announcing

theorem unread_of_reachable (reachable : (system zstd).Reachable server) : Unread server :=
  reachable.invariant (fun _ _ => rfl) fun _ _ _ _ unread _ stepped => unread.step stepped

/-! ## The connection that the senders use -/

def Bound (server : Server) : Prop :=
  ∀ ref connection, (server.app ref).maySendOn connection = true →
    connection < server.gatewayCount

theorem Bound.step (bound : Bound server) (slots : SlotsInOrder server)
    (sessions : SessionsHeld server) (stepped : step zstd server action = some next) :
    Bound next := by
  intro ref connection may
  have counted := (counts_le_of_step stepped).2
  rcases maySendOn_of_step stepped may with before | ⟨addr, session, found, equal⟩
  · exact Nat.lt_of_lt_of_le (bound ref connection before) counted
  · have held := sessions addr session found
    have present : server.gateway session.writer ≠ .absent := by
      intro absent
      rw [absent] at held
      exact held
    exact equal ▸ Nat.lt_of_lt_of_le (slots.gateway_lt present) counted

theorem bound_of_reachable (reachable : (system zstd).Reachable server) : Bound server := by
  refine reachable.invariant ?_ fun _ _ _ earlier bound _ stepped =>
    bound.step (slotsInOrder_of_reachable earlier) (sessionsHeld_of_reachable earlier) stepped
  intro ref connection may
  cases may

/-! ## The senders of a state -/

/-- The senders are those of the tasks; a finished task has left its link's behind. -/
structure Represents (server : Server) (senders : Senders) : Prop where
  writer : senders.writer = server.shared.sockets.writer
  undrawn : ∀ linkId : UInt16, server.shared.base.allocated < linkId.toNat →
    senders.link linkId = .idle
  task : ∀ ref linkId, (server.app ref).linkId? = some linkId →
    senders.link linkId = (server.app ref).sender (server.shared.base.link ref).received
  finished : ∀ ref, server.app ref = .finished →
    (server.shared.base.link ref).connectionId ≠ 0 →
      (senders.link (server.shared.base.link ref).connectionId).phase = .closed ∧
        (senders.link (server.shared.base.link ref).connectionId).received =
          (server.shared.base.link ref).received

theorem represents_new : Represents Server.new .new where
  writer := rfl
  undrawn := fun _ _ => rfl
  task := fun _ _ found => by cases found
  finished := fun _ finished => by cases finished

section

variable {senders : Senders} {ref : LinkRef} {input : Input} {shared : GatewayServer}
  {task : AppTask} {linkId : UInt16}

theorem Represents.app (represents : server.Represents senders) (identified : Identified server)
    (numbered : Numbered server)
    (moved : GatewayServer.AppDataStep ref server.shared (server.app ref) input shared)
    (allocated : shared.base.allocated = server.shared.base.allocated)
    (own : (server.app ref).linkId? = some linkId) (new : Sender)
    (goesOn : ∀ other, task.linkId? = some other →
      other = linkId ∧ new = task.sender (shared.base.link ref).received)
    (ends : task = .finished → (shared.base.link ref).connectionId ≠ 0 →
      (shared.base.link ref).connectionId = linkId ∧ new.phase = .closed ∧
        new.received = (shared.base.link ref).received) :
    ({ server with
      shared := shared
      app := Function.update server.app ref task } : Server).Represents
      ⟨Function.update senders.link linkId new, shared.sockets.writer⟩ := by
  refine ⟨rfl, ?_, ?_, ?_⟩
  · intro other undrawn
    change shared.base.allocated < other.toNat at undrawn
    rw [allocated] at undrawn
    have different : other ≠ linkId := by
      intro equal
      exact absurd (numbered.task ref linkId own) (Nat.not_le_of_lt (equal ▸ undrawn))
    change Function.update senders.link linkId new other = _
    rw [Function.update_of_ne different]
    exact represents.undrawn other undrawn
  · intro other otherId found
    change ((Function.update server.app ref task) other).linkId? = _ at found
    change Function.update senders.link linkId new otherId =
      ((Function.update server.app ref task) other).sender _
    by_cases equal : other = ref
    · subst equal
      rw [Function.update_self] at found ⊢
      rcases goesOn otherId found with ⟨rfl, becomes⟩
      rw [Function.update_self]
      exact becomes
    · rw [Function.update_of_ne equal] at found ⊢
      have different : otherId ≠ linkId := by
        intro same
        exact equal (numbered.distinct other ref linkId (same ▸ found) own)
      rw [Function.update_of_ne different, represents.task other otherId found]
      exact congrArg (server.app other).sender (moved.source_other equal).2.symm
  · intro other finished positive
    change (Function.update server.app ref task) other = _ at finished
    change (shared.base.link other).connectionId ≠ 0 at positive
    change (Function.update senders.link linkId new (shared.base.link other).connectionId).phase =
      _ ∧ (Function.update senders.link linkId new (shared.base.link other).connectionId).received =
        (shared.base.link other).received
    by_cases equal : other = ref
    · subst equal
      rw [Function.update_self] at finished
      rcases ends finished positive with ⟨same, phase, received⟩
      rw [same, Function.update_self]
      exact ⟨phase, received⟩
    · rw [Function.update_of_ne equal] at finished
      have source := moved.source_other equal
      rw [source.1] at positive ⊢
      have different : (server.shared.base.link other).connectionId ≠ linkId := by
        intro same
        exact equal (identified.sole ref other linkId own same).symm
      rw [Function.update_of_ne different, source.2]
      exact represents.finished other finished positive

theorem Represents.app_unchanged (represents : server.Represents senders)
    (identified : Identified server) (numbered : Numbered server)
    (moved : GatewayServer.AppDataStep ref server.shared (server.app ref) input shared)
    (allocated : shared.base.allocated = server.shared.base.allocated)
    (sockets : shared.sockets = server.shared.sockets)
    (own : (server.app ref).linkId? = some linkId)
    (goesOn : ∀ other, task.linkId? = some other → other = linkId ∧
      (server.app ref).sender (server.shared.base.link ref).received =
        task.sender (shared.base.link ref).received)
    (ends : task = .finished → (shared.base.link ref).connectionId ≠ 0 →
      (shared.base.link ref).connectionId = linkId ∧
        ((server.app ref).sender (server.shared.base.link ref).received).phase = .closed ∧
          ((server.app ref).sender (server.shared.base.link ref).received).received =
            (shared.base.link ref).received) :
    ∃ after, SendersStep zstd serverSignals senders after ∧
      ({ server with
        shared := shared
        app := Function.update server.app ref task } : Server).Represents after := by
  have same := represents.task ref linkId own
  refine ⟨_, .quiet (Function.update_eq_self linkId senders.link) ?_,
    represents.app identified numbered moved allocated own (senders.link linkId) ?_ ?_⟩
  · intro connection
    rw [represents.writer]
    change (server.shared.sockets.writer connection).Silent (shared.sockets.writer connection)
    rw [sockets]
    exact .refl _
  · intro other found
    rw [same]
    exact goesOn other found
  · rw [same]
    exact ends

theorem Represents.app_sent {writer : ConnectionRef} {call : SendCall} {outcome : WriteOutcome}
    (represents : server.Represents senders) (identified : Identified server)
    (numbered : Numbered server)
    (moved : GatewayServer.AppDataStep ref server.shared (server.app ref) input shared)
    (sent : server.shared.Sent zstd writer call outcome shared)
    (sticky : (shared.sockets.writer writer).half.resumed = false)
    (own : (server.app ref).linkId? = some linkId) (still : task.linkId? = some linkId)
    (sends : SenderSends serverSignals linkId
      ((server.app ref).sender (server.shared.base.link ref).received) call
      (task.sender (server.shared.base.link ref).received))
    (bound : (task.sender (server.shared.base.link ref).received).connection = writer) :
    ∃ after, SendersStep zstd serverSignals senders after ∧
      ({ server with
        shared := shared
        app := Function.update server.app ref task } : Server).Represents after := by
  have same := represents.task ref linkId own
  refine ⟨_, .sent (identified.positive ref linkId own) (same ▸ sends) rfl ?_,
    represents.app identified numbered moved (by rw [sent.base]) own _ ?_ ?_⟩
  · rw [bound, represents.writer]
    exact sent.sentOn sticky
  · intro other found
    rw [sent.base]
    exact ⟨Option.some.inj (found.symm.trans still), rfl⟩
  · intro finished
    rw [finished] at still
    cases still

theorem Represents.handling {point : HandleAppConnection} (represents : server.Represents senders)
    (identified : Identified server) (numbered : Numbered server) (unread : Unread server)
    (sticky : ∀ connection, (server.app ref).maySendOn connection = true →
      (shared.sockets.writer connection).half.resumed = false)
    (running : server.app ref = .handling point) (drawn : point ≠ .nextLinkId)
    (moved : server.shared.HandleAppStep zstd ref point input shared task) :
    ∃ after, SendersStep zstd serverSignals senders after ∧
      ({ server with
        shared := shared
        app := Function.update server.app ref task } : Server).Represents after := by
  have data : GatewayServer.AppDataStep ref server.shared (server.app ref) input shared :=
    running ▸ (GatewayServer.AppStep.handling moved).data
  have uncreated : (server.app ref).Unregistered →
      (server.shared.base.link ref).connectionId = 0 := identified.uncreated ref
  have waiting := unread ref
  rw [running] at uncreated waiting sticky
  have idle : ∀ {next : AppTask} {linkId : UInt16} {received : Bytes},
      next.linkId? = some linkId → next.sender received = .idle → ∀ other,
        next.linkId? = some other → other = linkId ∧ Sender.idle = next.sender received :=
    fun found same other again => ⟨Option.some.inj (again.symm.trans found), same.symm⟩
  cases moved with
  | nextLinkId => exact absurd rfl drawn
  | reject =>
      refine represents.app_unchanged identified numbered data rfl rfl (by rw [running]; rfl)
        (fun _ found => by cases found) fun _ positive => ?_
      exact absurd (by simpa [Gateway.updateLink] using uncreated trivial) positive
  | sendOpen sent =>
      have empty := waiting rfl
      refine represents.app_sent identified numbered data sent (sticky _ (decide_eq_true rfl))
        (by rw [running]; rfl) rfl ?_ rfl
      rw [running, empty]
      exact .opened
  | setWaiting =>
      refine represents.app_unchanged identified numbered data rfl rfl (by rw [running]; rfl)
        (fun _ found => ⟨(Option.some.inj found).symm, ?_⟩) fun finished => by cases finished
      rw [running]
      simp [AppTask.sender, AppExchange.phase, Gateway.updateLink, Link.setState]
  | _ =>
      refine represents.app_unchanged identified numbered data rfl rfl (by rw [running]; rfl)
        ?_ fun finished => by cases finished
      rw [running]
      exact idle rfl rfl

theorem Represents.exchanging {writer : ConnectionRef} {point : AppExchange}
    (represents : server.Represents senders) (identified : Identified server)
    (numbered : Numbered server)
    (sticky : ∀ connection, (server.app ref).maySendOn connection = true →
      (shared.sockets.writer connection).half.resumed = false)
    (running : server.app ref = .exchanging linkId writer point)
    (moved : server.shared.AppExchangeStep zstd ref linkId writer point input shared task) :
    ∃ after, SendersStep zstd serverSignals senders after ∧
      ({ server with
        shared := shared
        app := Function.update server.app ref task } : Server).Represents after := by
  have data : GatewayServer.AppDataStep ref server.shared (server.app ref) input shared :=
    running ▸ (GatewayServer.AppStep.exchanging moved).data
  have own : (server.app ref).linkId? = some linkId := by rw [running]; rfl
  have carried : (server.shared.base.link ref).connectionId = linkId :=
    identified.created ref linkId own (by rw [running]; exact id)
  have same := represents.task ref linkId own
  rw [running] at sticky same
  cases moved with
  | read size =>
      refine ⟨_, .read same size rfl ?_, represents.app identified numbered data rfl own _ ?_
        fun finished => by cases finished⟩
      · intro connection
        rw [represents.writer]
        exact .refl _
      · intro other found
        refine ⟨(Option.some.inj found).symm, ?_⟩
        simp [AppTask.sender, AppExchange.phase, Gateway.updateLink, Link.receive]
  | sendRegular sent =>
      refine represents.app_sent identified numbered data sent (sticky _ (decide_eq_true rfl))
        own rfl ?_ rfl
      rw [running]
      exact .regular
  | sendFailed sent =>
      refine represents.app_sent identified numbered data sent (sticky _ (decide_eq_true rfl))
        own rfl ?_ rfl
      rw [running]
      exact .regular
  | sendClose sent =>
      refine represents.app_sent identified numbered data sent (sticky _ (decide_eq_true rfl))
        own rfl ?_ rfl
      rw [running]
      exact .closed
  | addIncoming =>
      refine represents.app_unchanged identified numbered data rfl rfl own
        (fun _ found => ⟨(Option.some.inj found).symm, ?_⟩) fun finished => by cases finished
      rw [running]
      simp [AppTask.sender, AppExchange.phase, Gateway.updateLink, Link.addIncoming]
  | removing removal =>
      have quiet := removal.linksQuiet.quiet ref
      refine represents.app_unchanged identified numbered data removal.sameLinkIds.allocated
        removal.sockets own
        (fun _ found => ⟨(Option.some.inj found).symm, ?_⟩) fun finished => by cases finished
      rw [running, quiet.received]
      rfl
  | removed removal =>
      have quiet := removal.linksQuiet.quiet ref
      refine represents.app_unchanged identified numbered data removal.sameLinkIds.allocated
        removal.sockets own (fun _ found => by cases found) fun _ _ => ⟨?_, ?_⟩
      · rw [quiet.connectionId, carried]
      · rw [running, quiet.received]
        exact ⟨rfl, rfl⟩
  | _ =>
      refine represents.app_unchanged identified numbered data rfl rfl own
        (fun _ found => ⟨(Option.some.inj found).symm, ?_⟩) fun finished => by cases finished
      rw [running]
      rfl

end

/-! ## Steps -/

/-- A step calls `send_gw_packet` on at most one connection. -/
theorem Sending.unique {connection other : ConnectionRef} {call same : SendCall}
    (sending : server.Sending action connection call)
    (again : server.Sending action other same) : other = connection := by
  cases sending with
  | pong => cases again with | pong => rfl
  | open_ point =>
      cases again with
      | open_ found => cases point.symm.trans found; rfl
      | regular found => cases point.symm.trans found
      | close found => cases point.symm.trans found
  | regular point =>
      cases again with
      | open_ found => cases point.symm.trans found
      | regular found => cases point.symm.trans found; rfl
      | close found => cases point.symm.trans found
  | close point =>
      cases again with
      | open_ found => cases point.symm.trans found
      | regular found => cases point.symm.trans found
      | close found => cases point.symm.trans found; rfl

theorem writers_of_step (stepped : step zstd server action = some next) :
    WritersSilent server.shared.sockets.writer next.shared.sockets.writer ∨
      ∃ connection call outcome, server.Sending action connection call ∧
        (server.shared.sockets.writer connection).send zstd call outcome =
          some (next.shared.sockets.writer connection) ∧
        ∀ other, other ≠ connection →
          (server.shared.sockets.writer other).Silent (next.shared.sockets.writer other) := by
  by_cases sends : ∃ connection call outcome, server.Sending action connection call ∧
      (server.shared.sockets.writer connection).send zstd call outcome =
        some (next.shared.sockets.writer connection)
  · rcases sends with ⟨connection, call, outcome, sending, sent⟩
    refine .inr ⟨connection, call, outcome, sending, sent, ?_⟩
    intro other different
    cases writerStep_of_step stepped other with
    | silent silent => exact silent
    | sent again _ => exact absurd (sending.unique again) different
  · refine .inl fun connection => ?_
    cases writerStep_of_step stepped connection with
    | silent silent => exact silent
    | sent sending sent => exact absurd ⟨connection, _, _, sending, sent⟩ sends

theorem Represents.links {senders : Senders} (represents : server.Represents senders)
    (identifier : ∀ ref linkId, (next.app ref).linkId? = some linkId →
      (server.app ref).linkId? = some linkId ∧ next.app ref = server.app ref)
    (finished : ∀ ref, next.app ref = .finished → server.app ref = .finished)
    (source : ∀ ref, (next.shared.base.link ref).connectionId =
      (server.shared.base.link ref).connectionId ∧
        (next.shared.base.link ref).received = (server.shared.base.link ref).received)
    (allocated : next.shared.base.allocated = server.shared.base.allocated) :
    next.Represents ⟨senders.link, next.shared.sockets.writer⟩ where
  writer := rfl
  undrawn := fun linkId undrawn => represents.undrawn linkId (allocated ▸ undrawn)
  task := by
    intro ref linkId found
    rcases identifier ref linkId found with ⟨before, same⟩
    rw [same, (source ref).2]
    exact represents.task ref linkId before
  finished := by
    intro ref ended positive
    rw [(source ref).1] at positive ⊢
    rw [(source ref).2]
    exact represents.finished ref (finished ref ended) positive

/-- A step that is not one of an application's task sends at most a `Pong`. -/
theorem sendersStep_of_links {senders : Senders} (represents : server.Represents senders)
    (slots : SlotsInOrder server) (other : ∀ ref input, action ≠ .app ref input)
    (sticky : ∀ connection < server.gatewayCount,
      (next.shared.sockets.writer connection).half.resumed = false)
    (stepped : step zstd server action = some next) :
    SendersStep zstd serverSignals senders ⟨senders.link, next.shared.sockets.writer⟩ := by
  rcases writers_of_step stepped with silent | ⟨connection, call, outcome, sending, sent, others⟩
  · exact .quiet rfl (represents.writer ▸ silent)
  · cases sending with
    | pong running =>
        have accepted := slots.gateway_lt (by rw [running]; simp)
        have sentOn := SentOn.mk (sendStep_of_eq sent (sticky connection accepted)) others
        rw [← represents.writer] at sentOn
        exact .control rfl rfl ⟨fun equal => (by cases equal), fun equal => (by cases equal)⟩
          ⟨rfl, rfl, by simp, Nat.zero_le _⟩ sentOn
    | open_ => exact absurd rfl (other _ _)
    | regular => exact absurd rfl (other _ _)
    | close => exact absurd rfl (other _ _)

theorem Represents.draw {senders : Senders} {ref : LinkRef} (represents : server.Represents senders)
    (counted : Counted server) (left : server.shared.base.allocated < linkIdSpace) :
    ({ server with
      shared := server.shared.updateBase server.shared.base.nextLinkId.2
      app := Function.update server.app ref
        (.handling (.pickClient server.shared.base.linkIdCounter)) } : Server).Represents
          senders := by
  have drawn := toNat_linkIdCounter counted left
  refine ⟨represents.writer, ?_, ?_, ?_⟩
  · intro linkId undrawn
    exact represents.undrawn linkId (Nat.lt_of_succ_lt undrawn)
  · intro other linkId found
    change ((Function.update server.app ref _) other).linkId? = _ at found
    change _ = ((Function.update server.app ref _) other).sender _
    rcases linkId?_update found with ⟨equal, mine⟩ | ⟨different, before⟩
    · subst equal
      cases Option.some.inj mine
      rw [Function.update_self, represents.undrawn _ (by omega)]
      rfl
    · rw [Function.update_of_ne different]
      exact represents.task other linkId before
  · intro other finished
    change (Function.update server.app ref _) other = _ at finished
    by_cases equal : other = ref
    · subst equal
      rw [Function.update_self] at finished
      cases finished
    · rw [Function.update_of_ne equal] at finished
      exact represents.finished other finished

/-- Every step of the server is one of its senders. -/
theorem Represents.step {senders : Senders} (represents : server.Represents senders)
    (identified : Identified server) (numbered : Numbered server) (counted : Counted server)
    (slots : SlotsInOrder server) (unread : Unread server) (bound : Bound server)
    (permitted : LinkIdsLeft server action)
    (sticky : ∀ connection < server.gatewayCount,
      (next.shared.sockets.writer connection).half.resumed = false)
    (stepped : step zstd server action = some next) :
    ∃ after, SendersStep zstd serverSignals senders after ∧ next.Represents after := by
  have quietly := fun (notApp : ∀ ref input, action ≠ .app ref input) =>
    sendersStep_of_links represents slots notApp sticky stepped
  cases transition_of_step stepped with
  | acceptApp =>
      refine ⟨_, quietly fun _ _ => ServerAction.noConfusion,
        represents.links ?_ ?_ (fun _ => ⟨rfl, rfl⟩) rfl⟩
      · intro ref linkId found
        change ((Function.update server.app server.appCount _) ref).linkId? = _ at found
        rcases linkId?_update found with ⟨_, none⟩ | ⟨different, before⟩
        · cases none
        · exact ⟨before, Function.update_of_ne different _ _⟩
      · intro ref finished
        change (Function.update server.app server.appCount _) ref = _ at finished
        by_cases equal : ref = server.appCount
        · rw [equal, Function.update_self] at finished
          cases finished
        · rwa [Function.update_of_ne equal] at finished
  | @app ref input shared task moved =>
      have used := fun connection may => sticky connection (bound ref connection may)
      generalize running : server.app ref = before at moved
      cases moved with
      | @handling point input after next moved =>
          by_cases drawing : point = .nextLinkId
          · subst drawing
            have left := permitted (drawsLinkId_of_eq rfl running)
            cases moved with
            | nextLinkId =>
                refine ⟨senders, .quiet rfl fun _ => .refl _, represents.draw counted left⟩
          · exact represents.handling identified numbered unread used running drawing moved
      | exchanging moved => exact represents.exchanging identified numbered used running moved
  | gateway moved =>
      exact ⟨_, quietly fun _ _ => ServerAction.noConfusion,
        represents.links (fun _ _ found => ⟨found, rfl⟩) (fun _ => id) moved.data.source
          moved.sameLinkIds.allocated⟩
  | shutdown moved =>
      refine ⟨_, quietly fun _ _ => ServerAction.noConfusion,
        represents.links (fun _ _ found => ⟨found, rfl⟩) (fun _ => id) (fun ref => ?_)
          (shutdown_sameLinkIds moved).allocated⟩
      have quiet := moved.linksQuiet.quiet ref
      exact ⟨quiet.connectionId, quiet.received⟩
  | _ =>
      exact ⟨_, quietly fun _ _ => ServerAction.noConfusion,
        represents.links (fun _ _ found => ⟨found, rfl⟩) (fun _ => id) (fun _ => ⟨rfl, rfl⟩) rfl⟩

end Server

end IoGateway

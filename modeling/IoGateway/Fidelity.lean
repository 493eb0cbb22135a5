import IoGateway.Grammar

/-! # Fidelity of the streams

What one application has been written is a front of what the application at the other end
of its link has sent.
-/

namespace IoGateway

namespace AppTask

variable {task : AppTask} {linkId : UInt16} {received : Bytes}

theorem finished_of_linkId? (unnamed : task.linkId? = none) (created : ¬ task.Unregistered) :
    task = .finished := by
  cases task with
  | absent => exact absurd trivial created
  | handling point =>
      cases point with
      | nextLinkId => exact absurd trivial created
      | _ => cases unnamed
  | exchanging => cases unnamed
  | finished => rfl

theorem sender_received (named : task.linkId? = some linkId) (created : ¬ task.Unregistered)
    (unread : task.announcing = true → received = []) :
    (task.sender received).received = received := by
  cases task with
  | absent => cases named
  | handling point =>
      cases point with
      | insertRoute => exact (unread rfl).symm
      | openId => exact (unread rfl).symm
      | sendOpen => exact (unread rfl).symm
      | setWaiting => rfl
      | _ => exact absurd trivial created
  | exchanging => rfl
  | finished => cases named

end AppTask

namespace Server

variable {zstd : Zstd} {server next : Server} {action : ServerAction} {link : LinkRef}
  {connection : ConnectionRef} {linkId : UInt16}

def Announced (server : Server) : Prop :=
  ∀ connection linkId, Has .open_ linkId (server.shared.sockets.writer connection).sent →
    ∃ link, server.Created link ∧ (server.shared.base.link link).connectionId = linkId

theorem Announced.step (announced : Announced server) (identified : Identified server)
    (slots : SlotsInOrder server) (stepped : step zstd server action = some next) :
    Announced next := by
  have later : ∀ {linkId}, (∃ link, server.Created link ∧
      (server.shared.base.link link).connectionId = linkId) → ∃ link, next.Created link ∧
        (next.shared.base.link link).connectionId = linkId := by
    intro linkId found
    rcases found with ⟨link, created, id⟩
    exact ⟨link, created_of_step slots stepped created,
      (connectionId_of_step stepped created).trans id⟩
  intro connection linkId opened
  cases writerStep_of_step stepped connection with
  | silent silent => exact later (announced connection linkId (silent.sent ▸ opened))
  | sent sending wrote =>
      rcases GatewayWriter.sent_of_send wrote with same | grown
      · exact later (announced connection linkId (same ▸ opened))
      · rw [grown, has_concat] at opened
        rcases opened with before | is
        · exact later (announced connection linkId before)
        · cases sending with
          | @open_ _ link linkId packetId _ point =>
              cases is.2
              have registered : ¬ (server.app link).Unregistered := by
                rw [point]
                intro unregistered
                cases unregistered
              exact later ⟨link, registered,
                identified.created link _ (by rw [point]; rfl) registered⟩
          | regular => cases is.1
          | close => cases is.1
          | pong => cases is.1

theorem announced_of_reachable (reachable : (system zstd).ReachableUnder LinkIdsLeft server) :
    Announced server := by
  refine reachable.invariant (fun _ _ opened => absurd opened not_has_nil)
    fun _ _ _ earlier announced _ stepped => announced.step (identified_of_reachable earlier)
      (slotsInOrder_of_reachable earlier.always) stepped

theorem Represents.received {senders : Senders} (represents : server.Represents senders)
    (identified : Identified server) (unread : Unread server) (created : server.Created link)
    (positive : (server.shared.base.link link).connectionId ≠ 0) :
    (senders.link (server.shared.base.link link).connectionId).received =
      (server.shared.base.link link).received := by
  cases found : (server.app link).linkId? with
  | none =>
      have ended := AppTask.finished_of_linkId? found created
      exact (represents.finished link ended positive).2
  | some linkId =>
      rw [identified.created link linkId found created, represents.task link linkId found]
      exact AppTask.sender_received found created (unread link)

end Server

namespace Client

variable {zstd : Zstd} {client next : Client} {action : ClientAction} {link : LinkRef}

theorem sender_received (linked : Linked client) (exists_ : link < client.linkCount) :
    (client.sender link).received = (client.shared.base.link link).received := by
  cases running : client.app link with
  | running => rw [sender_of_running running]
  | finished => rw [sender_of_finished running]
  | absent =>
      have unread := linked.unread link exists_ running
      unfold sender
      rw [running]
      dsimp only
      split
      · split
        · rfl
        · exact unread.symm
      · exact unread.symm

/-- What has been written to an application stays written. -/
theorem written_prefix_of_step (stepped : step zstd client action = some next)
    (exists_ : link < client.linkCount) : (client.shared.base.link link).writer.written <+:
      (next.shared.base.link link).writer.written := by
  cases dataStep_of_step stepped with
  | quiet quiet => rw [(quiet.quiet link).written]
  | created run links created =>
      rw [created, Function.update_of_ne (Nat.ne_of_lt exists_)]
  | @forwarded connection linkId payload outcome target written next run found sent shared =>
      rw [shared]
      by_cases equal : link = target
      · subst equal
        rcases (Link.sendPacketStep_of_eq sent).data.2.2 with ⟨accepted, _, grown⟩
        simp [Gateway.updateLink, grown]
      · simp [Gateway.updateLink, equal]
  | @read other linkId writer bytes next running shared =>
      rw [shared]
      by_cases equal : link = other
      · subst equal
        simp [Gateway.updateLink, Link.receive]
      · simp [Gateway.updateLink, equal]

end Client

namespace Network

variable {zstd : Zstd} {network next later : Network} {connection : ConnectionRef}
  {ref link : LinkRef} {linkId : UInt16}

def serverLink (network : Network) (ref : LinkRef) : Link := network.server.shared.base.link ref

def clientLink (network : Network) (connection : ConnectionRef) (link : LinkRef) : Link :=
  (network.client connection).shared.base.link link

structure Ends (network : Network) (ref : LinkRef) (connection : ConnectionRef) (link : LinkRef) :
    Prop where
  exists_ : link < (network.client connection).linkCount
  same : (network.serverLink ref).connectionId = (network.clientLink connection link).connectionId

/-- What is known of a link that a client has created: the server has opened it, and only
to this client. -/
structure Owned (network : Network) (connection : ConnectionRef) (linkId : UInt16) : Prop where
  positive : linkId ≠ 0
  opened : Has .open_ linkId (network.serverSent connection)
  server : ∀ other, other ≠ connection → types linkId (network.serverSent other) = []
  client : ∀ other, other ≠ connection → types linkId (network.clientSent other) = []

theorem Sound.owned (sound : network.Sound zstd)
    (exists_ : link < (network.client connection).linkCount) :
    network.Owned connection (network.clientLink connection link).connectionId := by
  have heard := (sound.linked connection).opened link exists_
  have opened := heard.mono (heard_of_toClient (sound.toClient connection))
  have positive : (network.clientLink connection link).connectionId ≠ 0 := by
    rcases sound.serverSenders with ⟨senders, represents, faithful⟩
    have unlinked := faithful.unlinked connection
    rw [represents.writer] at unlinked
    intro zero
    exact unlinked (zero ▸ opened)
  rcases sound.server_grammar positive with ⟨serving, _, others⟩
  have own : connection = serving := by
    by_contra different
    exact sound.has_of_heard heard (others connection different)
  subst own
  exact ⟨positive, opened, others, fun other different => sound.unopened positive
    fun opened => sound.has_of_heard opened (others other different)⟩

theorem Sound.created (sound : network.Sound zstd)
    (positive : (network.serverLink ref).connectionId ≠ 0) : network.server.Created ref :=
  fun unregistered =>
    positive ((Server.identified_of_reachable sound.server).uncreated ref unregistered)

/-- What the server has sent of an owned link is what its application has sent. -/
theorem Sound.server_payloads (sound : network.Sound zstd)
    (owned : network.Owned connection (network.serverLink ref).connectionId) :
    payloads (network.serverLink ref).connectionId (network.serverSent connection) <+:
      (network.serverLink ref).received ∧
    (Has .close (network.serverLink ref).connectionId (network.serverSent connection) →
      payloads (network.serverLink ref).connectionId (network.serverSent connection) =
        (network.serverLink ref).received) := by
  rcases sound.serverSenders with ⟨senders, represents, faithful⟩
  have sender := faithful.sender _ owned.positive
  have elsewhere := faithful.elsewhere _ owned.positive connection
  rw [represents.writer] at sender elsewhere
  have serving : connection =
      (senders.link (network.serverLink ref).connectionId).connection := by
    by_contra different
    have opened := has_iff.mp owned.opened
    rw [serverSent, elsewhere (.inr different)] at opened
    cases opened
  rw [← serving] at sender
  have read := represents.received (Server.identified_of_reachable sound.server)
    (Server.unread_of_reachable sound.server.always) (sound.created owned.positive) owned.positive
  exact ⟨read ▸ sender.part, fun closed => (sender.closed closed).trans read⟩

theorem Sound.client_payloads (sound : network.Sound zstd) (positive : linkId ≠ 0) :
    ∃ senders, (network.client connection).Represents senders ∧
      payloads linkId (network.server.shared.heard connection) <+:
        (senders.link linkId).received := by
  rcases sound.clientSenders connection with ⟨senders, represents, faithful⟩
  refine ⟨senders, represents, ?_⟩
  have sender := faithful.sender linkId positive
  have elsewhere := faithful.elsewhere linkId positive 0
  rw [represents.writer] at sender elsewhere
  have heard : payloads linkId (network.server.shared.heard connection) <+:
      payloads linkId (network.clientSent connection) :=
    payloads_front (heard_of_toServer (sound.toServer connection))
  by_cases own : 0 = (senders.link linkId).connection
  · rw [← own] at sender
    exact heard.trans sender.part
  · have silent := payloads_of_types_eq_nil (elsewhere (.inr own))
    rw [clientSent, silent] at heard
    rw [List.prefix_nil.mp heard]
    exact List.nil_prefix

/-- The streams of a network in one state. -/
structure Fidelity (network : Network) : Prop where
  paired : ∀ connection link, link < (network.client connection).linkCount →
    ∃ ref, network.Ends ref connection link
  unique : ∀ ref connection link otherRef otherConnection otherLink,
    network.Ends ref connection link → network.Ends otherRef otherConnection otherLink →
      (ref = otherRef ↔ connection = otherConnection ∧ link = otherLink)
  toClient : ∀ ref connection link, network.Ends ref connection link →
    (network.clientLink connection link).writer.written <+: (network.serverLink ref).received
  toServer : ∀ ref connection link, network.Ends ref connection link →
    (network.serverLink ref).writer.written <+: (network.clientLink connection link).received
  unpaired : ∀ ref, (network.serverLink ref).connectionId ≠ 0 →
    (∀ connection link, ¬ network.Ends ref connection link) →
      (network.serverLink ref).writer.written = []

theorem Sound.sole (sound : network.Sound zstd)
    (silent : ∀ other, other ≠ connection → types linkId (network.clientSent other) = []) :
    network.server.Sole connection linkId := fun other different =>
  types_eq_nil_of_front (heard_of_toServer (sound.toServer other)) (silent other different)

theorem Sound.fidelity (sound : network.Sound zstd) : network.Fidelity := by
  have identified := Server.identified_of_reachable sound.server
  have owned : ∀ {ref connection link}, network.Ends ref connection link →
      network.Owned connection (network.serverLink ref).connectionId := by
    intro ref connection link ends
    rw [ends.same]
    exact sound.owned ends.exists_
  refine ⟨?_, ?_, ?_, ?_, ?_⟩
  · intro connection link exists_
    have opened := (sound.owned exists_).opened
    rcases Server.announced_of_reachable sound.server connection _ opened with ⟨ref, _, same⟩
    exact ⟨ref, exists_, same⟩
  · intro ref connection link otherRef otherConnection otherLink ends otherEnds
    constructor
    · intro equal
      subst equal
      have same : connection = otherConnection := by
        by_contra different
        have opened := has_iff.mp (owned ends).opened
        rw [(owned otherEnds).server connection different] at opened
        cases opened
      subst same
      exact ⟨rfl, (sound.linked connection).distinct link otherLink ends.exists_
        otherEnds.exists_ (ends.same.symm.trans otherEnds.same)⟩
    · intro equal
      rcases equal with ⟨rfl, rfl⟩
      exact identified.distinct ref otherRef (owned ends).positive
        (ends.same.trans otherEnds.same.symm)
  · intro ref connection link ends
    have written := ((sound.clientReceiving connection).written link ends.exists_).part
    have sent := @payloads_front (network.serverLink ref).connectionId _ _
      (heard_of_toClient (sound.toClient connection))
    exact written.trans (ends.same ▸ sent.trans (sound.server_payloads (owned ends)).1)
  · intro ref connection link ends
    have written :=
      (sound.serverReceiving.written connection ref (sound.sole (owned ends).client)).part
    rcases sound.client_payloads (owned ends).positive with ⟨senders, represents, read⟩
    have received := represents.link link ends.exists_
    have same := Client.sender_received (sound.linked connection) ends.exists_
    rw [ends.same, clientLink, received, same] at read
    exact written.trans (ends.same ▸ read)
  · intro ref positive alone
    rcases sound.server_grammar positive with ⟨connection, _, others⟩
    have silent : ∀ other, other ≠ connection →
        types (network.serverLink ref).connectionId (network.clientSent other) = [] :=
      fun other different => sound.unopened positive fun opened =>
        sound.has_of_heard opened (others other different)
    have written := (sound.serverReceiving.written connection ref (sound.sole silent)).part
    rcases sound.client_payloads positive with ⟨senders, represents, read⟩
    rw [represents.unlinked _ fun link exists_ same => alone connection link ⟨exists_, same.symm⟩]
      at read
    exact List.prefix_nil.mp (written.trans read)

/-! ## Closed links -/

structure Remembers (network : Network) (connection : ConnectionRef) (link : LinkRef)
    (later : Network) : Prop where
  exists_ : link < (later.client connection).linkCount
  same : (later.clientLink connection link).connectionId =
    (network.clientLink connection link).connectionId
  heard : (network.client connection).heard <+: (later.client connection).heard
  written : (network.clientLink connection link).writer.written <+:
    (later.clientLink connection link).writer.written

theorem Remembers.client (remembers : network.Remembers connection link later)
    {moving : ConnectionRef} {action : ClientAction} {client : Client}
    (stepped : (later.client moving).step zstd action = some client)
    (moved : next.client = Function.update later.client moving client) :
    network.Remembers connection link next := by
  by_cases equal : connection = moving
  · subst equal
    have own : next.client connection = client := by rw [moved, Function.update_self]
    have existing := (Client.dataStep_of_step stepped).existing remembers.exists_
    refine ⟨?_, ?_, ?_, ?_⟩
    · rw [own]
      exact Nat.lt_of_lt_of_le remembers.exists_ (Client.linkCount_le_of_step stepped)
    · rw [clientLink, own]
      exact existing.1.trans remembers.same
    · rw [own]
      exact remembers.heard.trans (Client.heard_prefix_of_step stepped)
    · rw [clientLink, clientLink, own]
      exact remembers.written.trans (Client.written_prefix_of_step stepped remembers.exists_)
  · have own : next.client connection = later.client connection := by
      rw [moved, Function.update_of_ne equal]
    refine ⟨?_, ?_, ?_, ?_⟩
    · rw [own]
      exact remembers.exists_
    · rw [clientLink, own]
      exact remembers.same
    · rw [own]
      exact remembers.heard
    · rw [clientLink, clientLink, own]
      exact remembers.written

theorem Remembers.step (remembers : network.Remembers connection link later)
    {action : NetworkAction} (stepped : later.step zstd action = some next) :
    network.Remembers connection link next := by
  cases action with
  | server action =>
      simp only [Network.step] at stepped
      split at stepped
      · cases stepped
      · rcases Option.map_eq_some_iff.mp stepped with ⟨server, moved, rfl⟩
        exact ⟨remembers.exists_, remembers.same, remembers.heard, remembers.written⟩
  | client moving action =>
      simp only [Network.step] at stepped
      split at stepped
      · cases stepped
      · rcases Option.map_eq_some_iff.mp stepped with ⟨client, moved, rfl⟩
        exact remembers.client moved rfl
  | serverReceive reading pooled =>
      rcases Option.bind_eq_some_iff.mp stepped with ⟨⟨frame, read⟩, received, stepped⟩
      rcases Option.map_eq_some_iff.mp stepped with ⟨server, moved, rfl⟩
      exact ⟨remembers.exists_, remembers.same, remembers.heard, remembers.written⟩
  | clientReceive reading pooled =>
      rcases Option.bind_eq_some_iff.mp stepped with ⟨⟨frame, read⟩, received, stepped⟩
      rcases Option.map_eq_some_iff.mp stepped with ⟨client, moved, rfl⟩
      exact remembers.client moved rfl

/-- The client has processed `Close` for a registered link of which no write has failed:
its application has been and stays written everything that the other one has sent. -/
theorem Sound.complete (settled : (network.client connection).Settled link)
    (healthy : (network.clientLink connection link).writer.failed = false)
    (sound : later.Sound zstd) (remembers : network.Remembers connection link later)
    (ends : later.Ends ref connection link) :
    (later.clientLink connection link).writer.written = (later.serverLink ref).received := by
  have owned : later.Owned connection (later.serverLink ref).connectionId := by
    rw [ends.same]
    exact sound.owned ends.exists_
  have id : (network.clientLink connection link).connectionId =
      (later.serverLink ref).connectionId := (ends.same.trans remembers.same).symm
  have closed : Has .close (later.serverLink ref).connectionId (network.client connection).heard :=
    id ▸ settled.1
  have written : (network.clientLink connection link).writer.written =
      payloads (later.serverLink ref).connectionId (network.client connection).heard :=
    id ▸ settled.2 healthy
  have sent : (network.client connection).heard <+: later.serverSent connection :=
    remembers.heard.trans (heard_of_toClient (sound.toClient connection))
  have concluded : Concluded (later.serverLink ref).connectionId
      (later.serverSent connection) := by
    rcases sound.serverSenders with ⟨senders, represents, faithful⟩
    have concluded := faithful.concluded connection _ owned.positive
    rwa [represents.writer] at concluded
  have whole : (network.clientLink connection link).writer.written =
      (later.serverLink ref).received := by
    rw [written, concluded _ sent closed]
    exact (sound.server_payloads owned).2 (closed.mono sent)
  have before := remembers.written
  rw [whole] at before
  exact (before.eq_of_length_le (sound.fidelity.toClient ref connection link ends).length_le).symm

/-- In every run without reconnection in which failed sockets stay silent and link
identifiers are left, each application has at every moment been written a front of what the
application at the other end of its link has sent. Towards the client it is everything,
from the removal of the registered link by `Close` on, unless a write to it has failed. -/
theorem streams_faithful (zstd : Zstd) (lawful : zstd.Lawful) (network : Network)
    (reachable : (system zstd).ReachableUnder (Permitted zstd) network) :
    network.Fidelity ∧
      ∀ later serving connection link ref,
        (network.client connection).run = .onConnection serving (.exchanging (.closeLink link)) →
        (network.clientLink connection link).writer.failed = false →
        (system zstd).Reaches (Permitted zstd) network later → later.Ends ref connection link →
          (later.clientLink connection link).writer.written =
            (later.serverLink ref).received := by
  have sound := sound_of_reachable lawful reachable
  refine ⟨sound.fidelity, ?_⟩
  intro later serving connection link ref run healthy reaches ends
  have handling := (sound.clientReceiving connection).handling
  rw [run] at handling
  have remembers : network.Remembers connection link later := by
    refine reaches.invariant ⟨handling.1, rfl, List.prefix_refl _, List.prefix_refl _⟩ ?_
    exact fun _ _ _ remembers _ stepped => remembers.step stepped
  exact Sound.complete handling.2.2 healthy
    (sound_of_reachable lawful (TransitionSystem.Reaches.trans reachable reaches)) remembers ends

theorem streams_faithful_linkClosed :
    ∃ network : Network, (network.clientLink 0 0).writer.written = [7] ∧
      (network.clientLink 0 0).writer.written = (network.serverLink 0).received ∧
      (network.serverLink 0).writer.written <+: (network.clientLink 0 0).received := by
  have executed : ((system .runLength).runChecked
      (fun network action => network.Permitted .runLength action) .new linkClosed).any
      (fun network => (network.clientLink 0 0).writer.written = [7] ∧
        (network.client 0).run = .onConnection 0 (.exchanging (.closeLink 0)) ∧
        (network.clientLink 0 0).writer.failed = false ∧
        0 < (network.client 0).linkCount ∧ (network.serverLink 0).connectionId =
          (network.clientLink 0 0).connectionId) = true := by decide +kernel
  rcases TransitionSystem.exists_reaches_of_runChecked executed with ⟨network, reaches, found⟩
  rcases of_decide_eq_true found with ⟨written, run, healthy, exists_, same⟩
  have reachable := reaches.mono fun _ _ passed => of_decide_eq_true passed
  have faithful := streams_faithful .runLength Zstd.runLength_lawful network reachable
  exact ⟨network, written, faithful.2 network 0 0 0 0 run healthy .refl ⟨exists_, same⟩,
    faithful.1.toServer 0 0 0 ⟨exists_, same⟩⟩

end Network

end IoGateway

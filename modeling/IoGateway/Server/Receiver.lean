import IoGateway.Receivers
import IoGateway.Server.Links
import IoGateway.Server.Sending

/-! # The server as a receiving side

The exchange loop of a gateway connection holds the data of one frame until they are
written to the application of its link. A link becomes active with `Opened`, while no
data have come for it.
-/

namespace IoGateway

def GatewayTask.held (linkId : UInt16) (link : LinkRef) : GatewayTask → Bytes
  | .exchanging _ _ (.regularLookup looked payload) => if looked = linkId then payload else []
  | .exchanging _ _ (.regularWrite written payload) => if written = link then payload else []
  | _ => []

def GatewayTask.WritesTo (link : LinkRef) : GatewayTask → Prop
  | .exchanging _ _ (.regularWrite written _) => written = link
  | _ => False

def GatewayTask.Idle (task : GatewayTask) : Prop :=
  ∀ linkId link, task.held linkId link = [] ∧ ¬ task.WritesTo link

namespace GatewayServer

variable {zstd : Zstd} {server after : GatewayServer} {input : Input} {link : LinkRef}
  {connection : ConnectionRef} {task next : GatewayTask}

def heard (server : GatewayServer) (connection : ConnectionRef) : List Frame :=
  (server.sockets.received connection).map Frame.of

theorem heard_congr (received : after.sockets.received = server.sockets.received) :
    after.heard = server.heard := by
  funext connection
  rw [heard, received, heard]

/-- The link will be written what comes for it on the task's connection. -/
structure Active (server : GatewayServer) (task : GatewayTask) (link : LinkRef) : Prop where
  connected : (server.base.link link).state = .connected
  reached : server.base.links.lookup (server.base.link link).connectionId = some link ∨
    task.WritesTo link

def Written (server : GatewayServer) (connection : ConnectionRef) (task : GatewayTask)
    (link : LinkRef) : Prop :=
  Receives (server.base.link link).connectionId (server.heard connection)
    (server.base.link link).writer (server.Active task link)
    (task.held (server.base.link link).connectionId link)

/-- The link keeps what has been written to it and does not become connected. -/
structure LinkHeld (before after : Link) : Prop where
  connectionId : after.connectionId = before.connectionId
  written : after.writer.written = before.writer.written
  failed : after.writer.failed = before.writer.failed
  connected : after.state = .connected → before.state = .connected

theorem LinksQuiet.held (quiet : server.LinksQuiet after) (link : LinkRef) :
    LinkHeld (server.base.link link) (after.base.link link) :=
  ⟨(quiet.quiet link).connectionId, (quiet.quiet link).written, (quiet.quiet link).failed,
    quiet.connected link⟩

theorem Written.keep (written : server.Written connection task link)
    (heard : after.heard connection = server.heard connection)
    (held : LinkHeld (server.base.link link) (after.base.link link))
    (shrink : ∀ linkId, after.base.links.lookup linkId = some link →
      server.base.links.lookup linkId = some link)
    (holds : ∀ linkId, next.held linkId link = task.held linkId link)
    (writes : next.WritesTo link → task.WritesTo link) : after.Written connection next link := by
  unfold Written at written ⊢
  rw [heard, held.connectionId, holds]
  refine written.quiet held.written held.failed fun active =>
    ⟨⟨held.connected active.connected, ?_⟩, rfl⟩
  exact (held.connectionId ▸ active.reached).imp (shrink _) writes

theorem Written.idle (written : server.Written connection task link)
    (heard : after.heard connection = server.heard connection)
    (held : LinkHeld (server.base.link link) (after.base.link link))
    (shrink : server.LinksShrink after) (before : task.Idle) (idle : next.Idle) :
    after.Written connection next link :=
  written.keep heard held (shrink · link)
    (fun linkId => by rw [(before linkId link).1, (idle linkId link).1])
    fun writes => absurd writes (idle 0 link).2

/-- An application's task keeps every link, or creates its own. -/
theorem AppDataStep.held {ref : LinkRef} {task : AppTask}
    (moved : AppDataStep ref server task input after) (link : LinkRef) :
    (LinkHeld (server.base.link link) (after.base.link link) ∧
      ∀ linkId, after.base.links.lookup linkId = some link →
        server.base.links.lookup linkId = some link) ∨
    link = ref ∧ task.Unregistered ∧ (after.base.link link).writer.written = [] ∧
      (after.base.link link).state ≠ .connected := by
  cases moved with
  | quiet quiet => exact .inl ⟨quiet.held link, (quiet.shrink · link)⟩
  | created links updated =>
      by_cases mine : link = ref
      · subst mine
        rw [updated, Function.update_self]
        exact .inr ⟨rfl, trivial, rfl, fun equal => nomatch equal⟩
      · rw [updated, Function.update_of_ne mine]
        refine .inl ⟨⟨rfl, rfl, rfl, id⟩, ?_⟩
        intro key found
        rw [links, FiniteMap.lookup_insert] at found
        split at found
        · exact absurd (Option.some.inj found).symm mine
        · exact found
  | @read _ _ bytes =>
      refine .inl ⟨?_, fun _ found => found⟩
      change LinkHeld _ (Function.update server.base.link ref _ link)
      by_cases mine : link = ref
      · subst mine
        rw [Function.update_self]
        exact ⟨rfl, rfl, rfl, id⟩
      · rw [Function.update_of_ne mine]
        exact ⟨rfl, rfl, rfl, id⟩

/-! ## What an exchange loop does to the data -/

section

variable {addr : SocketAddr} {sessionId : Uuid} {ref : LinkRef} {linkId : UInt16}
  {payload : Bytes}

theorem held_of_dispatch {packet : PacketGW} {data : Option Bytes} :
    GatewayTask.held linkId link (.exchanging addr sessionId (dispatch packet data)) =
        (Frame.of (packet, data)).payloadOf linkId ∧
      ¬ GatewayTask.WritesTo link (.exchanging addr sessionId (dispatch packet data)) := by
  unfold dispatch
  cases type : packet.packetType with
  | regular =>
      cases data with
      | none =>
          rw [Frame.payloadOf_of_none rfl]
          exact ⟨rfl, id⟩
      | some payload =>
          simp [GatewayTask.held, GatewayTask.WritesTo, Frame.payloadOf, Frame.of, type]
  | _ => simp [GatewayTask.held, GatewayTask.WritesTo, Frame.payloadOf, Frame.of, type]

theorem Written.receive {packet : PacketGW} {data : Option Bytes}
    (written : server.Written connection (.exchanging addr sessionId .receive) link) :
    (server.updateSockets (server.sockets.receive connection (packet, data))).Written connection
      (.exchanging addr sessionId (dispatch packet data)) link := by
  have grown : (server.updateSockets (server.sockets.receive connection (packet, data))).heard
      connection = server.heard connection ++ [Frame.of (packet, data)] := by
    simp [heard, updateSockets, GatewaySockets.receive]
  have arrived := @held_of_dispatch link addr sessionId
    (server.base.link link).connectionId packet data
  unfold Written
  rw [grown]
  refine Receives.heard written fun active => ⟨⟨active.connected, ?_⟩, arrived.1⟩
  exact active.reached.imp_right fun writes => absurd writes arrived.2

theorem Written.regularFound (keyed : ∀ linkId ref, server.base.links.lookup linkId = some ref →
      (server.base.link ref).connectionId = linkId)
    (found : server.base.links.lookup linkId = some ref)
    (written : server.Written connection
      (.exchanging addr sessionId (.regularLookup linkId payload)) link) :
    server.Written connection (.exchanging addr sessionId (.regularWrite ref payload)) link := by
  have key := keyed linkId ref found
  refine Receives.quiet written rfl rfl fun active => ?_
  have own : server.base.links.lookup (server.base.link link).connectionId = some link := by
    rcases active.reached with own | writes
    · exact own
    · cases writes
      exact key.symm ▸ found
  refine ⟨⟨active.connected, .inl own⟩, ?_⟩
  by_cases mine : ref = link
  · subst mine
    simp [GatewayTask.held, key]
  · have other : linkId ≠ (server.base.link link).connectionId := by
      intro equal
      rw [← equal, found] at own
      exact mine (Option.some.inj own)
    simp [GatewayTask.held, mine, other]

theorem Written.regularAbsent (absent : server.base.links.lookup linkId = none)
    (written : server.Written connection
      (.exchanging addr sessionId (.regularLookup linkId payload)) link) :
    server.Written connection (.exchanging addr sessionId .receive) link := by
  refine Receives.quiet written rfl rfl fun active => ?_
  have own := active.reached.resolve_right id
  have other : linkId ≠ (server.base.link link).connectionId := by
    intro equal
    rw [← equal, absent] at own
    cases own
  exact ⟨⟨active.connected, .inl own⟩, by simp [GatewayTask.held, other]⟩

theorem Written.update_other {update : Link → Link} (different : link ≠ ref)
    (silent : task.held (server.base.link link).connectionId link = [])
    (written : server.Written connection task link) :
    (server.updateLink ref update).Written connection (.exchanging addr sessionId .receive)
      link := by
  have same : (server.updateLink ref update).base.link link = server.base.link link :=
    Function.update_of_ne different _ _
  unfold Written at written ⊢
  rw [same]
  refine written.quiet rfl rfl fun active => ⟨⟨same ▸ active.connected, ?_⟩, silent.symm⟩
  have own := active.reached.resolve_right id
  rw [same] at own
  exact .inl own

theorem Written.regularWrite {outcome : WriteOutcome} {target : Link}
    (sent : (server.base.link ref).sendPacket payload outcome = some target)
    (sticky : target.writer.resumed = false)
    (written : server.Written connection
      (.exchanging addr sessionId (.regularWrite ref payload)) link) :
    (server.updateLink ref fun _ => target).Written connection
      (.exchanging addr sessionId .receive) link := by
  by_cases mine : link = ref
  · subst mine
    have step := Link.sendPacketStep_of_eq sent
    have same : (server.updateLink link fun _ => target).base.link link = target :=
      Function.update_self ..
    unfold Written at written ⊢
    rw [same, step.data.1]
    simp only [GatewayTask.held, if_pos] at written
    refine written.write step sticky (fun connected => ⟨connected, .inr rfl⟩) fun active => ?_
    have connected := active.connected
    rw [same, step.state] at connected
    exact connected
  · exact written.update_other mine (by simp [GatewayTask.held, Ne.symm mine])

theorem Written.openedSet (silent : payloads (server.base.link ref).connectionId
      (server.heard connection) = [])
    (written : server.Written connection (.exchanging addr sessionId (.openedSet ref)) link) :
    (server.updateLink ref (Link.setState · .connected)).Written connection
      (.exchanging addr sessionId .receive) link := by
  by_cases mine : link = ref
  · subst mine
    have same : (server.updateLink link (Link.setState · .connected)).base.link link =
        (server.base.link link).setState .connected := Function.update_self ..
    unfold Written
    rw [same]
    exact Receives.activate written silent rfl
  · exact written.update_other mine rfl

end

end GatewayServer

namespace Server

variable {zstd : Zstd} {server next : Server} {action : ServerAction} {input : Input}
  {connection : ConnectionRef} {linkId : UInt16} {link : LinkRef}

/-- The link has got its identifier. -/
def Created (server : Server) (link : LinkRef) : Prop := ¬ (server.app link).Unregistered

/-- A frame of the link has been read; before its `Opened` has taken effect no data of
it have come. -/
def Handling (server : Server) (frames : List Frame) : GatewayTask → Prop
  | .exchanging _ _ (.regularLookup linkId _) => types linkId frames ≠ []
  | .exchanging _ _ (.regularWrite link _) => server.Created link ∧
      types (server.shared.base.link link).connectionId frames ≠ []
  | .exchanging _ _ (.openedLookup linkId) =>
      types linkId frames ≠ [] ∧ payloads linkId frames = []
  | .exchanging _ _ (.openedSet link) => server.Created link ∧
      types (server.shared.base.link link).connectionId frames ≠ [] ∧
      payloads (server.shared.base.link link).connectionId frames = []
  | _ => True

/-- No other connection has brought a frame of the link. -/
def Sole (server : Server) (connection : ConnectionRef) (linkId : UInt16) : Prop :=
  ∀ other, other ≠ connection → types linkId (server.shared.heard other) = []

structure Receiving (server : Server) : Prop where
  handling : ∀ connection,
    server.Handling (server.shared.heard connection) (server.gateway connection)
  written : ∀ connection link,
    server.Sole connection (server.shared.base.link link).connectionId →
      server.shared.Written connection (server.gateway connection) link

theorem receiving_new : Receiving Server.new where
  handling := fun _ => trivial
  written := fun _ _ _ => .fresh rfl fun active => nomatch active.connected

theorem created_of_step (slots : SlotsInOrder server)
    (stepped : step zstd server action = some next) (created : server.Created link) :
    next.Created link := by
  intro unregistered
  apply created
  cases registryStep_of_step stepped with
  | accept same app =>
      rw [app] at unregistered
      by_cases equal : link = server.appCount
      · rw [equal, slots.app _ (Nat.le_refl _)]
        trivial
      · rwa [Function.update_of_ne equal] at unregistered
  | draw ref input taken drawing shared app =>
      rw [app] at unregistered
      by_cases equal : link = ref
      · rw [equal, drawing]
        trivial
      · rwa [Function.update_of_ne equal] at unregistered
  | register ref linkId writer addr registering shared app =>
      rw [app] at unregistered
      by_cases equal : link = ref
      · rw [equal, registering]
        trivial
      · rwa [Function.update_of_ne equal] at unregistered
  | keep same shrink identifier registered => exact registered link unregistered

/-- A created link keeps its identifier. -/
theorem connectionId_of_step (stepped : step zstd server action = some next)
    (created : server.Created link) : (next.shared.base.link link).connectionId =
      (server.shared.base.link link).connectionId := by
  cases registryStep_of_step stepped with
  | accept same => rw [same]
  | draw ref input taken drawing shared => rw [shared]; rfl
  | register ref linkId writer addr registering shared =>
      have different : link ≠ ref := by
        intro equal
        apply created
        rw [equal, registering]
        trivial
      rw [shared]
      exact congrArg Link.connectionId (Function.update_of_ne different _ _)
  | keep same => exact same.connectionId link

/-- The task's point stays justified as the links it is about keep their identifier. -/
theorem Handling.keep {frames : List Frame} {task : GatewayTask}
    (handling : server.Handling frames task)
    (created : ∀ link, server.Created link → next.Created link ∧
      (next.shared.base.link link).connectionId = (server.shared.base.link link).connectionId) :
    next.Handling frames task := by
  unfold Handling at handling ⊢
  split at handling
  · exact handling
  · have kept := created _ handling.1
    exact ⟨kept.1, kept.2 ▸ handling.2⟩
  · exact handling
  · have kept := created _ handling.1
    exact ⟨kept.1, kept.2 ▸ handling.2⟩
  · trivial

/-! ## Steps -/

/-- A step of any task but those of the connections. -/
theorem Receiving.others (receiving : server.Receiving)
    (heard : next.shared.heard = server.shared.heard)
    (gateway : ∀ connection, next.gateway connection = server.gateway connection ∨
      (∃ addr, next.gateway connection = .handling addr .evict) ∧
        server.gateway connection = .absent)
    (created : ∀ link, server.Created link → next.Created link)
    (kept : ∀ link,
      (GatewayServer.LinkHeld (server.shared.base.link link) (next.shared.base.link link) ∧
        ∀ linkId, next.shared.base.links.lookup linkId = some link →
          server.shared.base.links.lookup linkId = some link) ∨
      ¬ server.Created link ∧ (next.shared.base.link link).writer.written = [] ∧
        (next.shared.base.link link).state ≠ .connected) : next.Receiving where
  handling := by
    intro connection
    rcases gateway connection with same | ⟨⟨_, accepted⟩, _⟩
    · rw [heard, same]
      refine (receiving.handling connection).keep fun link before => ⟨created link before, ?_⟩
      exact ((kept link).resolve_right fun fresh => fresh.1 before).1.connectionId
    · rw [accepted]
      trivial
  written := by
    intro connection link sole
    rcases kept link with ⟨held, shrink⟩ | ⟨_, unwritten, unconnected⟩
    · rw [held.connectionId] at sole
      have before : server.Sole connection (server.shared.base.link link).connectionId := by
        intro other different
        rw [← heard]
        exact sole other different
      have earlier := receiving.written connection link before
      rcases gateway connection with same | ⟨⟨_, accepted⟩, absent⟩
      · rw [same]
        exact earlier.keep (congrFun heard connection) held shrink (fun _ => rfl) id
      · rw [absent] at earlier
        rw [accepted]
        exact earlier.keep (congrFun heard connection) held shrink (fun _ => rfl) id
    · exact .fresh unwritten fun active => unconnected active.connected

/-- The step of a connection's task changes only links that it has brought frames of. -/
theorem Receiving.gateway (receiving : server.Receiving) (app : next.app = server.app)
    (others : ∀ other, other ≠ connection → next.gateway other = server.gateway other ∧
      next.shared.heard other = server.shared.heard other)
    (grown : server.shared.heard connection <+: next.shared.heard connection)
    (source : ∀ link, (next.shared.base.link link).connectionId =
      (server.shared.base.link link).connectionId)
    (shrink : server.shared.LinksShrink next.shared)
    (held : ∀ link, types (server.shared.base.link link).connectionId
      (next.shared.heard connection) = [] →
        GatewayServer.LinkHeld (server.shared.base.link link) (next.shared.base.link link))
    (handling : next.Handling (next.shared.heard connection) (next.gateway connection))
    (written : ∀ link, server.shared.Written connection (server.gateway connection) link →
      next.shared.Written connection (next.gateway connection) link) : next.Receiving where
  handling := by
    intro other
    by_cases equal : other = connection
    · exact equal ▸ handling
    · rw [(others other equal).1, (others other equal).2]
      refine (receiving.handling other).keep fun link created => ⟨?_, source link⟩
      unfold Created
      rw [app]
      exact created
  written := by
    intro other link sole
    rw [source] at sole
    have before : server.Sole other (server.shared.base.link link).connectionId := by
      intro third different
      have silent := sole third different
      by_cases equal : third = connection
      · exact types_eq_nil_of_front (equal ▸ grown) (equal ▸ silent)
      · rwa [(others third equal).2] at silent
    have earlier := receiving.written other link before
    by_cases equal : other = connection
    · subst equal
      exact written link earlier
    · have same := others other equal
      rw [same.1]
      exact earlier.keep same.2 (held link (sole connection fun swapped => equal swapped.symm))
        (shrink · link) (fun _ => rfl) id

theorem linkHeld_of_silent {shared : GatewayServer}
    (moved : GatewayServer.GatewayDataStep server.shared (server.gateway connection) input shared)
    (handling : server.Handling (server.shared.heard connection) (server.gateway connection))
    (silent : types (server.shared.base.link link).connectionId
      (server.shared.heard connection) = []) :
    GatewayServer.LinkHeld (server.shared.base.link link) (shared.base.link link) := by
  generalize server.gateway connection = task at moved handling
  cases moved with
  | quiet quiet => exact quiet.held link
  | @written _ _ ref =>
      have different : link ≠ ref := fun equal => handling.2 (equal ▸ silent)
      simpa [Gateway.updateLink, different] using GatewayServer.LinkHeld.mk rfl rfl rfl id
  | @connected _ _ ref =>
      have different : link ≠ ref := fun equal => handling.2.1 (equal ▸ silent)
      simpa [Gateway.updateLink, different] using GatewayServer.LinkHeld.mk rfl rfl rfl id

/-- A received frame is the first of its link, or belongs to one that has been opened. -/
theorem handling_of_dispatch {addr : SocketAddr} {sessionId : Uuid} {frames : List Frame}
    {packet : PacketGW} {data : Option Bytes}
    (introduced : ∀ linkId, Introduced .opened linkId (frames ++ [Frame.of (packet, data)])) :
    server.Handling (frames ++ [Frame.of (packet, data)])
      (.exchanging addr sessionId (GatewayServer.dispatch packet data)) := by
  have own : types packet.linkId (frames ++ [Frame.of (packet, data)]) ≠ [] := by
    have grown := @types_concat_own packet.linkId (Frame.of (packet, data)) frames rfl
    simp [grown]
  unfold GatewayServer.dispatch
  cases type : packet.packetType with
  | regular =>
      cases data with
      | none => trivial
      | some payload => exact own
  | opened =>
      exact ⟨own, (introduced packet.linkId).payloads_of_opening ⟨type, rfl⟩ (by decide)⟩
  | _ => trivial

theorem handling_of_gateway {shared : GatewayServer} {task : GatewayTask}
    (registered : Registered server)
    (introduced : ∀ linkId, Introduced .opened linkId (shared.heard connection))
    (handling : server.Handling (server.shared.heard connection) (server.gateway connection))
    (moved : server.shared.GatewayStep zstd connection (server.gateway connection) input shared
      task) : server.Handling (shared.heard connection) task := by
  generalize server.gateway connection = before at moved handling
  cases moved with
  | handling moved => cases moved <;> trivial
  | exchanging moved =>
      cases moved with
      | @receive packet data =>
          have grown : (server.shared.updateSockets
              (server.shared.sockets.receive connection (packet, data))).heard connection =
                server.shared.heard connection ++ [Frame.of (packet, data)] := by
            simp [GatewayServer.heard, GatewayServer.updateSockets, GatewaySockets.receive]
          rw [grown] at introduced ⊢
          exact handling_of_dispatch introduced
      | regularFound found =>
          exact ⟨registered.task _ _ found, (registered.key _ _ found).symm ▸ handling⟩
      | openedFound found =>
          exact ⟨registered.task _ _ found, (registered.key _ _ found).symm ▸ handling⟩
      | _ => trivial

theorem written_of_gateway {shared : GatewayServer} {task : GatewayTask}
    (registered : Registered server)
    (sticky : ∀ link, server.Created link → (shared.base.link link).writer.resumed = false)
    (handling : server.Handling (server.shared.heard connection) (server.gateway connection))
    (moved : server.shared.GatewayStep zstd connection (server.gateway connection) input shared
      task) (written : server.shared.Written connection (server.gateway connection) link) :
    shared.Written connection task link := by
  have shrink := moved.linksShrink
  have quietly : server.shared.LinksQuiet shared →
      shared.sockets.received = server.shared.sockets.received →
      (server.gateway connection).Idle → task.Idle → shared.Written connection task link :=
    fun quiet received before after => written.idle
      (by rw [GatewayServer.heard, received, GatewayServer.heard]) (quiet.held link) shrink before
      after
  have unchanged : server.shared.LinksQuiet server.shared := .ofBase rfl
  generalize server.gateway connection = before at moved handling written quietly
  cases moved with
  | handling moved =>
      cases moved <;> exact quietly (.ofSame (fun _ _ found => found) rfl) rfl
        (fun _ _ => ⟨rfl, id⟩) fun _ _ => ⟨rfl, id⟩
  | exchanging moved =>
      cases moved with
      | receive => exact written.receive
      | regularFound found => exact written.regularFound registered.key found
      | regularAbsent absent => exact written.regularAbsent absent
      | @regularWrite ref _ _ target sent =>
          refine written.regularWrite sent ?_
          simpa [Gateway.updateLink] using sticky ref handling.1
      | openedSet => exact written.openedSet handling.2.2
      | sendPong sent =>
          exact quietly (.ofBase sent.base) sent.received (fun _ _ => ⟨rfl, id⟩)
            fun _ _ => ⟨rfl, id⟩
      | removing removal =>
          exact quietly removal.linksQuiet (congrArg _ removal.sockets) (fun _ _ => ⟨rfl, id⟩)
            fun _ _ => ⟨rfl, id⟩
      | removed removal =>
          exact quietly removal.linksQuiet (congrArg _ removal.sockets) (fun _ _ => ⟨rfl, id⟩)
            fun _ _ => ⟨rfl, id⟩
      | cleanup cleaning =>
          exact quietly cleaning.linksQuiet (congrArg _ cleaning.sockets) (fun _ _ => ⟨rfl, id⟩)
            fun _ _ => ⟨rfl, id⟩
      | cleaned cleaning =>
          exact quietly cleaning.linksQuiet (congrArg _ cleaning.sockets) (fun _ _ => ⟨rfl, id⟩)
            fun _ _ => ⟨rfl, id⟩
      | _ =>
          exact quietly (.ofSame (fun _ _ found => found) rfl) rfl (fun _ _ => ⟨rfl, id⟩)
            fun _ _ => ⟨rfl, id⟩

theorem heard_prefix_of_step (stepped : step zstd server action = some next)
    (connection : ConnectionRef) :
    server.shared.heard connection <+: next.shared.heard connection ∧
      ∀ other input, action = .gateway other input → other ≠ connection →
        next.shared.heard connection = server.shared.heard connection := by
  cases receivedStep_of_step stepped with
  | kept same => simp [GatewayServer.heard, same]
  | @received reading addr sessionId packet data next run sockets =>
      by_cases equal : connection = reading
      · subst equal
        refine ⟨?_, ?_⟩
        · simp [GatewayServer.heard, sockets, GatewaySockets.receive]
        · intro other input taken different
          cases taken
          exact absurd rfl different
      · simp [GatewayServer.heard, sockets, GatewaySockets.receive, equal]

theorem Receiving.app {ref : LinkRef} {shared : GatewayServer} {task : AppTask}
    (receiving : server.Receiving)
    (created : ∀ link, server.Created link →
      ({ server with
        shared := shared
        app := Function.update server.app ref task } : Server).Created link)
    (received : shared.sockets.received = server.shared.sockets.received)
    (moved : GatewayServer.AppDataStep ref server.shared (server.app ref) input shared) :
    ({ server with
      shared := shared
      app := Function.update server.app ref task } : Server).Receiving := by
  refine receiving.others (GatewayServer.heard_congr received) (fun _ => .inl rfl) created
    fun link => ?_
  refine (moved.held link).imp_right fun fresh => ⟨fun registered => ?_, fresh.2.2⟩
  exact registered (fresh.1 ▸ fresh.2.1)

/-- Every step of the server keeps what its applications have been written a front of
what has come for them. -/
theorem Receiving.step (receiving : server.Receiving) (slots : SlotsInOrder server)
    (registered : Registered server)
    (introduced : ∀ connection linkId, Introduced .opened linkId (next.shared.heard connection))
    (sticky : ∀ link < server.appCount, (next.shared.base.link link).writer.resumed = false)
    (stepped : step zstd server action = some next) : next.Receiving := by
  have created := fun link => @created_of_step zstd server next action link slots stepped
  have heard := heard_prefix_of_step stepped
  have received := receivedStep_of_step stepped
  have below : ∀ link, server.Created link → link < server.appCount := by
    intro link created
    apply slots.app_lt
    intro absent
    apply created
    rw [absent]
    trivial
  cases transition_of_step stepped with
  | acceptApp =>
      exact receiving.others rfl (fun _ => .inl rfl) created fun link =>
        .inl ⟨⟨rfl, rfl, rfl, id⟩, fun _ => id⟩
  | @acceptGateway addr =>
      refine receiving.others rfl ?_ created fun link => .inl ⟨⟨rfl, rfl, rfl, id⟩, fun _ => id⟩
      intro connection
      by_cases equal : connection = server.gatewayCount
      · rw [equal]
        exact .inr ⟨⟨addr, Function.update_self ..⟩, slots.gateway _ (Nat.le_refl _)⟩
      · exact .inl (Function.update_of_ne equal _ _)
  | app moved =>
      cases received with
      | kept same => exact receiving.app created same moved.data
  | @gateway connection input shared task moved =>
      have handling := receiving.handling connection
      have after := Function.update_self connection task server.gateway
      have quietly := fun link => @linkHeld_of_silent server input connection link shared moved.data
        handling
      refine receiving.gateway rfl (fun other different =>
          ⟨Function.update_of_ne different _ _,
            (heard other).2 connection input rfl (Ne.symm different)⟩)
        (heard connection).1 (fun link => (moved.data.source link).1) moved.linksShrink
        (fun link silent => quietly link (types_eq_nil_of_front (heard connection).1 silent))
        ?_ ?_
      · change Handling _ _ (Function.update server.gateway connection task connection)
        rw [after]
        refine (handling_of_gateway registered (introduced connection) handling moved).keep
          fun link before => ⟨before, (moved.data.source link).1⟩
      · intro link written
        change shared.Written _ (Function.update server.gateway connection task connection) _
        rw [after]
        exact written_of_gateway registered (fun link before => sticky link (below link before))
          handling moved written
  | shutdown moved =>
      have quiet := moved.linksQuiet
      cases received with
      | kept same =>
          exact receiving.others (GatewayServer.heard_congr same) (fun _ => .inl rfl) created
            fun link => .inl ⟨quiet.held link, (quiet.shrink · link)⟩
  | _ =>
      exact receiving.others rfl (fun _ => .inl rfl) created fun link =>
        .inl ⟨⟨rfl, rfl, rfl, id⟩, fun _ => id⟩

end Server

end IoGateway

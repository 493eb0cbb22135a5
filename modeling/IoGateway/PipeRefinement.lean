import IoGateway.ClosedLinks
import IoGateway.Flows
import IoGateway.Foundation.Pipes
import IoGateway.Foundation.Simulation

/-! # The network as a set of pipes

Each link of the server is two pipes, one in each direction. Whatever the tasks of all
sides do with packets, connections and registries, a step of the network sends bytes
through one pipe, or delivers the next ones of one pipe, or does nothing to the pipes.
-/

namespace IoGateway

/-- Which application sends: the one behind the server, or the one behind the client. -/
inductive Direction
  | toClient
  | toServer
deriving DecidableEq

namespace Direction

variable {Value : Type u}

def source : Direction → Value → Value → Value
  | .toClient, server, _ => server
  | .toServer, _, peer => peer

def target : Direction → Value → Value → Value
  | .toClient, _, peer => peer
  | .toServer, server, _ => server

def both (toClient toServer : Bytes) : Direction → Bytes
  | .toClient => toClient
  | .toServer => toServer

def only : Direction → Bytes → Direction → Bytes
  | .toClient, bytes => both bytes []
  | .toServer, bytes => both [] bytes

theorem both_nil (direction : Direction) : both [] [] direction = [] := by
  cases direction <;> rfl

theorem only_self (direction : Direction) (bytes : Bytes) :
    direction.only bytes direction = bytes := by
  cases direction <;> rfl

theorem only_of_ne {direction other : Direction} (different : other ≠ direction) (bytes : Bytes) :
    direction.only bytes other = [] := by
  cases direction <;> cases other <;> first | rfl | exact absurd rfl different

end Direction

/-- What goes into the pipe comes from one link, and what comes out goes to the other. -/
structure Pipe.Carries (pipe : Pipe UInt8) (source target : Link) : Prop where
  sent : pipe.sent = source.received
  delivered : pipe.delivered = target.writer.written

namespace Network

open Direction (both)

variable {zstd : Zstd} {network next : Network} {connection : ConnectionRef} {ref link : LinkRef}
  {peer after : Link} {pipes : LinkRef × Direction → Pipe UInt8}

/-- The end of a server's link at a client. While there is none, no data have gone through
it. -/
inductive Peer (network : Network) (ref : LinkRef) : Link → Prop
  | joined (connection : ConnectionRef) (link : LinkRef)
      (ends : network.Ends ref connection link) :
      Peer network ref (network.clientLink connection link)
  | alone (peer : Link) (unpaired : ∀ connection link, ¬ network.Ends ref connection link)
      (blank : peer.Blank) : Peer network ref peer

def Represents (network : Network) (pipes : LinkRef × Direction → Pipe UInt8) : Prop :=
  ∀ ref peer direction, network.Peer ref peer →
    (pipes (ref, direction)).Carries (direction.source (network.serverLink ref) peer)
      (direction.target (network.serverLink ref) peer)

theorem exists_peer (network : Network) (ref : LinkRef) : ∃ peer, network.Peer ref peer := by
  by_cases joined : ∃ connection link, network.Ends ref connection link
  · rcases joined with ⟨connection, link, ends⟩
    exact ⟨_, .joined connection link ends⟩
  · exact ⟨.new 0, .alone _ (fun connection link ends => joined ⟨connection, link, ends⟩)
      (Link.blank_new 0)⟩

/-! ## The ends of the links -/

structure BlankLinks (network : Network) : Prop where
  server : network.server.BlankLinks
  client : ∀ connection, (network.client connection).BlankLinks

theorem BlankLinks.step (blank : network.BlankLinks) (sound : network.Sound zstd)
    {action : NetworkAction} (stepped : network.step zstd action = some next) :
    next.BlankLinks := by
  cases sideStep_of_step stepped with
  | server moved =>
      exact ⟨blank.server.step (Server.identified_of_reachable sound.server)
        (Server.positive_of_reachable sound.server) moved, blank.client⟩
  | @client connection _ client _ moved =>
      refine ⟨blank.server, fun other => ?_⟩
      change (Function.update network.client connection client other).BlankLinks
      by_cases equal : other = connection
      · subst equal
        rw [Function.update_self]
        exact (blank.client other).step
          (Client.epochs_of_reachable (sound.client other)) moved
      · rw [Function.update_of_ne equal]
        exact blank.client other

theorem blankLinks_of_reachable (lawful : zstd.Lawful)
    (reachable : (system zstd).ReachableUnder (Permitted zstd) network) : network.BlankLinks :=
  reachable.invariant
    ⟨fun _ _ => Link.blank_new 0, fun _ _ _ => Link.blank_new 0⟩
    fun _ _ _ earlier blank _ stepped => blank.step (sound_of_reachable lawful earlier) stepped

theorem Sound.ends_of_step (sound : network.Sound zstd) (ends : network.Ends ref connection link)
    {action : NetworkAction} (stepped : network.step zstd action = some next) :
    next.Ends ref connection link := by
  cases sideStep_of_step stepped with
  | server moved =>
      have positive := (sound.owned ends.exists_).positive
      have created := sound.created (ends.same ▸ positive)
      exact ⟨ends.exists_, (Server.connectionId_of_step moved created).trans ends.same⟩
  | @client moving _ client _ moved =>
      by_cases equal : connection = moving
      · subst equal
        have later := Nat.lt_of_lt_of_le ends.exists_ (Client.linkCount_le_of_step moved)
        have same := ends.same.trans (Client.connectionId_of_step ends.exists_ moved).symm
        exact ⟨by simpa using later, by simpa [serverLink, clientLink] using same⟩
      · exact ⟨by simpa [equal] using ends.exists_,
          by simpa [serverLink, clientLink, equal] using ends.same⟩

theorem Sound.ends_of_next (sound : network.Sound zstd) (after : next.Sound zstd)
    (ends : next.Ends ref connection link) (exists_ : link < (network.client connection).linkCount)
    {action : NetworkAction} (stepped : network.step zstd action = some next) :
    network.Ends ref connection link := by
  rcases sound.fidelity.paired connection link exists_ with ⟨other, known⟩
  have same := (after.fidelity.unique _ _ _ _ _ _ (sound.ends_of_step known stepped) ends).mpr
    ⟨rfl, rfl⟩
  exact same ▸ known

/-- A link that a client has just created had no end at a client. -/
theorem Sound.unpaired_of_next (sound : network.Sound zstd) (after : next.Sound zstd)
    (ends : next.Ends ref connection link) (new : (network.client connection).linkCount ≤ link)
    {action : NetworkAction} (stepped : network.step zstd action = some next) :
    ∀ other otherLink, ¬ network.Ends ref other otherLink := by
  intro other otherLink known
  rcases (after.fidelity.unique _ _ _ _ _ _ (sound.ends_of_step known stepped) ends).mp rfl with
    ⟨rfl, rfl⟩
  exact absurd known.exists_ (Nat.not_lt.mpr new)

/-- What has come out of a link is what has gone into it, as far as it has come. -/
theorem Sound.front (sound : network.Sound zstd) (blank : network.BlankLinks)
    (known : network.Peer ref peer) (direction : Direction) :
    (direction.target (network.serverLink ref) peer).writer.written <+:
      (direction.source (network.serverLink ref) peer).received := by
  cases known with
  | joined connection link ends =>
      cases direction with
      | toClient => exact sound.fidelity.toClient ref connection link ends
      | toServer => exact sound.fidelity.toServer ref connection link ends
  | alone _ unpaired still =>
      cases direction with
      | toClient => exact still.written ▸ List.nil_prefix
      | toServer =>
          have silent : (network.serverLink ref).writer.written = [] := by
            by_cases positive : (network.serverLink ref).connectionId = 0
            · exact (blank.server ref positive).written
            · exact sound.fidelity.unpaired ref positive unpaired
          exact silent ▸ List.nil_prefix

/-- A link of a client is the only end of its server's link. -/
theorem Fidelity.peer_eq (fidelity : network.Fidelity) (ends : network.Ends ref connection link)
    (known : network.Peer ref peer) : peer = network.clientLink connection link := by
  cases known with
  | joined other otherLink known =>
      rcases (fidelity.unique _ _ _ _ _ _ known ends).mp rfl with ⟨rfl, rfl⟩
      rfl
  | alone _ unpaired => exact absurd ends (unpaired connection link)

/-! ## The bytes that a step moves -/

/-- What a step puts into the pipes of a link, and what it takes out of them. -/
def Passes (network next : Network) (ref : LinkRef) (sent delivered : Direction → Bytes) : Prop :=
  ∀ after, next.Peer ref after → ∃ peer, network.Peer ref peer ∧ ∀ direction,
    (direction.source (next.serverLink ref) after).received =
      (direction.source (network.serverLink ref) peer).received ++ sent direction ∧
    (direction.target (next.serverLink ref) after).writer.written =
      (direction.target (network.serverLink ref) peer).writer.written ++ delivered direction

theorem passes_of_flows {read written peerRead peerWritten : Bytes}
    (server : (network.serverLink ref).Flows (next.serverLink ref) read written)
    (peers : ∀ after, next.Peer ref after →
      ∃ peer, network.Peer ref peer ∧ peer.Flows after peerRead peerWritten) :
    network.Passes next ref (both read peerRead) (both peerWritten written) := by
  intro after known
  rcases peers after known with ⟨peer, before, flows⟩
  refine ⟨peer, before, fun direction => ?_⟩
  cases direction with
  | toClient => exact ⟨server.received, flows.written⟩
  | toServer => exact ⟨flows.received, server.written⟩

/-- A step moves the bytes of at most one pipe, at one of its ends. -/
inductive PipeFlow (network next : Network) : Prop
  | still (links : ∀ ref, network.Passes next ref (both [] []) (both [] []))
  | sent (ref : LinkRef) (direction : Direction) (bytes : Bytes)
      (own : network.Passes next ref (direction.only bytes) (both [] []))
      (others : ∀ other, other ≠ ref → network.Passes next other (both [] []) (both [] []))
  | delivered (ref : LinkRef) (direction : Direction) (bytes : Bytes)
      (own : network.Passes next ref (both [] []) (direction.only bytes))
      (others : ∀ other, other ≠ ref → network.Passes next other (both [] []) (both [] []))

theorem pipeFlow_of_server {used : LinkRef → Prop}
    (flow : LinksFlow used network.serverLink next.serverLink)
    (peers : ∀ ref after, next.Peer ref after → network.Peer ref after) :
    network.PipeFlow next := by
  have still : ∀ ref after, next.Peer ref after →
      ∃ peer, network.Peer ref peer ∧ peer.Flows after [] [] := fun ref after known =>
    ⟨after, peers ref after known, Link.flows_of_eq rfl rfl⟩
  cases flow with
  | still others => exact .still fun ref => passes_of_flows (others ref) (still ref)
  | read link bytes _ own others =>
      exact .sent link .toClient bytes (passes_of_flows own (still link))
        fun other different => passes_of_flows (others other different) (still other)
  | written link bytes _ own others =>
      exact .delivered link .toServer bytes (passes_of_flows own (still link))
        fun other different => passes_of_flows (others other different) (still other)

/-- What a client's step does to the end of a link: it is one of the client's links, or
nothing passes there. -/
theorem Sound.peer_of_client (sound : network.Sound zstd) (later : next.Sound zstd)
    (blank : network.BlankLinks) {action : NetworkAction}
    (stepped : network.step zstd action = some next)
    (apart : ∀ other, other ≠ connection → next.client other = network.client other)
    (flow : LinksFlow (· < (network.client connection).linkCount)
      (network.clientLink connection) (next.clientLink connection))
    (known : next.Peer ref after) :
    (∃ link, network.Ends ref connection link ∧ after = next.clientLink connection link) ∨
      ∃ peer, network.Peer ref peer ∧ peer.Flows after [] [] := by
  cases known with
  | joined other link ends =>
      by_cases own : other = connection
      · subst own
        rcases Nat.lt_or_ge link (network.client other).linkCount with exists_ | new
        · exact .inl ⟨link, sound.ends_of_next later ends exists_ stepped, rfl⟩
        · have idle := blank.client other link new
          refine .inr ⟨_, .alone _ (sound.unpaired_of_next later ends new stepped) idle, ?_⟩
          exact idle.flows (flow.blank (Nat.not_lt.mpr new) idle)
      · have same : next.clientLink other link = network.clientLink other link := by
          rw [clientLink, apart other own, clientLink]
        have exists_ : link < (network.client other).linkCount := apart other own ▸ ends.exists_
        rw [same]
        exact .inr ⟨_, .joined other link (sound.ends_of_next later ends exists_ stepped),
          Link.flows_of_eq rfl rfl⟩
  | alone _ unpaired still =>
      refine .inr ⟨after, .alone _ (fun other link ends => ?_) still, Link.flows_of_eq rfl rfl⟩
      exact unpaired other link (sound.ends_of_step ends stepped)

theorem Sound.pipeFlow_of_client (sound : network.Sound zstd) (later : next.Sound zstd)
    (blank : network.BlankLinks) {action : NetworkAction}
    (stepped : network.step zstd action = some next)
    (apart : ∀ other, other ≠ connection → next.client other = network.client other)
    (flow : LinksFlow (· < (network.client connection).linkCount)
      (network.clientLink connection) (next.clientLink connection))
    (server : next.server = network.server) : network.PipeFlow next := by
  have quiet : ∀ ref, (network.serverLink ref).Flows (next.serverLink ref) [] [] := by
    intro ref
    rw [serverLink, serverLink, server]
    exact Link.flows_of_eq rfl rfl
  have peers := fun ref after => @Sound.peer_of_client zstd network next connection ref after
    sound later blank action stepped apart flow
  have moved : ∀ {ref link read written}, network.Ends ref connection link →
      (network.clientLink connection link).Flows (next.clientLink connection link) read written →
        ∀ after, next.Peer ref after →
          ∃ peer, network.Peer ref peer ∧ peer.Flows after read written := by
    intro ref link read written ends own after known
    rw [later.fidelity.peer_eq (sound.ends_of_step ends stepped) known]
    exact ⟨_, .joined connection link ends, own⟩
  -- Away from the link through which the bytes go nothing passes.
  have elsewhere : ∀ {ref link}, network.Ends ref connection link →
      (∀ other, other ≠ link → (network.clientLink connection other).Flows
        (next.clientLink connection other) [] []) →
          ∀ other, other ≠ ref → network.Passes next other (both [] []) (both [] []) := by
    intro ref link ends others other different
    refine passes_of_flows (quiet other) fun after known => ?_
    rcases peers other after known with ⟨otherLink, otherEnds, same⟩ | still
    · have apart : otherLink ≠ link := by
        intro equal
        subst equal
        exact different ((sound.fidelity.unique _ _ _ _ _ _ otherEnds ends).mpr ⟨rfl, rfl⟩)
      exact moved otherEnds (others otherLink apart) after known
    · exact still
  cases flow with
  | still others =>
      refine .still fun ref => passes_of_flows (quiet ref) fun after known => ?_
      rcases peers ref after known with ⟨link, ends, same⟩ | still
      · exact moved ends (others link) after known
      · exact still
  | read link bytes present own others =>
      rcases sound.fidelity.paired connection link present with ⟨ref, ends⟩
      exact .sent ref .toServer bytes (passes_of_flows (quiet ref) (moved ends own))
        (elsewhere ends others)
  | written link bytes present own others =>
      rcases sound.fidelity.paired connection link present with ⟨ref, ends⟩
      exact .delivered ref .toClient bytes (passes_of_flows (quiet ref) (moved ends own))
        (elsewhere ends others)

theorem Sound.pipeFlow_of_step (sound : network.Sound zstd) (later : next.Sound zstd)
    (blank : network.BlankLinks) {action : NetworkAction}
    (stepped : network.step zstd action = some next) : network.PipeFlow next := by
  cases sideStep_of_step stepped with
  | server moved =>
      refine pipeFlow_of_server (Server.linksFlow_of_step
        (Server.identified_of_reachable sound.server) (Server.positive_of_reachable sound.server)
        blank.server moved) fun ref after known => ?_
      cases known with
      | joined connection link ends =>
          exact .joined connection link (sound.ends_of_next later ends ends.exists_ stepped)
      | alone _ unpaired still =>
          refine .alone _ (fun connection link ends => ?_) still
          exact unpaired connection link (sound.ends_of_step ends stepped)
  | @client connection _ client _ moved =>
      refine @Sound.pipeFlow_of_client zstd network _ connection sound later blank _ stepped
        (fun other different => Function.update_of_ne different _ _) ?_ rfl
      have flow := Client.linksFlow_of_step (Client.epochs_of_reachable (sound.client connection))
        (blank.client connection) moved
      change LinksFlow _ (network.client connection).shared.base.link
        (Function.update network.client connection client connection).shared.base.link
      rw [Function.update_self]
      exact flow

/-! ## The refinement -/

theorem Represents.still (represents : network.Represents pipes)
    (links : ∀ ref, network.Passes next ref (both [] []) (both [] [])) :
    next.Represents pipes := by
  intro ref after direction known
  rcases links ref after known with ⟨peer, before, moved⟩
  have carried := represents ref peer direction before
  have passed := moved direction
  rw [Direction.both_nil, List.append_nil, List.append_nil] at passed
  exact ⟨carried.sent.trans passed.1.symm, carried.delivered.trans passed.2.symm⟩

theorem Represents.update (represents : network.Represents pipes) {ref : LinkRef}
    {direction : Direction} {pipe : Pipe UInt8} {sent delivered : Direction → Bytes}
    (own : network.Passes next ref sent delivered)
    (others : ∀ other, other ≠ ref → network.Passes next other (both [] []) (both [] []))
    (opposite : ∀ other, other ≠ direction → sent other = [] ∧ delivered other = [])
    (grown : pipe.sent = (pipes (ref, direction)).sent ++ sent direction)
    (pulled : pipe.delivered = (pipes (ref, direction)).delivered ++ delivered direction) :
    next.Represents (Function.update pipes (ref, direction) pipe) := by
  intro other after way known
  by_cases link : other = ref
  · subst link
    rcases own after known with ⟨peer, before, moved⟩
    have carried := represents other peer way before
    have passed := moved way
    by_cases same : way = direction
    · subst same
      rw [Function.update_self]
      exact ⟨by rw [grown, carried.sent, passed.1], by rw [pulled, carried.delivered, passed.2]⟩
    · rw [Function.update_of_ne fun equal => same (Prod.ext_iff.mp equal).2]
      rw [(opposite way same).1, (opposite way same).2, List.append_nil, List.append_nil] at passed
      exact ⟨carried.sent.trans passed.1.symm, carried.delivered.trans passed.2.symm⟩
  · rcases others other link after known with ⟨peer, before, moved⟩
    have carried := represents other peer way before
    have passed := moved way
    rw [Direction.both_nil, List.append_nil, List.append_nil] at passed
    rw [Function.update_of_ne fun equal => link (Prod.ext_iff.mp equal).1]
    exact ⟨carried.sent.trans passed.1.symm, carried.delivered.trans passed.2.symm⟩

theorem Represents.step (represents : network.Represents pipes) (flow : network.PipeFlow next)
    (fronts : ∀ ref peer (direction : Direction), next.Peer ref peer →
      (direction.target (next.serverLink ref) peer).writer.written <+:
        (direction.source (next.serverLink ref) peer).received) :
    next.Represents pipes ∨
      ∃ event after, Pipes.step pipes event = some after ∧ next.Represents after := by
  cases flow with
  | still links => exact .inl (represents.still links)
  | sent ref direction bytes own others =>
      refine .inr ⟨.push (ref, direction) bytes, _, rfl, represents.update own others ?_ ?_ ?_⟩
      · exact fun other different => ⟨Direction.only_of_ne different bytes, Direction.both_nil _⟩
      · rw [Direction.only_self]
        rfl
      · rw [Direction.both_nil, List.append_nil]
        rfl
  | delivered ref direction bytes own others =>
      have front : (pipes (ref, direction)).delivered ++ bytes <+:
          (pipes (ref, direction)).sent := by
        rcases next.exists_peer ref with ⟨after, known⟩
        rcases own after known with ⟨peer, before, moved⟩
        have carried := represents ref peer direction before
        have passed := moved direction
        rw [Direction.both_nil, List.append_nil, Direction.only_self] at passed
        rw [carried.delivered, carried.sent, ← passed.1, ← passed.2]
        exact fronts ref after direction known
      refine .inr ⟨.pull (ref, direction) bytes.length, _, Pipes.step_pull front,
        represents.update own others ?_ ?_ ?_⟩
      · exact fun other different => ⟨Direction.both_nil _, Direction.only_of_ne different bytes⟩
      · rw [Direction.both_nil, List.append_nil]
        rfl
      · rw [Direction.only_self]
        exact Pipe.delivered_pull front

/-- In every run without reconnection in which failed sockets stay silent and link
identifiers are left, the network is a set of independent pipes, two for each link. -/
theorem pipes_refined (zstd : Zstd) (lawful : zstd.Lawful) :
    (system zstd).Simulates (Permitted zstd) Pipes.system Represents where
  start := by
    intro ref peer direction known
    have blank : peer.Blank := by
      cases known with
      | joined _ _ ends => exact absurd ends.exists_ (Nat.not_lt_zero _)
      | alone _ _ blank => exact blank
    cases direction with
    | toClient => exact ⟨rfl, blank.written.symm⟩
    | toServer => exact ⟨blank.received.symm, rfl⟩
  step := by
    intro network pipes action next reachable represents permitted stepped
    have sound := sound_of_reachable lawful reachable
    have later := sound.step lawful permitted stepped
    have blank := blankLinks_of_reachable lawful reachable
    exact represents.step (sound.pipeFlow_of_step later blank stepped)
      fun ref peer direction known => later.front (blank.step sound stepped) known direction

/-- Both links are closed after bytes have gone both ways: a run of the pipes ends with
the same bytes. -/
theorem pipes_refined_clientClosed :
    ∃ (network : Network) (events : List (PipeEvent (LinkRef × Direction) UInt8))
      (pipes : LinkRef × Direction → Pipe UInt8),
      Pipes.system.run Pipes.system.start events = some pipes ∧ network.Represents pipes ∧
        (pipes (0, .toServer)).delivered = [8] := by
  have executed : ((system .runLength).runChecked
      (fun network action => network.Permitted .runLength action) .new clientClosed).any
      (fun network => (network.serverLink 0).writer.written = [8]) = true := by decide +kernel
  rcases TransitionSystem.exists_reaches_of_runChecked executed with ⟨network, reaches, found⟩
  have written := of_decide_eq_true found
  have reachable := reaches.mono fun _ _ passed => of_decide_eq_true passed
  rcases (pipes_refined .runLength Zstd.runLength_lawful).exists_run reachable with
    ⟨events, pipes, ran, represents⟩
  rcases network.exists_peer 0 with ⟨peer, known⟩
  exact ⟨network, events, pipes, ran, represents,
    (represents 0 peer .toServer known).delivered.trans written⟩

end Network

end IoGateway

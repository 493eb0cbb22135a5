import IoGateway.Server.Registry

/-! # Isolation of clients

What the frames of one client can do to the links that are not routed to it: those of
other clients, and those that have no route yet or no longer. The dispatch of
`client_exchange` looks a link up by its identifier alone; the routing table, which
says whose link it is, is not consulted.
-/

namespace IoGateway

/-- The exchange loop is at its head, or has left for the cleanup. -/
def ClientExchange.AtLoopHead : ClientExchange → Prop
  | .receive => True
  | .cleanup _ => True
  | _ => False

namespace GatewayServer

variable {zstd : Zstd} {ref : ConnectionRef} {addr : SocketAddr} {sessionId : Uuid}
variable {server after final : GatewayServer}

/-- The exchange loop, on its own, comes from a program point back to its head. -/
inductive Handles (zstd : Zstd) (ref : ConnectionRef) (addr : SocketAddr) (sessionId : Uuid) :
    GatewayServer → ClientExchange → GatewayServer → Prop
  | done {server : GatewayServer} {point : ClientExchange} (head : point.AtLoopHead) :
      Handles zstd ref addr sessionId server point server
  | step {server after final : GatewayServer} {point next : ClientExchange} {input : Input}
      (busy : ¬ point.AtLoopHead)
      (stepped : server.clientExchange zstd ref addr sessionId point input =
        some (after, .exchanging addr sessionId next))
      (rest : Handles zstd ref addr sessionId after next final) :
      Handles zstd ref addr sessionId server point final

/-- The loop receives a frame and processes it. -/
def Processes (zstd : Zstd) (ref : ConnectionRef) (addr : SocketAddr) (sessionId : Uuid)
    (server : GatewayServer) (packet : PacketGW) (data : Option Bytes)
    (final : GatewayServer) : Prop :=
  Handles zstd ref addr sessionId (server.updateSockets (server.sockets.receive ref (packet, data)))
    (dispatch packet data) final

/-- What can be observed of a link: its state, its statistics, the bytes written to its
application, and whether it is closed. -/
def LinkUntouched (before after : Link) : Prop :=
  after.state = before.state ∧ after.statistics = before.statistics ∧
    after.writer.written = before.writer.written ∧ after.writer.shut = before.writer.shut

theorem LinkUntouched.refl {link : Link} : LinkUntouched link link := ⟨rfl, rfl, rfl, rfl⟩

/-- All links that are not routed to the client keep their entries, their routes and
themselves. -/
structure Untouched (addr : SocketAddr) (before after : GatewayServer) : Prop where
  route : ∀ linkId, before.linkClients.lookup linkId ≠ some addr →
    after.linkClients.lookup linkId = before.linkClients.lookup linkId
  entry : ∀ linkId, before.linkClients.lookup linkId ≠ some addr →
    after.base.links.lookup linkId = before.base.links.lookup linkId
  link : ∀ linkId ref, before.linkClients.lookup linkId ≠ some addr →
    before.base.links.lookup linkId = some ref →
      LinkUntouched (before.base.link ref) (after.base.link ref)
  unregistered : ∀ ref, (∀ linkId, before.base.links.lookup linkId ≠ some ref) →
    LinkUntouched (before.base.link ref) (after.base.link ref)

/-- The frame names a link that is not routed to the client, and has an effect on it. -/
inductive Crosses (server : GatewayServer) (packet : PacketGW) (data : Option Bytes)
    (addr : SocketAddr) : Prop
  | remove (type : packet.packetType = .close ∨ packet.packetType = .openFail)
      (foreign : server.linkClients.lookup packet.linkId ≠ some addr)
      (known : server.linkClients.lookup packet.linkId ≠ none ∨
        server.base.links.lookup packet.linkId ≠ none)
  | opened {ref : LinkRef} (type : packet.packetType = .opened)
      (foreign : server.linkClients.lookup packet.linkId ≠ some addr)
      (entry : server.base.links.lookup packet.linkId = some ref)
      (changed : ¬ ((server.base.link ref).state = .connected ∧
        (server.base.link ref).statistics.bytesIn = 0 ∧
        (server.base.link ref).statistics.bytesOut = 0))
  | regular {ref : LinkRef} {payload : Bytes} (type : packet.packetType = .regular)
      (carried : data = some payload) (nonempty : payload ≠ [])
      (foreign : server.linkClients.lookup packet.linkId ≠ some addr)
      (entry : server.base.links.lookup packet.linkId = some ref)
      (connected : (server.base.link ref).state = .connected)
      (writable : (server.base.link ref).writer.dead = false)

/-! ## The steps of one frame -/

structure SameLinks (server after : GatewayServer) : Prop where
  routes : after.linkClients = server.linkClients
  links : after.base.links = server.base.links
  link : after.base.link = server.base.link

theorem SameLinks.untouched (same : SameLinks server after) (addr : SocketAddr) :
    Untouched addr server after where
  route := fun _ _ => by rw [same.routes]
  entry := fun _ _ => by rw [same.links]
  link := fun _ _ _ _ => by rw [same.link]; exact .refl
  unregistered := fun _ _ => by rw [same.link]; exact .refl

theorem Handles.eq_of_head {point : ClientExchange}
    (handled : Handles zstd ref addr sessionId server point final) (head : point.AtLoopHead) :
    final = server := by
  cases handled with
  | done => rfl
  | step busy => exact absurd head busy

/-- From a busy point the loop takes one step and goes on. -/
theorem Handles.step_of_busy {point : ClientExchange}
    (handled : Handles zstd ref addr sessionId server point final) (busy : ¬ point.AtLoopHead) :
    ∃ input after next, ClientExchangeStep zstd ref addr sessionId server point input after
        (.exchanging addr sessionId next) ∧
      Handles zstd ref addr sessionId after next final := by
  cases handled with
  | done head => exact absurd head busy
  | step _ stepped rest => exact ⟨_, _, _, clientExchangeStep_of_eq stepped, rest⟩

theorem sameLinks_of_pong (handled : Handles zstd ref addr sessionId server .pongId final) :
    SameLinks server final := by
  rcases handled.step_of_busy id with ⟨_, after, next, stepped, rest⟩
  cases stepped with
  | pongId =>
      rcases rest.step_of_busy id with ⟨_, replied, following, stepped, rest⟩
      cases stepped with
      | sendPong sent =>
          cases rest.eq_of_head trivial
          exact ⟨sent.linkClients, by rw [sent.base]; rfl, by rw [sent.base]; rfl⟩

/-- `remove_link` of one identifier changes that entry and its link only. -/
theorem removed_of_removing {linkId : UInt16}
    (handled : Handles zstd ref addr sessionId server (.removing (.route linkId)) final) :
    final.linkClients = server.linkClients.erase linkId ∧
      final.base.links = server.base.links.erase linkId ∧
      ∀ other, server.base.links.lookup linkId ≠ some other →
        final.base.link other = server.base.link other := by
  rcases handled.step_of_busy id with ⟨_, unrouted, next, stepped, rest⟩
  cases stepped with
  | removing removal =>
      cases removal with
      | route =>
          rcases rest.step_of_busy id with ⟨_, unlinked, following, stepped, rest⟩
          cases stepped with
          | removing removal =>
              cases removal with
              | @found _ removed found =>
                  rcases rest.step_of_busy id with ⟨_, closed, last, stepped, rest⟩
                  cases stepped with
                  | removing removal => cases removal
                  | removed removal =>
                      cases removal with
                      | close =>
                          cases rest.eq_of_head trivial
                          refine ⟨rfl, rfl, ?_⟩
                          intro other different
                          have apart : other ≠ removed := by
                            intro equal
                            subst equal
                            exact different found
                          simp [Gateway.updateLink, apart]
          | removed removal =>
              cases removal with
              | absent =>
                  cases rest.eq_of_head trivial
                  exact ⟨rfl, rfl, fun _ _ => rfl⟩
  | removed removal => cases removal

theorem updated_of_opened {linkId : UInt16}
    (handled : Handles zstd ref addr sessionId server (.openedLookup linkId) final) :
    final = server ∨ ∃ link, server.base.links.lookup linkId = some link ∧
      final = server.updateLink link (Link.setState · .connected) := by
  rcases handled.step_of_busy id with ⟨_, after, next, stepped, rest⟩
  cases stepped with
  | openedFound found =>
      rcases rest.step_of_busy id with ⟨_, updated, following, stepped, rest⟩
      cases stepped with
      | openedSet =>
          cases rest.eq_of_head trivial
          exact .inr ⟨_, found, rfl⟩
  | openedAbsent => exact .inl (rest.eq_of_head trivial)

theorem written_of_regular {linkId : UInt16} {payload : Bytes}
    (handled : Handles zstd ref addr sessionId server (.regularLookup linkId payload) final) :
    final = server ∨ ∃ link outcome written, server.base.links.lookup linkId = some link ∧
      (server.base.link link).sendPacket payload outcome = some written ∧
      final = server.updateLink link fun _ => written := by
  rcases handled.step_of_busy id with ⟨_, after, next, stepped, rest⟩
  cases stepped with
  | regularFound found =>
      rcases rest.step_of_busy id with ⟨_, updated, following, stepped, rest⟩
      cases stepped with
      | regularWrite sent =>
          cases rest.eq_of_head trivial
          exact .inr ⟨_, _, _, found, sent, rfl⟩
  | regularAbsent => exact .inl (rest.eq_of_head trivial)

/-! ## Frames that do not cross -/

def LinksKeyed (server : GatewayServer) : Prop :=
  ∀ linkId ref, server.base.links.lookup linkId = some ref →
    (server.base.link ref).connectionId = linkId

theorem untouched_of_updateLink {linkId : UInt16} {link : LinkRef} {update : Link → Link}
    (keyed : LinksKeyed server) (entry : server.base.links.lookup linkId = some link)
    (foreign : server.linkClients.lookup linkId ≠ some addr →
      LinkUntouched (server.base.link link) (update (server.base.link link))) :
    Untouched addr server (server.updateLink link update) where
  route := fun _ _ => rfl
  entry := fun _ _ => rfl
  link := by
    intro otherId other apart found
    by_cases equal : other = link
    · subst equal
      have same : otherId = linkId := by
        rw [← keyed otherId other found, keyed linkId other entry]
      subst same
      simpa [Gateway.updateLink] using foreign apart
    · simpa [Gateway.updateLink, equal] using LinkUntouched.refl
  unregistered := by
    intro other unregistered
    have apart : other ≠ link := by
      intro equal
      subst equal
      exact unregistered linkId entry
    simpa [Gateway.updateLink, apart] using LinkUntouched.refl

theorem sendPacket_untouched {link written : Link} {payload : Bytes} {outcome : WriteOutcome}
    (sent : link.sendPacket payload outcome = some written)
    (ineffective : link.state ≠ .connected ∨ payload = [] ∨ link.writer.dead = true) :
    LinkUntouched link written := by
  cases Link.sendPacketStep_of_eq sent with
  | dropped => exact .refl
  | sent connected alive =>
      have empty : payload = [] := by
        rcases ineffective with different | empty | dead
        · exact absurd connected different
        · exact empty
        · exact alive dead
      subst empty
      refine ⟨rfl, ?_, ?_, rfl⟩
      · simp [ConnectionStatistics.addBytesOut]
      · simp
  | @failed accepted connected partially dead =>
      have none : accepted = 0 := by
        rcases ineffective with different | empty | gone
        · exact absurd connected different
        · rw [empty] at partially
          exact absurd partially (Nat.not_lt_zero _)
        · exact dead gone
      exact ⟨rfl, rfl, by simp [none], rfl⟩

theorem setState_untouched {link : Link} (connected : link.state = .connected)
    (received : link.statistics.bytesIn = 0) (sent : link.statistics.bytesOut = 0) :
    LinkUntouched link (link.setState .connected) := by
  refine ⟨connected.symm, ?_, rfl, rfl⟩
  cases statistics : link.statistics with
  | mk packetsIn packetsOut bytesIn bytesOut =>
      simp_all [Link.setState]

theorem untouched_of_removing {linkId : UInt16} (keyed : LinksKeyed server)
    (removed : final.linkClients = server.linkClients.erase linkId ∧
      final.base.links = server.base.links.erase linkId ∧
      ∀ other, server.base.links.lookup linkId ≠ some other →
        final.base.link other = server.base.link other)
    (own : server.linkClients.lookup linkId ≠ some addr →
      server.linkClients.lookup linkId = none ∧ server.base.links.lookup linkId = none) :
    Untouched addr server final := by
  rcases removed with ⟨routes, links, link⟩
  constructor
  · intro key foreign
    rw [routes]
    by_cases equal : key = linkId
    · subst equal
      rw [Finmap.lookup_erase, (own foreign).1]
    · exact Finmap.lookup_erase_ne equal
  · intro key foreign
    rw [links]
    by_cases equal : key = linkId
    · subst equal
      rw [Finmap.lookup_erase, (own foreign).2]
    · exact Finmap.lookup_erase_ne equal
  · intro key ref foreign found
    rw [link ref]
    · exact .refl
    · intro entry
      have same : key = linkId := by rw [← keyed key ref found, keyed linkId ref entry]
      subst same
      rw [(own foreign).2] at found
      cases found
  · intro ref unregistered
    rw [link ref (unregistered linkId)]
    exact .refl

theorem own_of_not_crosses {packet : PacketGW} {data : Option Bytes}
    (apart : ¬ Crosses server packet data addr)
    (type : packet.packetType = .close ∨ packet.packetType = .openFail)
    (foreign : server.linkClients.lookup packet.linkId ≠ some addr) :
    server.linkClients.lookup packet.linkId = none ∧
      server.base.links.lookup packet.linkId = none := by
  by_contra known
  exact apart (.remove type foreign (not_and_or.mp known))

theorem untouched_of_handles {packet : PacketGW} {data : Option Bytes} (keyed : LinksKeyed server)
    (handled : Handles zstd ref addr sessionId server (dispatch packet data) final)
    (apart : ¬ Crosses server packet data addr) : Untouched addr server final := by
  have unchanged : Untouched addr server server := SameLinks.untouched ⟨rfl, rfl, rfl⟩ addr
  unfold dispatch at handled
  cases type : packet.packetType with
  | ping =>
      simp only [type] at handled
      exact (sameLinks_of_pong handled).untouched addr
  | regular =>
      simp only [type] at handled
      cases data with
      | none =>
          rw [handled.eq_of_head trivial]
          exact unchanged
      | some payload =>
          rcases written_of_regular handled with same | ⟨link, outcome, written, entry, sent, equal⟩
          · rw [same]
            exact unchanged
          · rw [equal]
            apply untouched_of_updateLink keyed entry
            intro foreign
            apply sendPacket_untouched sent
            by_contra effective
            rw [not_or, not_or] at effective
            exact apart (.regular type rfl effective.2.1 foreign entry
              (not_not.mp effective.1) (Bool.eq_false_iff.mpr effective.2.2))
  | opened =>
      simp only [type] at handled
      rcases updated_of_opened handled with same | ⟨link, entry, equal⟩
      · rw [same]
        exact unchanged
      · rw [equal]
        apply untouched_of_updateLink keyed entry
        intro foreign
        by_contra changed
        apply apart
        refine .opened type foreign entry fun same => changed ?_
        exact setState_untouched same.1 same.2.1 same.2.2
  | openFail =>
      simp only [type] at handled
      exact untouched_of_removing keyed (removed_of_removing handled)
        (own_of_not_crosses apart (.inr type))
  | close =>
      simp only [type] at handled
      exact untouched_of_removing keyed (removed_of_removing handled)
        (own_of_not_crosses apart (.inl type))
  | _ =>
      simp only [type] at handled
      rw [handled.eq_of_head trivial]
      exact unchanged

/-! ## Frames that cross -/

theorem Handles.received : Handles zstd ref addr sessionId server .receive server :=
  .done trivial

section

variable (zstd ref addr sessionId server)

theorem exists_removed (linkId : UInt16) :
    ∃ final, Handles zstd ref addr sessionId server (.removing (.route linkId)) final := by
  have unrouted : server.clientExchange zstd ref addr sessionId (.removing (.route linkId)) .go =
      some ({ server with linkClients := server.linkClients.erase linkId },
        .exchanging addr sessionId (.removing (.link linkId))) := rfl
  cases found : server.base.links.lookup linkId with
  | none =>
      have unlinked : ({ server with
          linkClients := server.linkClients.erase linkId } : GatewayServer).clientExchange zstd ref
            addr sessionId (.removing (.link linkId)) .go =
          some ({ server with
            linkClients := server.linkClients.erase linkId
            base := { server.base with links := server.base.links.erase linkId } },
            .exchanging addr sessionId .receive) := by
        simp [clientExchange, removeLink, Gateway.removeLink, updateBase, found]
      exact ⟨_, .step id unrouted (.step id unlinked .received)⟩
  | some link =>
      have unlinked : ({ server with
          linkClients := server.linkClients.erase linkId } : GatewayServer).clientExchange zstd ref
            addr sessionId (.removing (.link linkId)) .go =
          some ({ server with
            linkClients := server.linkClients.erase linkId
            base := { server.base with links := server.base.links.erase linkId } },
            .exchanging addr sessionId (.removing (.close link))) := by
        simp [clientExchange, removeLink, Gateway.removeLink, updateBase, found]
      have closed (unlinked : GatewayServer) :
          unlinked.clientExchange zstd ref addr sessionId (.removing (.close link)) .go =
            some (unlinked.updateLink link Link.closeConnection,
              .exchanging addr sessionId .receive) := rfl
      exact ⟨_, .step id unrouted (.step id unlinked
        (.step id (closed _) .received))⟩

theorem exists_opened {linkId : UInt16} {link : LinkRef}
    (entry : server.base.links.lookup linkId = some link) :
    Handles zstd ref addr sessionId server (.openedLookup linkId)
      (server.updateLink link (Link.setState · .connected)) := by
  have looked : server.clientExchange zstd ref addr sessionId (.openedLookup linkId) .go =
      some (server, .exchanging addr sessionId (.openedSet link)) := by
    simp [clientExchange, entry]
  have updated : server.clientExchange zstd ref addr sessionId (.openedSet link) .go =
      some (server.updateLink link (Link.setState · .connected),
        .exchanging addr sessionId .receive) := rfl
  exact .step id looked (.step id updated .received)

theorem exists_written {linkId : UInt16} {link : LinkRef} (payload : Bytes)
    (entry : server.base.links.lookup linkId = some link)
    (connected : (server.base.link link).state = .connected)
    (writable : (server.base.link link).writer.dead = false) :
    ∃ written, written.writer.written = (server.base.link link).writer.written ++ payload ∧
      Handles zstd ref addr sessionId server (.regularLookup linkId payload)
        (server.updateLink link fun _ => written) := by
  rcases Link.exists_sent payload connected writable with ⟨written, sent, grown⟩
  have looked : server.clientExchange zstd ref addr sessionId (.regularLookup linkId payload)
      .go = some (server, .exchanging addr sessionId (.regularWrite link payload)) := by
    simp [clientExchange, entry]
  have wrote : server.clientExchange zstd ref addr sessionId (.regularWrite link payload)
      (.write .ok) = some (server.updateLink link fun _ => written,
        .exchanging addr sessionId .receive) := by
    simp [clientExchange, sent]
  exact ⟨written, grown, .step id looked (.step id wrote .received)⟩

theorem exists_touched_of_crosses {packet : PacketGW} {data : Option Bytes}
    (crosses : Crosses server packet data addr) :
    ∃ final, Handles zstd ref addr sessionId server (dispatch packet data) final ∧
      ¬ Untouched addr server final := by
  cases crosses with
  | remove type foreign known =>
      have point : dispatch packet data = .removing (.route packet.linkId) := by
        rcases type with type | type <;> simp [dispatch, type]
      rcases exists_removed zstd ref addr sessionId server packet.linkId with ⟨final, handled⟩
      refine ⟨final, point ▸ handled, ?_⟩
      intro untouched
      have route := untouched.route packet.linkId foreign
      have entry := untouched.entry packet.linkId foreign
      rw [(removed_of_removing handled).1, Finmap.lookup_erase] at route
      rw [(removed_of_removing handled).2.1, Finmap.lookup_erase] at entry
      rcases known with routed | registered
      · exact routed route.symm
      · exact registered entry.symm
  | @opened link type foreign entry changed =>
      have point : dispatch packet data = .openedLookup packet.linkId := by
        simp [dispatch, type]
      refine ⟨_, point ▸ exists_opened zstd ref addr sessionId server entry, ?_⟩
      intro untouched
      apply changed
      have kept := untouched.link packet.linkId link foreign entry
      simp only [updateLink, Gateway.updateLink, updateBase, Function.update_self,
        LinkUntouched, Link.setState] at kept
      rcases kept with ⟨state, statistics, _⟩
      exact ⟨state.symm, by rw [← statistics], by rw [← statistics]⟩
  | @regular link payload type carried nonempty foreign entry connected writable =>
      have point : dispatch packet data = .regularLookup packet.linkId payload := by
        simp [dispatch, type, carried]
      rcases exists_written zstd ref addr sessionId server payload entry connected writable
        with ⟨written, grown, handled⟩
      refine ⟨_, point ▸ handled, ?_⟩
      intro untouched
      have kept := (untouched.link packet.linkId link foreign entry).2.2.1
      simp only [updateLink, Gateway.updateLink, updateBase, Function.update_self, grown] at kept
      exact nonempty (List.append_right_eq_self.mp kept)

end

theorem untouched_updateSockets_iff (sockets : GatewaySockets) :
    Untouched addr (server.updateSockets sockets) final ↔ Untouched addr server final :=
  ⟨fun untouched => ⟨untouched.route, untouched.entry, untouched.link, untouched.unregistered⟩,
    fun untouched => ⟨untouched.route, untouched.entry, untouched.link, untouched.unregistered⟩⟩

theorem crosses_updateSockets_iff {packet : PacketGW} {data : Option Bytes}
    (sockets : GatewaySockets) :
    Crosses (server.updateSockets sockets) packet data addr ↔ Crosses server packet data addr := by
  constructor <;> intro crosses <;> cases crosses with
  | remove type foreign known => exact .remove type foreign known
  | opened type foreign entry changed => exact .opened type foreign entry changed
  | regular type carried nonempty foreign entry connected writable =>
      exact .regular type carried nonempty foreign entry connected writable

theorem exists_processes_of_crosses (zstd : Zstd) (ref : ConnectionRef) (sessionId : Uuid)
    {packet : PacketGW} {data : Option Bytes} (crosses : Crosses server packet data addr) :
    ∃ final, Processes zstd ref addr sessionId server packet data final ∧
      ¬ Untouched addr server final := by
  rcases exists_touched_of_crosses zstd ref addr sessionId _
    ((crosses_updateSockets_iff (server.sockets.receive ref (packet, data))).mpr crosses) with
    ⟨final, handled, touched⟩
  exact ⟨final, handled, fun untouched => touched ((untouched_updateSockets_iff _).mpr untouched)⟩

end GatewayServer

namespace Server

theorem linksKeyed_of_reachable {zstd : Zstd} {server : Server}
    (reachable : (system zstd).Reachable server) : server.shared.LinksKeyed :=
  (registered_of_reachable reachable).key

/-- The frames that a client sends leave all links that are not routed to it untouched
exactly when they do not name such a link in one of the ways that have an effect, in
every reachable state and for every frame. -/
theorem untouched_iff_not_crosses (zstd : Zstd) (server : Server) (ref : ConnectionRef)
    (addr : SocketAddr) (sessionId : Uuid) (packet : PacketGW) (data : Option Bytes)
    (reachable : (system zstd).Reachable server) :
    (∀ final, server.shared.Processes zstd ref addr sessionId packet data final →
        GatewayServer.Untouched addr server.shared final) ↔
      ¬ server.shared.Crosses packet data addr := by
  have keyed := linksKeyed_of_reachable reachable
  constructor
  · intro isolated crosses
    rcases GatewayServer.exists_processes_of_crosses zstd ref sessionId crosses with
      ⟨final, processed, touched⟩
    exact touched (isolated final processed)
  · intro apart final processed
    apply (GatewayServer.untouched_updateSockets_iff
      (server.shared.sockets.receive ref (packet, data))).mp
    exact GatewayServer.untouched_of_handles keyed processed
      fun crosses => apart ((GatewayServer.crosses_updateSockets_iff _).mp crosses)

def otherClient : SocketAddr := ⟨.v4 0x7f000001, 9001⟩

/-- Two clients connect, and an application that is assigned to the second. -/
def twoClients : List ServerAction :=
  [.acceptGateway localClient, .gateway 0 .go, .gateway 0 .go, .gateway 0 (.verdict true),
    .gateway 0 .go, .gateway 0 (.session 7), .gateway 0 .go,
    .acceptGateway otherClient, .gateway 1 .go, .gateway 1 .go, .gateway 1 (.verdict true),
    .gateway 1 .go, .gateway 1 (.session 8), .gateway 1 .go,
    .acceptApp, .app 0 .go, .app 0 (.client otherClient), .app 0 .go, .app 0 .go, .app 0 .go,
    .app 0 (.write .ok), .app 0 .go]

theorem exists_twoClients :
    ∃ server, (system .runLength).Reachable server ∧
      server.gateway 0 = .exchanging localClient 7 .receive ∧
      server.shared.linkClients.lookup 1 = some otherClient := by
  have executed : ((system .runLength).runChecked (fun _ _ => true) .new twoClients).any
      (fun server => server.gateway 0 = .exchanging localClient 7 .receive ∧
        server.shared.linkClients.lookup 1 = some otherClient) = true := by decide +kernel
  rcases TransitionSystem.exists_reaches_of_runChecked executed with ⟨server, reaches, found⟩
  exact ⟨server, reaches.always, of_decide_eq_true found⟩

/-- A ping of the first client does not touch the links of the second. -/
theorem untouched_iff_not_crosses_ping :
    ∃ server : Server, server.shared.linkClients.lookup 1 = some otherClient ∧
      ∀ final, server.shared.Processes .runLength 0 localClient 7 (PacketGW.new .ping 1 0 0) none
        final → GatewayServer.Untouched localClient server.shared final := by
  rcases exists_twoClients with ⟨server, reachable, _, route⟩
  refine ⟨server, route, (untouched_iff_not_crosses .runLength server 0 localClient 7
    (PacketGW.new .ping 1 0 0) none reachable).mpr ?_⟩
  intro crosses
  cases crosses with
  | remove type => rcases type with type | type <;> cases type
  | opened type => cases type
  | regular type => cases type

/-- A `Close` of the first client removes a link of the second. -/
theorem close_crosses_clients :
    ¬ ∀ (server : Server) (ref : ConnectionRef) (addr owner : SocketAddr) (sessionId : Uuid)
        (packet : PacketGW) (data : Option Bytes) (final : GatewayServer) (linkId : UInt16),
      (system .runLength).Reachable server →
      server.gateway ref = .exchanging addr sessionId .receive → owner ≠ addr →
      server.shared.Processes .runLength ref addr sessionId packet data final →
      server.shared.linkClients.lookup linkId = some owner →
        final.linkClients.lookup linkId = some owner := by
  intro isolated
  rcases exists_twoClients with ⟨server, reachable, receiving, route⟩
  rcases GatewayServer.exists_removed .runLength 0 localClient 7
    (server.shared.updateSockets
      (server.shared.sockets.receive 0 (PacketGW.new .close 1 1 0, none))) 1 with ⟨final, handled⟩
  have kept := isolated server 0 localClient otherClient 7 (PacketGW.new .close 1 1 0) none final 1
    reachable receiving (by decide) handled route
  rw [(GatewayServer.removed_of_removing handled).1, Finmap.lookup_erase] at kept
  cases kept

end Server

end IoGateway

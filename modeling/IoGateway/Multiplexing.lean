import IoGateway.Client.Multiplexing
import IoGateway.Server.Multiplexing

/-! # Multiplexing of links

Packets about other links can be deleted from what either dispatch loop reads
without a trace in what there is under one link identifier.
-/

namespace IoGateway

/-- For the dispatch loop of `client_exchange` and for that of `gateway_exchange`:
two runs from one state, the second without the packets about other links, end with
the same registry entry, the same route and the same links under the identifier. -/
theorem noninterference (zstd : Zstd) (linkId : UInt16) (deliveries : List Delivery) :
    (∀ connection addr sessionId (server first second : GatewayServer), server.LinksKeyed →
      (GatewayServer.dispatcher zstd connection addr sessionId).Runs server deliveries first →
      (GatewayServer.dispatcher zstd connection addr sessionId).Runs server
        (deliveries.filter (Delivery.concerns linkId)) second →
      first.view linkId = second.view linkId) ∧
    ∀ connection (client first second : Client), client.LinksKeyed →
      (Client.dispatcher zstd connection).Runs client deliveries first →
      (Client.dispatcher zstd connection).Runs client
        (deliveries.filter (Delivery.concerns linkId)) second →
      first.view linkId = second.view linkId := by
  constructor
  · intro connection addr sessionId server first second keyed all own
    exact (GatewayServer.unwinding zstd connection addr sessionId linkId).view_eq_of_runs all own
      keyed keyed rfl
  · intro connection client first second keyed all own
    exact (Client.unwinding zstd connection linkId).view_eq_of_runs all own keyed keyed rfl

/-! ## Closing one of two links -/

theorem GatewayServer.serves_close {zstd : Zstd} {connection : ConnectionRef}
    {addr : SocketAddr} {sessionId : Uuid} {delivery : Delivery} {server : GatewayServer}
    {key : UInt16} {ref : LinkRef} (found : server.base.links.lookup key = some ref) :
    Serves zstd connection addr sessionId delivery server (.removing (.route key))
      ((server.updateLink ref Link.closeConnection).forget key) := by
  have unrouted : server.clientExchange zstd connection addr sessionId (.removing (.route key))
      .go =
      some ({ server with linkClients := server.linkClients.erase key },
        .exchanging addr sessionId (.removing (.link key))) := rfl
  have unlinked : ({ server with linkClients := server.linkClients.erase key }).clientExchange zstd
      connection addr sessionId (.removing (.link key)) .go =
        some (server.forget key, .exchanging addr sessionId (.removing (.close ref))) := by
    simp [clientExchange, removeLink, Gateway.removeLink, found, forget]
  have closed : (server.forget key).clientExchange zstd connection addr sessionId
      (.removing (.close ref)) .go =
        some ((server.updateLink ref Link.closeConnection).forget key,
          .exchanging addr sessionId .receive) := rfl
  exact .step id trivial unrouted
    (.step id trivial unlinked (.step id trivial closed (.done trivial)))

theorem Client.exists_handles_close (zstd : Zstd) {connection : ConnectionRef}
    {delivery : Delivery} {client : Client} {ref : LinkRef}
    (type : delivery.packet.packetType = .close)
    (running : client.run = .onConnection connection (.exchanging .receive))
    (found : client.shared.base.links.lookup delivery.packet.linkId = some ref) :
    ∃ final, (dispatcher zstd connection).handles client delivery final ∧
      final.run = .onConnection connection (.exchanging .receive) ∧
      final.shared.base.links = client.shared.base.links.erase delivery.packet.linkId := by
  let received := client.exchange connection
    (client.shared.updateSockets
      (client.shared.sockets.receive connection (delivery.packet, delivery.data)))
    (.removeLink delivery.packet.linkId)
  let erased := received.exchange connection
    (received.shared.updateBase
      { client.shared.base with
        links := client.shared.base.links.erase delivery.packet.linkId })
    (.closeLink ref)
  have dispatched : client.gatewayExchange zstd connection .receive
      (.frame delivery.packet delivery.data) = some received := by
    simp [gatewayExchange, GatewayClient.dispatch, type, received]
  have removed : received.gatewayExchange zstd connection (.removeLink delivery.packet.linkId) .go =
      some erased := by
    simp [gatewayExchange, Gateway.removeLink, found, erased, received]
  have closed : erased.gatewayExchange zstd connection (.closeLink ref) .go =
      some (erased.exchange connection (erased.shared.updateLink ref Link.closeConnection)
        .receive) := rfl
  refine ⟨_, ⟨running, received, dispatched, .step rfl (by simp) trivial removed
    (.step rfl (by simp) trivial closed (.done ?_))⟩, rfl, rfl⟩
  intro point again
  cases again
  rfl

def twoLinks : Gateway :=
  { Gateway.new with
    links := Finmap.insert 1 0 (Finmap.insert 2 1 ∅)
    link := fun ref => if ref = 0 then Link.new 1 else Link.new 2 }

theorem twoLinks_lookup {linkId : UInt16} {ref : LinkRef}
    (found : twoLinks.links.lookup linkId = some ref) :
    ref < 2 ∧ (twoLinks.link ref).connectionId = linkId := by
  simp only [twoLinks, FiniteMap.lookup_insert] at found
  split at found
  · rename_i equal
    cases found
    exact ⟨by decide, equal.symm⟩
  · split at found
    · rename_i equal
      cases found
      exact ⟨by decide, equal.symm⟩
    · cases found

def twoLinksServer : GatewayServer := { GatewayServer.new with base := twoLinks }

def twoLinksClient : Client :=
  { Client.new with
    shared := { GatewayClient.new with base := twoLinks }
    run := .onConnection 0 (.exchanging .receive)
    linkCount := 2
    connectionCount := 1 }

def closeOther : Delivery := ⟨PacketGW.new .close 1 2 0, none, true, .ok⟩

def closeOwn : Delivery := ⟨PacketGW.new .close 2 1 0, none, true, .ok⟩

theorem exists_serverRuns : ∃ first second,
    (GatewayServer.dispatcher .runLength 0 localClient 7).Runs twoLinksServer
      [closeOther, closeOwn] first ∧
    (GatewayServer.dispatcher .runLength 0 localClient 7).Runs twoLinksServer
      [closeOwn] second :=
  ⟨_, _, .step rfl (GatewayServer.serves_close rfl)
      (.step rfl (GatewayServer.serves_close rfl) .done),
    .step rfl (GatewayServer.serves_close rfl) .done⟩

theorem exists_clientRuns : ∃ first second,
    (Client.dispatcher .runLength 0).Runs twoLinksClient [closeOther, closeOwn] first ∧
    (Client.dispatcher .runLength 0).Runs twoLinksClient [closeOwn] second := by
  have other : twoLinksClient.shared.base.links.lookup closeOther.packet.linkId = some 1 := rfl
  have own : twoLinksClient.shared.base.links.lookup closeOwn.packet.linkId = some 0 := rfl
  rcases Client.exists_handles_close .runLength rfl rfl other with
    ⟨closed, handledOther, running, links⟩
  have left : closed.shared.base.links.lookup closeOwn.packet.linkId = some 0 := by
    rw [links]
    rfl
  rcases Client.exists_handles_close .runLength rfl running left with ⟨final, handledLast, _⟩
  rcases Client.exists_handles_close .runLength rfl rfl own with ⟨last, handledOwn, _⟩
  exact ⟨final, last, .step rfl handledOther (.step rfl handledLast .done),
    .step rfl handledOwn .done⟩

theorem noninterference_closed :
    (∃ first second,
      (GatewayServer.dispatcher .runLength 0 localClient 7).Runs twoLinksServer
        [closeOther, closeOwn] first ∧
      (GatewayServer.dispatcher .runLength 0 localClient 7).Runs twoLinksServer
        [closeOwn] second ∧ first.view 1 = second.view 1) ∧
    ∃ first second,
      (Client.dispatcher .runLength 0).Runs twoLinksClient [closeOther, closeOwn] first ∧
      (Client.dispatcher .runLength 0).Runs twoLinksClient [closeOwn] second ∧
      first.view 1 = second.view 1 := by
  have both := noninterference .runLength 1 [closeOther, closeOwn]
  constructor
  · rcases exists_serverRuns with ⟨first, second, all, own⟩
    have keyed : twoLinksServer.LinksKeyed := fun _ _ found => (twoLinks_lookup found).2
    exact ⟨first, second, all, own,
      both.1 0 localClient 7 twoLinksServer first second keyed all own⟩
  · rcases exists_clientRuns with ⟨first, second, all, own⟩
    have keyed : twoLinksClient.LinksKeyed :=
      ⟨fun _ _ found => (twoLinks_lookup found).2, fun _ _ found => (twoLinks_lookup found).1⟩
    exact ⟨first, second, all, own, both.2 0 twoLinksClient first second keyed all own⟩

end IoGateway

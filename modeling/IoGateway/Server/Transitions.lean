import IoGateway.Server.Step

/-! # What a step of a server task can do

Inversion of the step functions: one constructor for each statement of the
source, with the tables and the program point after it. Invariants are proved
by cases on these relations.
-/

namespace IoGateway

namespace GatewayServer

attribute [simp] updateBase updateLink updateSockets

/-- A completed call of `send_gw_packet`, successful or not. -/
def Sent (zstd : Zstd) (server : GatewayServer) (writer : ConnectionRef) (call : SendCall)
    (outcome : WriteOutcome) (after : GatewayServer) : Prop :=
  ∃ sockets, server.sockets.send zstd writer call outcome = some sockets ∧
    after = server.updateSockets sockets

theorem send_eq_some {zstd : Zstd} {server after : GatewayServer} {writer : ConnectionRef}
    {call : SendCall} {outcome : WriteOutcome} :
    server.send zstd writer call outcome = some after ↔
      server.Sent zstd writer call outcome after := by
  simp [send, Sent, eq_comm]

theorem Sent.base {zstd : Zstd} {server after : GatewayServer} {writer : ConnectionRef}
    {call : SendCall} {outcome : WriteOutcome}
    (sent : server.Sent zstd writer call outcome after) : after.base = server.base := by
  rcases sent with ⟨half, _, rfl⟩
  rfl

theorem Sent.linkClients {zstd : Zstd} {server after : GatewayServer} {writer : ConnectionRef}
    {call : SendCall} {outcome : WriteOutcome}
    (sent : server.Sent zstd writer call outcome after) :
    after.linkClients = server.linkClients := by
  rcases sent with ⟨half, _, rfl⟩
  rfl

inductive HandleAppStep (zstd : Zstd) (ref : LinkRef) (server : GatewayServer) :
    HandleAppConnection → Input → GatewayServer → AppTask → Prop
  | nextLinkId :
      HandleAppStep zstd ref server .nextLinkId .go (server.updateBase server.base.nextLinkId.2)
        (.handling (.pickClient server.base.nextLinkId.1))
  | pickClient {linkId : UInt16} {addr : SocketAddr} {session : ClientSession}
      (found : server.clientSessions.lookup addr = some session) :
      HandleAppStep zstd ref server (.pickClient linkId) (.client addr) server
        (.handling (.addLink linkId session.writer session.addr))
  | noClient {linkId : UInt16} (none : server.clientSessions = ∅) :
      HandleAppStep zstd ref server (.pickClient linkId) .go server (.handling (.reject linkId))
  | reject {linkId : UInt16} :
      HandleAppStep zstd ref server (.reject linkId) .go
        (server.updateLink ref fun link => { link with writer := link.writer.shutdown })
        .finished
  | addLink {linkId : UInt16} {writer : ConnectionRef} {addr : SocketAddr} :
      HandleAppStep zstd ref server (.addLink linkId writer addr) .go
        (server.updateBase
          { server.base with
            links := server.base.links.insert linkId ref
            link := Function.update server.base.link ref (Link.new linkId) })
        (.handling (.insertRoute linkId writer addr))
  | insertRoute {linkId : UInt16} {writer : ConnectionRef} {addr : SocketAddr} :
      HandleAppStep zstd ref server (.insertRoute linkId writer addr) .go
        { server with linkClients := server.linkClients.insert linkId addr }
        (.handling (.openId linkId writer))
  | openId {linkId : UInt16} {writer : ConnectionRef} :
      HandleAppStep zstd ref server (.openId linkId writer) .go
        (server.updateBase server.base.nextPacketId.2)
        (.handling (.sendOpen linkId writer server.base.nextPacketId.1))
  | sendOpen {linkId : UInt16} {writer : ConnectionRef} {packetId : UInt64}
      {outcome : WriteOutcome} {after : GatewayServer}
      (sent : server.Sent zstd writer (PacketGW.new .open_ packetId linkId 0, none) outcome
        after) :
      HandleAppStep zstd ref server (.sendOpen linkId writer packetId) (.write outcome) after
        (.handling (.setWaiting linkId writer))
  | setWaiting {linkId : UInt16} {writer : ConnectionRef} :
      HandleAppStep zstd ref server (.setWaiting linkId writer) .go
        (server.updateLink ref (Link.setState · .waiting)) (.exchanging linkId writer .read)

inductive RemoveLinkStep (server : GatewayServer) :
    RemoveLink → GatewayServer → Option RemoveLink → Prop
  | route {linkId : UInt16} :
      RemoveLinkStep server (.route linkId)
        { server with linkClients := server.linkClients.erase linkId } (some (.link linkId))
  | found {linkId : UInt16} {ref : LinkRef} (found : server.base.links.lookup linkId = some ref) :
      RemoveLinkStep server (.link linkId)
        (server.updateBase { server.base with links := server.base.links.erase linkId })
        (some (.close ref))
  | absent {linkId : UInt16} (absent : server.base.links.lookup linkId = none) :
      RemoveLinkStep server (.link linkId)
        (server.updateBase { server.base with links := server.base.links.erase linkId }) none
  | close {ref : LinkRef} :
      RemoveLinkStep server (.close ref) (server.updateLink ref Link.closeConnection) none

inductive AppExchangeStep (zstd : Zstd) (ref : LinkRef) (linkId : UInt16)
    (writer : ConnectionRef) (server : GatewayServer) :
    AppExchange → Input → GatewayServer → AppTask → Prop
  | read {bytes : Bytes} (size : 1 ≤ bytes.length ∧ bytes.length ≤ bufferSize) :
      AppExchangeStep zstd ref linkId writer server .read (.chunk bytes)
        (server.updateLink ref (Link.receive · bytes))
        (.exchanging linkId writer (.addIncoming bytes))
  | ended :
      AppExchangeStep zstd ref linkId writer server .read .ended server
        (.exchanging linkId writer .closeId)
  | addIncoming {bytes : Bytes} :
      AppExchangeStep zstd ref linkId writer server (.addIncoming bytes) .go
        (server.updateLink ref (Link.addIncoming · (UInt64.ofNat bytes.length)))
        (.exchanging linkId writer (.regularId bytes))
  | regularId {bytes : Bytes} :
      AppExchangeStep zstd ref linkId writer server (.regularId bytes) .go
        (server.updateBase server.base.nextPacketId.2)
        (.exchanging linkId writer (.sendRegular bytes server.base.nextPacketId.1))
  | sendRegular {bytes : Bytes} {packetId : UInt64} {after : GatewayServer}
      (sent : server.Sent zstd writer
        (PacketGW.new .regular packetId linkId (UInt16.ofNat bytes.length), some bytes) .ok
        after) :
      AppExchangeStep zstd ref linkId writer server (.sendRegular bytes packetId) (.write .ok)
        after (.exchanging linkId writer .read)
  | sendFailed {bytes : Bytes} {packetId : UInt64} {accepted : Nat} {after : GatewayServer}
      (sent : server.Sent zstd writer
        (PacketGW.new .regular packetId linkId (UInt16.ofNat bytes.length), some bytes)
        (.failed accepted) after) :
      AppExchangeStep zstd ref linkId writer server (.sendRegular bytes packetId)
        (.write (.failed accepted)) after (.exchanging linkId writer .closeId)
  | closeId :
      AppExchangeStep zstd ref linkId writer server .closeId .go
        (server.updateBase server.base.nextPacketId.2)
        (.exchanging linkId writer (.sendClose server.base.nextPacketId.1))
  | sendClose {packetId : UInt64} {outcome : WriteOutcome} {after : GatewayServer}
      (sent : server.Sent zstd writer (PacketGW.new .close packetId linkId 0, none) outcome
        after) :
      AppExchangeStep zstd ref linkId writer server (.sendClose packetId) (.write outcome) after
        (.exchanging linkId writer (.removing (.route linkId)))
  | removing {point next : RemoveLink} {after : GatewayServer}
      (removal : RemoveLinkStep server point after (some next)) :
      AppExchangeStep zstd ref linkId writer server (.removing point) .go after
        (.exchanging linkId writer (.removing next))
  | removed {point : RemoveLink} {after : GatewayServer}
      (removal : RemoveLinkStep server point after none) :
      AppExchangeStep zstd ref linkId writer server (.removing point) .go after .finished

inductive AppStep (zstd : Zstd) (ref : LinkRef) (server : GatewayServer) :
    AppTask → Input → GatewayServer → AppTask → Prop
  | handling {point : HandleAppConnection} {input : Input} {after : GatewayServer}
      {next : AppTask} (stepped : HandleAppStep zstd ref server point input after next) :
      AppStep zstd ref server (.handling point) input after next
  | exchanging {linkId : UInt16} {writer : ConnectionRef} {point : AppExchange}
      {input : Input} {after : GatewayServer} {next : AppTask}
      (stepped : AppExchangeStep zstd ref linkId writer server point input after next) :
      AppStep zstd ref server (.exchanging linkId writer point) input after next

inductive HandleGatewayStep (ref : ConnectionRef) (addr : SocketAddr) (server : GatewayServer) :
    HandleGatewayConnection → Input → GatewayServer → GatewayTask → Prop
  | evict {old : ClientSession} (found : server.clientSessions.lookup addr = some old) :
      HandleGatewayStep ref addr server .evict .go
        { server with
          clientSessions := server.clientSessions.erase addr
          sockets := server.sockets.updateWriter old.writer GatewayWriter.shutdown }
        (.handling addr .challengeId)
  | evictNone (absent : server.clientSessions.lookup addr = none) :
      HandleGatewayStep ref addr server .evict .go
        { server with clientSessions := server.clientSessions.erase addr }
        (.handling addr .challengeId)
  | challengeId :
      HandleGatewayStep ref addr server .challengeId .go
        (server.updateBase server.base.nextPacketId.2) (.handling addr .authenticate)
  | accept :
      HandleGatewayStep ref addr server .authenticate (.verdict true) server
        (.handling addr .setConnected)
  | deny :
      HandleGatewayStep ref addr server .authenticate (.verdict false) server .rejected
  | setConnected :
      HandleGatewayStep ref addr server .setConnected .go
        (server.updateBase { server.base with state := .connected })
        (.handling addr .saveSession)
  | saveSession {sessionId : Uuid} :
      HandleGatewayStep ref addr server .saveSession (.session sessionId)
        { server with sessionStore := server.sessionStore.insert sessionId [] }
        (.handling addr (.insertSession sessionId))
  | insertSession {sessionId : Uuid} :
      HandleGatewayStep ref addr server (.insertSession sessionId) .go
        { server with
          clientSessions := server.clientSessions.insert addr
            { writer := ref, addr := addr, sessionId := sessionId } }
        (.exchanging addr sessionId .receive)

inductive CleanupStep (addr : SocketAddr) (sessionId : Uuid) (server : GatewayServer) :
    CleanupClient → Input → GatewayServer → Option CleanupClient → Prop
  | routes :
      CleanupStep addr sessionId server .routes .go
        { server with
          linkClients := FiniteMap.filter (fun _ owner => owner ≠ addr) server.linkClients }
        (some (.links (server.ownedLinks addr)))
  | link {remaining : Finset UInt16} {linkId : UInt16} {ref : LinkRef}
      (member : linkId ∈ remaining) (found : server.base.links.lookup linkId = some ref) :
      CleanupStep addr sessionId server (.links remaining) (.link linkId)
        (server.updateBase { server.base with links := server.base.links.erase linkId })
        (some (.close ref (remaining.erase linkId)))
  | noLink {remaining : Finset UInt16} {linkId : UInt16}
      (member : linkId ∈ remaining) (absent : server.base.links.lookup linkId = none) :
      CleanupStep addr sessionId server (.links remaining) (.link linkId)
        (server.updateBase { server.base with links := server.base.links.erase linkId })
        (some (.links (remaining.erase linkId)))
  | linksDone : CleanupStep addr sessionId server (.links ∅) .go server (some .session)
  | close {ref : LinkRef} {remaining : Finset UInt16} :
      CleanupStep addr sessionId server (.close ref remaining) .go
        (server.updateLink ref Link.closeConnection) (some (.links remaining))
  | session {session : ClientSession}
      (found : server.clientSessions.lookup addr = some session)
      (current : session.sessionId = sessionId) :
      CleanupStep addr sessionId server .session .go
        { server with clientSessions := server.clientSessions.erase addr } (some .store)
  | replaced (replaced : ∀ session, server.clientSessions.lookup addr = some session →
        session.sessionId ≠ sessionId) :
      CleanupStep addr sessionId server .session .go server (some .store)
  | store :
      CleanupStep addr sessionId server .store .go
        { server with sessionStore := server.sessionStore.erase sessionId } (some .check)
  | noClients (none : server.clientSessions = ∅) :
      CleanupStep addr sessionId server .check .go server (some .setWaiting)
  | clients (some : server.clientSessions ≠ ∅) :
      CleanupStep addr sessionId server .check .go server none
  | setWaiting :
      CleanupStep addr sessionId server .setWaiting .go
        (server.updateBase { server.base with state := .waiting }) none

inductive ClientExchangeStep (zstd : Zstd) (ref : ConnectionRef) (addr : SocketAddr)
    (sessionId : Uuid) (server : GatewayServer) :
    ClientExchange → Input → GatewayServer → GatewayTask → Prop
  | receive {packet : PacketGW} {data : Option Bytes} :
      ClientExchangeStep zstd ref addr sessionId server .receive (.frame packet data)
        (server.updateSockets (server.sockets.receive ref (packet, data)))
        (.exchanging addr sessionId (dispatch packet data))
  | ended :
      ClientExchangeStep zstd ref addr sessionId server .receive .ended server
        (.exchanging addr sessionId (.cleanup .routes))
  | pongId :
      ClientExchangeStep zstd ref addr sessionId server .pongId .go
        (server.updateBase server.base.nextPacketId.2)
        (.exchanging addr sessionId (.sendPong server.base.nextPacketId.1))
  | sendPong {packetId : UInt64} {outcome : WriteOutcome} {after : GatewayServer}
      (sent : server.Sent zstd ref (PacketGW.new .pong packetId 0 0, none) outcome after) :
      ClientExchangeStep zstd ref addr sessionId server (.sendPong packetId) (.write outcome)
        after (.exchanging addr sessionId .receive)
  | regularFound {linkId : UInt16} {payload : Bytes} {link : LinkRef}
      (found : server.base.links.lookup linkId = some link) :
      ClientExchangeStep zstd ref addr sessionId server (.regularLookup linkId payload) .go server
        (.exchanging addr sessionId (.regularWrite link payload))
  | regularAbsent {linkId : UInt16} {payload : Bytes}
      (absent : server.base.links.lookup linkId = none) :
      ClientExchangeStep zstd ref addr sessionId server (.regularLookup linkId payload) .go server
        (.exchanging addr sessionId .receive)
  | regularWrite {link : LinkRef} {payload : Bytes} {outcome : WriteOutcome} {written : Link}
      (sent : (server.base.link link).sendPacket payload outcome = some written) :
      ClientExchangeStep zstd ref addr sessionId server (.regularWrite link payload)
        (.write outcome) (server.updateLink link fun _ => written)
        (.exchanging addr sessionId .receive)
  | openedFound {linkId : UInt16} {link : LinkRef}
      (found : server.base.links.lookup linkId = some link) :
      ClientExchangeStep zstd ref addr sessionId server (.openedLookup linkId) .go server
        (.exchanging addr sessionId (.openedSet link))
  | openedAbsent {linkId : UInt16} (absent : server.base.links.lookup linkId = none) :
      ClientExchangeStep zstd ref addr sessionId server (.openedLookup linkId) .go server
        (.exchanging addr sessionId .receive)
  | openedSet {link : LinkRef} :
      ClientExchangeStep zstd ref addr sessionId server (.openedSet link) .go
        (server.updateLink link (Link.setState · .connected))
        (.exchanging addr sessionId .receive)
  | removing {point next : RemoveLink} {after : GatewayServer}
      (removal : RemoveLinkStep server point after (some next)) :
      ClientExchangeStep zstd ref addr sessionId server (.removing point) .go after
        (.exchanging addr sessionId (.removing next))
  | removed {point : RemoveLink} {after : GatewayServer}
      (removal : RemoveLinkStep server point after none) :
      ClientExchangeStep zstd ref addr sessionId server (.removing point) .go after
        (.exchanging addr sessionId .receive)
  | cleanup {point next : CleanupClient} {after : GatewayServer}
      {input : Input} (cleaning : CleanupStep addr sessionId server point input after (some next)) :
      ClientExchangeStep zstd ref addr sessionId server (.cleanup point) input after
        (.exchanging addr sessionId (.cleanup next))
  | cleaned {point : CleanupClient} {after : GatewayServer}
      {input : Input} (cleaning : CleanupStep addr sessionId server point input after none) :
      ClientExchangeStep zstd ref addr sessionId server (.cleanup point) input after .finished

inductive GatewayStep (zstd : Zstd) (ref : ConnectionRef) (server : GatewayServer) :
    GatewayTask → Input → GatewayServer → GatewayTask → Prop
  | handling {addr : SocketAddr} {point : HandleGatewayConnection} {input : Input}
      {after : GatewayServer} {next : GatewayTask}
      (stepped : HandleGatewayStep ref addr server point input after next) :
      GatewayStep zstd ref server (.handling addr point) input after next
  | exchanging {addr : SocketAddr} {sessionId : Uuid} {point : ClientExchange}
      {input : Input} {after : GatewayServer} {next : GatewayTask}
      (stepped : ClientExchangeStep zstd ref addr sessionId server point input after next) :
      GatewayStep zstd ref server (.exchanging addr sessionId point) input after next

inductive ShutdownStep (server : GatewayServer) :
    ShutdownTask → Input → GatewayServer → ShutdownTask → Prop
  | closeAllLinks :
      ShutdownStep server .closeAllLinks .go (server.updateBase server.base.closeAllLinks) .sleep
  | sleep : ShutdownStep server .sleep .go server .lockSessions
  | lockSessions : ShutdownStep server .lockSessions .go server .closeSession
  | closeSession {addr : SocketAddr} {session : ClientSession}
      (found : server.clientSessions.lookup addr = some session) :
      ShutdownStep server .closeSession (.client addr)
        { server with
          clientSessions := server.clientSessions.erase addr
          sockets := server.sockets.updateWriter session.writer GatewayWriter.shutdown }
        (.removeSession session.sessionId)
  | drained (none : server.clientSessions = ∅) :
      ShutdownStep server .closeSession .go server .finished
  | removeSession {sessionId : Uuid} :
      ShutdownStep server (.removeSession sessionId) .go
        { server with sessionStore := server.sessionStore.erase sessionId } .closeSession

/-! ## The step functions take only these steps -/

variable {zstd : Zstd} {server after : GatewayServer} {input : Input}

theorem removeLinkStep (server : GatewayServer) (point : RemoveLink) :
    RemoveLinkStep server point (server.removeLink point).1 (server.removeLink point).2 := by
  cases point with
  | route linkId => exact .route
  | link linkId =>
      simp only [removeLink, Gateway.removeLink]
      cases found : server.base.links.lookup linkId with
      | none => exact .absent found
      | some ref => exact .found found
  | close ref => exact .close

theorem handleAppStep_of_eq {ref : LinkRef} {point : HandleAppConnection} {next : AppTask}
    (stepped : server.handleAppConnection zstd ref point input = some (after, next)) :
    HandleAppStep zstd ref server point input after next := by
  unfold handleAppConnection at stepped
  split at stepped
  · cases stepped
    exact .nextLinkId
  · rcases Option.map_eq_some_iff.mp stepped with ⟨session, found, equal⟩
    cases equal
    exact .pickClient found
  · split at stepped
    · rename_i none
      cases stepped
      exact .noClient none
    · cases stepped
  · cases stepped
    exact .reject
  · cases stepped
    simpa [Gateway.addLink, Gateway.updateLink, Link.new] using HandleAppStep.addLink
  · cases stepped
    exact .insertRoute
  · cases stepped
    exact .openId
  · rcases Option.map_eq_some_iff.mp stepped with ⟨sent, sending, equal⟩
    cases equal
    exact .sendOpen (send_eq_some.mp sending)
  · cases stepped
    exact .setWaiting
  · cases stepped

theorem appExchangeStep_of_eq {ref : LinkRef} {linkId : UInt16} {writer : ConnectionRef}
    {point : AppExchange} {next : AppTask}
    (stepped : server.appExchange zstd ref linkId writer point input = some (after, next)) :
    AppExchangeStep zstd ref linkId writer server point input after next := by
  unfold appExchange at stepped
  split at stepped
  · split at stepped
    · rename_i size
      cases stepped
      exact .read size
    · cases stepped
  · cases stepped
    exact .ended
  · cases stepped
    exact .addIncoming
  · cases stepped
    exact .regularId
  · rename_i bytes packetId outcome
    rcases Option.map_eq_some_iff.mp stepped with ⟨sent, sending, equal⟩
    cases outcome with
    | ok =>
        cases equal
        exact .sendRegular (send_eq_some.mp sending)
    | failed accepted =>
        cases equal
        exact .sendFailed (send_eq_some.mp sending)
  · cases stepped
    exact .closeId
  · rcases Option.map_eq_some_iff.mp stepped with ⟨sent, sending, equal⟩
    cases equal
    exact .sendClose (send_eq_some.mp sending)
  · rename_i point
    have removal := removeLinkStep server point
    cases equal : (server.removeLink point).2 with
    | some next =>
        rw [equal] at stepped removal
        cases stepped
        exact .removing removal
    | none =>
        rw [equal] at stepped removal
        cases stepped
        exact .removed removal
  · cases stepped

theorem appStep_of_eq {ref : LinkRef} {task next : AppTask}
    (stepped : server.appStep zstd ref task input = some (after, next)) :
    AppStep zstd ref server task input after next := by
  cases task with
  | handling point => exact .handling (handleAppStep_of_eq stepped)
  | exchanging linkId writer point => exact .exchanging (appExchangeStep_of_eq stepped)
  | absent => cases stepped
  | finished => cases stepped

theorem handleGatewayStep_of_eq {ref : ConnectionRef} {addr : SocketAddr}
    {point : HandleGatewayConnection} {next : GatewayTask}
    (stepped : server.handleGatewayConnection ref addr point input = some (after, next)) :
    HandleGatewayStep ref addr server point input after next := by
  unfold handleGatewayConnection at stepped
  split at stepped
  · simp only at stepped
    split at stepped
    · rename_i found
      cases stepped
      exact .evict found
    · rename_i absent
      cases stepped
      exact .evictNone absent
  · cases stepped
    exact .challengeId
  · cases stepped
    exact .accept
  · cases stepped
    exact .deny
  · cases stepped
    exact .setConnected
  · cases stepped
    exact .saveSession
  · cases stepped
    exact .insertSession
  · cases stepped

theorem cleanupStep_of_eq {addr : SocketAddr} {sessionId : Uuid} {point : CleanupClient}
    {next : Option CleanupClient}
    (stepped : server.cleanupClient addr sessionId point input = some (after, next)) :
    CleanupStep addr sessionId server point input after next := by
  cases point with
  | routes =>
      cases input with
      | go =>
          cases stepped
          exact .routes
      | _ => cases stepped
  | links remaining =>
      cases input with
      | go =>
          change ite _ _ _ = _ at stepped
          split at stepped
          · rename_i empty
            subst empty
            cases stepped
            exact .linksDone
          · cases stepped
      | link linkId =>
          change ite _ _ _ = _ at stepped
          split at stepped
          · rename_i member
            simp only [Gateway.removeLink] at stepped
            cases found : server.base.links.lookup linkId with
            | none =>
                rw [found] at stepped
                cases stepped
                exact .noLink member found
            | some ref =>
                rw [found] at stepped
                cases stepped
                exact .link member found
          · cases stepped
      | _ => cases stepped
  | close ref remaining =>
      cases input with
      | go =>
          cases stepped
          exact .close
      | _ => cases stepped
  | session =>
      cases input with
      | go =>
          unfold cleanupClient at stepped
          cases found : server.clientSessions.lookup addr with
          | none =>
              rw [found] at stepped
              cases stepped
              apply CleanupStep.replaced
              intro other stored
              rw [found] at stored
              cases stored
          | some session =>
              rw [found] at stepped
              change ite _ _ _ = _ at stepped
              split at stepped
              · rename_i current
                cases stepped
                exact .session found current
              · rename_i different
                cases stepped
                apply CleanupStep.replaced
                intro other stored
                rw [found] at stored
                cases stored
                exact different
      | _ => cases stepped
  | store =>
      cases input with
      | go =>
          cases stepped
          exact .store
      | _ => cases stepped
  | check =>
      cases input with
      | go =>
          change ite _ _ _ = _ at stepped
          split at stepped
          · rename_i none
            cases stepped
            exact .noClients none
          · rename_i some
            cases stepped
            exact .clients some
      | _ => cases stepped
  | setWaiting =>
      cases input with
      | go =>
          cases stepped
          exact .setWaiting
      | _ => cases stepped

theorem clientExchangeStep_of_eq {ref : ConnectionRef} {addr : SocketAddr} {sessionId : Uuid}
    {point : ClientExchange} {next : GatewayTask}
    (stepped : server.clientExchange zstd ref addr sessionId point input =
      some (after, next)) :
    ClientExchangeStep zstd ref addr sessionId server point input after next := by
  unfold clientExchange at stepped
  split at stepped
  · cases stepped
    exact .receive
  · cases stepped
    exact .ended
  · cases stepped
    exact .pongId
  · rcases Option.map_eq_some_iff.mp stepped with ⟨sent, sending, equal⟩
    cases equal
    exact .sendPong (send_eq_some.mp sending)
  · split at stepped
    · rename_i found
      cases stepped
      exact .regularFound found
    · rename_i absent
      cases stepped
      exact .regularAbsent absent
  · rcases Option.map_eq_some_iff.mp stepped with ⟨written, sent, equal⟩
    cases equal
    exact .regularWrite sent
  · split at stepped
    · rename_i found
      cases stepped
      exact .openedFound found
    · rename_i absent
      cases stepped
      exact .openedAbsent absent
  · cases stepped
    exact .openedSet
  · rename_i point
    have removal := removeLinkStep server point
    cases equal : (server.removeLink point).2 with
    | some next =>
        rw [equal] at stepped removal
        cases stepped
        exact .removing removal
    | none =>
        rw [equal] at stepped removal
        cases stepped
        exact .removed removal
  · rcases Option.map_eq_some_iff.mp stepped with ⟨⟨cleaned, following⟩, cleaning, equal⟩
    have step := cleanupStep_of_eq cleaning
    cases following with
    | some point =>
        cases equal
        exact .cleanup step
    | none =>
        cases equal
        exact .cleaned step
  · cases stepped

theorem gatewayStep_of_eq {ref : ConnectionRef} {task next : GatewayTask}
    (stepped : server.gatewayStep zstd ref task input = some (after, next)) :
    GatewayStep zstd ref server task input after next := by
  cases task with
  | handling addr point => exact .handling (handleGatewayStep_of_eq stepped)
  | exchanging addr sessionId point => exact .exchanging (clientExchangeStep_of_eq stepped)
  | absent => cases stepped
  | rejected => cases stepped
  | finished => cases stepped

theorem shutdownStep_of_eq {task next : ShutdownTask}
    (stepped : server.shutdownStep task input = some (after, next)) :
    ShutdownStep server task input after next := by
  unfold shutdownStep at stepped
  split at stepped
  · cases stepped
    exact .closeAllLinks
  · cases stepped
    exact .sleep
  · cases stepped
    exact .lockSessions
  · rcases Option.map_eq_some_iff.mp stepped with ⟨session, found, equal⟩
    cases equal
    exact .closeSession found
  · split at stepped
    · rename_i none
      cases stepped
      exact .drained none
    · cases stepped
  · cases stepped
    exact .removeSession
  · cases stepped

end GatewayServer

namespace Server

inductive Transition (zstd : Zstd) (server : Server) : ServerAction → Server → Prop
  | acceptApp :
      Transition zstd server .acceptApp
        { server with
          app := Function.update server.app server.appCount (.handling .nextLinkId)
          appCount := server.appCount + 1 }
  | acceptGateway {addr : SocketAddr} :
      Transition zstd server (.acceptGateway addr)
        { server with
          gateway := Function.update server.gateway server.gatewayCount
            (.handling addr .evict)
          gatewayCount := server.gatewayCount + 1 }
  | app {ref : LinkRef} {input : Input} {shared : GatewayServer} {task : AppTask}
      (stepped : server.shared.AppStep zstd ref (server.app ref) input shared task) :
      Transition zstd server (.app ref input)
        { server with shared := shared, app := Function.update server.app ref task }
  | gateway {ref : ConnectionRef} {input : Input} {shared : GatewayServer}
      {task : GatewayTask}
      (stepped : server.shared.GatewayStep zstd ref (server.gateway ref) input shared task) :
      Transition zstd server (.gateway ref input)
        { server with shared := shared, gateway := Function.update server.gateway ref task }
  | resetGateway {ref : ConnectionRef} :
      Transition zstd server (.resetGateway ref)
        { server with
          shared := server.shared.updateSockets
            (server.shared.sockets.updateWriter ref GatewayWriter.peerReset) }
  | beginShutdown (absent : server.shutdown = .absent) :
      Transition zstd server .beginShutdown { server with shutdown := .closeAllLinks }
  | shutdown {input : Input} {shared : GatewayServer} {task : ShutdownTask}
      (stepped : server.shared.ShutdownStep server.shutdown input shared task) :
      Transition zstd server (.shutdown input) { server with shared := shared, shutdown := task }

theorem transition_of_step {zstd : Zstd} {server next : Server} {action : ServerAction}
    (stepped : step zstd server action = some next) : Transition zstd server action next := by
  cases action with
  | acceptApp =>
      cases stepped
      exact .acceptApp
  | acceptGateway addr =>
      cases stepped
      exact .acceptGateway
  | app ref input =>
      simp only [step] at stepped
      split at stepped
      · cases stepped
      · rcases Option.map_eq_some_iff.mp stepped with ⟨⟨shared, task⟩, taken, equal⟩
        cases equal
        exact .app (GatewayServer.appStep_of_eq taken)
  | gateway ref input =>
      simp only [step] at stepped
      split at stepped
      · cases stepped
      · rcases Option.map_eq_some_iff.mp stepped with ⟨⟨shared, task⟩, taken, equal⟩
        cases equal
        exact .gateway (GatewayServer.gatewayStep_of_eq taken)
  | resetGateway ref =>
      cases stepped
      exact .resetGateway
  | beginShutdown =>
      simp only [step] at stepped
      split at stepped
      · rename_i absent
        cases stepped
        exact .beginShutdown absent
      · cases stepped
  | shutdown input =>
      rcases Option.map_eq_some_iff.mp stepped with ⟨⟨shared, task⟩, taken, equal⟩
      cases equal
      exact .shutdown (GatewayServer.shutdownStep_of_eq taken)

end Server

end IoGateway

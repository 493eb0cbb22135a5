import IoGateway.Foundation.TransitionSystem
import IoGateway.Server.State

/-! # Steps of the gateway server

One step function for each asynchronous function of `server.rs`. A step takes
the program point a task is at and the environment's input, and returns the
tables after the statement and the next program point; an input that the
statement cannot receive gives `none`. Tasks interleave between any two steps,
but while `shutdown` drains the sessions the users of `client_sessions` wait.
-/

namespace IoGateway

namespace GatewayServer

def updateSockets (server : GatewayServer) (sockets : GatewaySockets) : GatewayServer :=
  { server with sockets := sockets }

def send (zstd : Zstd) (server : GatewayServer) (writer : ConnectionRef) (call : SendCall)
    (outcome : WriteOutcome) : Option GatewayServer :=
  (server.sockets.send zstd writer call outcome).map server.updateSockets

def updateBase (server : GatewayServer) (base : Gateway) : GatewayServer :=
  { server with base := base }

def updateLink (server : GatewayServer) (ref : LinkRef) (update : Link → Link) : GatewayServer :=
  server.updateBase (server.base.updateLink ref update)

/-- `remove_link`, `none` when it returns. -/
def removeLink (server : GatewayServer) : RemoveLink → GatewayServer × Option RemoveLink
  | .route linkId =>
      ({ server with linkClients := server.linkClients.erase linkId }, some (.link linkId))
  | .link linkId =>
      (server.updateBase (server.base.removeLink linkId).2,
        (server.base.removeLink linkId).1.map .close)
  | .close ref => (server.updateLink ref Link.closeConnection, none)

/-- `handle_app_connection`; the last step spawns `app_exchange`. -/
def handleAppConnection (zstd : Zstd) (ref : LinkRef) (server : GatewayServer) :
    HandleAppConnection → Input → Option (GatewayServer × AppTask)
  | .nextLinkId, .go =>
      some (server.updateBase server.base.nextLinkId.2,
        .handling (.pickClient server.base.nextLinkId.1))
  | .pickClient linkId, .client addr =>
      (server.clientSessions.lookup addr).map fun session =>
        (server, .handling (.addLink linkId session.writer session.addr))
  | .pickClient linkId, .go =>
      if server.clientSessions = ∅ then some (server, .handling (.reject linkId)) else none
  | .reject _, .go =>
      some (server.updateLink ref fun link => { link with writer := link.writer.shutdown },
        .finished)
  | .addLink linkId writer addr, .go =>
      let created := server.updateLink ref fun _ => Link.new linkId
      some (created.updateBase (created.base.addLink ref),
        .handling (.insertRoute linkId writer addr))
  | .insertRoute linkId writer addr, .go =>
      some ({ server with linkClients := server.linkClients.insert linkId addr },
        .handling (.openId linkId writer))
  | .openId linkId writer, .go =>
      some (server.updateBase server.base.nextPacketId.2,
        .handling (.sendOpen linkId writer server.base.nextPacketId.1))
  | .sendOpen linkId writer packetId, .write outcome =>
      -- A send error is logged and the link is kept.
      (server.send zstd writer (PacketGW.new .open_ packetId linkId 0, none) outcome).map
        fun sent => (sent, .handling (.setWaiting linkId writer))
  | .setWaiting linkId writer, .go =>
      some (server.updateLink ref (Link.setState · .waiting), .exchanging linkId writer .read)
  | _, _ => none

/-- `app_exchange` of the link `linkId`, bound to one client's writer. -/
def appExchange (zstd : Zstd) (ref : LinkRef) (linkId : UInt16) (writer : ConnectionRef)
    (server : GatewayServer) : AppExchange → Input → Option (GatewayServer × AppTask)
  | .read, .chunk bytes =>
      if 1 ≤ bytes.length ∧ bytes.length ≤ bufferSize then
        some (server.updateLink ref (Link.receive · bytes),
          .exchanging linkId writer (.addIncoming bytes))
      else none
  | .read, .ended => some (server, .exchanging linkId writer .closeId)
  | .addIncoming bytes, .go =>
      some (server.updateLink ref (Link.addIncoming · (UInt64.ofNat bytes.length)),
        .exchanging linkId writer (.regularId bytes))
  | .regularId bytes, .go =>
      some (server.updateBase server.base.nextPacketId.2,
        .exchanging linkId writer (.sendRegular bytes server.base.nextPacketId.1))
  | .sendRegular bytes packetId, .write outcome =>
      (server.send zstd writer
          (PacketGW.new .regular packetId linkId (UInt16.ofNat bytes.length), some bytes)
          outcome).map fun sent =>
        match outcome with
        | .ok => (sent, .exchanging linkId writer .read)
        | .failed _ => (sent, .exchanging linkId writer .closeId)
  | .closeId, .go =>
      some (server.updateBase server.base.nextPacketId.2,
        .exchanging linkId writer (.sendClose server.base.nextPacketId.1))
  | .sendClose packetId, .write outcome =>
      (server.send zstd writer (PacketGW.new .close packetId linkId 0, none) outcome).map
        fun sent => (sent, .exchanging linkId writer (.removing (.route linkId)))
  | .removing point, .go =>
      some ((server.removeLink point).1,
        match (server.removeLink point).2 with
        | some next => .exchanging linkId writer (.removing next)
        | none => .finished)
  | _, _ => none

def appStep (zstd : Zstd) (ref : LinkRef) (server : GatewayServer) :
    AppTask → Input → Option (GatewayServer × AppTask)
  | .handling point, input => server.handleAppConnection zstd ref point input
  | .exchanging linkId writer point, input =>
      server.appExchange zstd ref linkId writer point input
  | _, _ => none

/-- `handle_gateway_connection`; the last step spawns `client_exchange`. The
handshake is one step with its verdict: it works on the connection's own
socket, which no other task knows yet. -/
def handleGatewayConnection (ref : ConnectionRef) (addr : SocketAddr) (server : GatewayServer) :
    HandleGatewayConnection → Input → Option (GatewayServer × GatewayTask)
  | .evict, .go =>
      let remaining := { server with clientSessions := server.clientSessions.erase addr }
      match server.clientSessions.lookup addr with
      | some old =>
          some (remaining.updateSockets
              (server.sockets.updateWriter old.writer GatewayWriter.shutdown),
            .handling addr .challengeId)
      | none => some (remaining, .handling addr .challengeId)
  | .challengeId, .go =>
      some (server.updateBase server.base.nextPacketId.2, .handling addr .authenticate)
  | .authenticate, .verdict true => some (server, .handling addr .setConnected)
  | .authenticate, .verdict false => some (server, .rejected)
  | .setConnected, .go =>
      some (server.updateBase { server.base with state := .connected },
        .handling addr .saveSession)
  | .saveSession, .session sessionId =>
      some ({ server with sessionStore := server.sessionStore.insert sessionId [] },
        .handling addr (.insertSession sessionId))
  | .insertSession sessionId, .go =>
      let session := { writer := ref, addr := addr, sessionId := sessionId }
      some ({ server with clientSessions := server.clientSessions.insert addr session },
        .exchanging addr sessionId .receive)
  | _, _ => none

def ownedLinks (server : GatewayServer) (addr : SocketAddr) : Finset UInt16 :=
  (FiniteMap.filter (fun _ owner => owner = addr) server.linkClients).keys

/-- `cleanup_client`, with `none` for the next point when it returns. -/
def cleanupClient (addr : SocketAddr) (sessionId : Uuid) (server : GatewayServer) :
    CleanupClient → Input → Option (GatewayServer × Option CleanupClient)
  | .routes, .go =>
      some ({ server with
          linkClients := FiniteMap.filter (fun _ owner => owner ≠ addr) server.linkClients },
        some (.links (server.ownedLinks addr)))
  | .links remaining, .link linkId =>
      if linkId ∈ remaining then
        some (server.updateBase (server.base.removeLink linkId).2,
          match (server.base.removeLink linkId).1 with
          | some ref => some (.close ref (remaining.erase linkId))
          | none => some (.links (remaining.erase linkId)))
      else none
  | .links remaining, .go => if remaining = ∅ then some (server, some .session) else none
  | .close ref remaining, .go =>
      some (server.updateLink ref Link.closeConnection, some (.links remaining))
  | .session, .go =>
      -- Only a session that no newer one has replaced is removed.
      match server.clientSessions.lookup addr with
      | some session =>
          if session.sessionId = sessionId then
            some ({ server with clientSessions := server.clientSessions.erase addr },
              some .store)
          else some (server, some .store)
      | none => some (server, some .store)
  | .store, .go =>
      some ({ server with sessionStore := server.sessionStore.erase sessionId }, some .check)
  | .check, .go =>
      if server.clientSessions = ∅ then some (server, some .setWaiting)
      else some (server, none)
  | .setWaiting, .go =>
      some (server.updateBase { server.base with state := .waiting }, none)
  | _, _ => none

def dispatch (packet : PacketGW) (data : Option Bytes) : ClientExchange :=
  match packet.packetType with
  | .ping => .pongId
  | .regular =>
      match data with
      | some payload => .regularLookup packet.linkId payload
      | none => .receive
  | .opened => .openedLookup packet.linkId
  | .openFail => .removing (.route packet.linkId)
  | .close => .removing (.route packet.linkId)
  | .gwDeny => .cleanup .routes
  | _ => .receive

/-- `client_exchange`: the exchange loop and the cleanup after it. Reading
returns a packet or ends the loop. -/
def clientExchange (zstd : Zstd) (ref : ConnectionRef) (addr : SocketAddr) (sessionId : Uuid)
    (server : GatewayServer) : ClientExchange → Input → Option (GatewayServer × GatewayTask)
  | .receive, .frame packet data =>
      some (server.updateSockets (server.sockets.receive ref (packet, data)),
        .exchanging addr sessionId (dispatch packet data))
  | .receive, .ended => some (server, .exchanging addr sessionId (.cleanup .routes))
  | .pongId, .go =>
      some (server.updateBase server.base.nextPacketId.2,
        .exchanging addr sessionId (.sendPong server.base.nextPacketId.1))
  | .sendPong packetId, .write outcome =>
      (server.send zstd ref (PacketGW.new .pong packetId 0 0, none) outcome).map fun sent =>
        (sent, .exchanging addr sessionId .receive)
  | .regularLookup linkId payload, .go =>
      match server.base.links.lookup linkId with
      | some link => some (server, .exchanging addr sessionId (.regularWrite link payload))
      | none => some (server, .exchanging addr sessionId .receive)
  | .regularWrite link payload, .write outcome =>
      ((server.base.link link).sendPacket payload outcome).map fun after =>
        (server.updateLink link fun _ => after, .exchanging addr sessionId .receive)
  | .openedLookup linkId, .go =>
      match server.base.links.lookup linkId with
      | some link => some (server, .exchanging addr sessionId (.openedSet link))
      | none => some (server, .exchanging addr sessionId .receive)
  | .openedSet link, .go =>
      some (server.updateLink link (Link.setState · .connected),
        .exchanging addr sessionId .receive)
  | .removing point, .go =>
      some ((server.removeLink point).1,
        match (server.removeLink point).2 with
        | some next => .exchanging addr sessionId (.removing next)
        | none => .exchanging addr sessionId .receive)
  | .cleanup point, input =>
      (server.cleanupClient addr sessionId point input).map fun (after, next) =>
        match next with
        | some point => (after, .exchanging addr sessionId (.cleanup point))
        | none => (after, .finished)
  | _, _ => none

def gatewayStep (zstd : Zstd) (ref : ConnectionRef) (server : GatewayServer) :
    GatewayTask → Input → Option (GatewayServer × GatewayTask)
  | .handling addr point, input => server.handleGatewayConnection ref addr point input
  | .exchanging addr sessionId point, input =>
      server.clientExchange zstd ref addr sessionId point input
  | _, _ => none

/-- `shutdown`: close all links, pause, then close and forget one session after another
under the guard of `client_sessions`. -/
def shutdownStep (server : GatewayServer) :
    ShutdownTask → Input → Option (GatewayServer × ShutdownTask)
  | .closeAllLinks, .go => some (server.updateBase server.base.closeAllLinks, .sleep)
  | .sleep, .go => some (server, .lockSessions)
  | .lockSessions, .go => some (server, .closeSession)
  | .closeSession, .client addr =>
      (server.clientSessions.lookup addr).map fun session =>
        ({ server with
            clientSessions := server.clientSessions.erase addr
            sockets := server.sockets.updateWriter session.writer GatewayWriter.shutdown },
          .removeSession session.sessionId)
  | .closeSession, .go => if server.clientSessions = ∅ then some (server, .finished) else none
  | .removeSession sessionId, .go =>
      some ({ server with sessionStore := server.sessionStore.erase sessionId }, .closeSession)
  | _, _ => none

end GatewayServer

namespace Server

def step (zstd : Zstd) (server : Server) : ServerAction → Option Server
  | .acceptApp =>
      some { server with
        app := Function.update server.app server.appCount (.handling .nextLinkId)
        appCount := server.appCount + 1 }
  | .acceptGateway addr =>
      some { server with
        gateway := Function.update server.gateway server.gatewayCount (.handling addr .evict)
        gatewayCount := server.gatewayCount + 1 }
  | .app ref input =>
      if server.shutdown.holdsSessions && (server.app ref).usesSessions then none
      else
        (server.shared.appStep zstd ref (server.app ref) input).map fun (shared, task) =>
          { server with shared := shared, app := Function.update server.app ref task }
  | .gateway ref input =>
      if server.shutdown.holdsSessions && (server.gateway ref).usesSessions then none
      else
        (server.shared.gatewayStep zstd ref (server.gateway ref) input).map fun (shared, task) =>
          { server with shared := shared, gateway := Function.update server.gateway ref task }
  | .resetGateway ref =>
      some { server with
        shared := server.shared.updateSockets
          (server.shared.sockets.updateWriter ref GatewayWriter.peerReset) }
  | .beginShutdown =>
      match server.shutdown with
      | .absent => some { server with shutdown := .closeAllLinks }
      | _ => none
  | .shutdown input =>
      (server.shared.shutdownStep server.shutdown input).map fun (shared, task) =>
        { server with shared := shared, shutdown := task }

def system (zstd : Zstd) : TransitionSystem Server ServerAction where
  start := .new
  step := step zstd

end Server

end IoGateway

import IoGateway.Foundation.TransitionSystem
import IoGateway.Client.State

/-! # Steps of the gateway client

One step function for each asynchronous function of `client.rs`, as for the
server. The writers of `gw_writer` wait for a `send_ping` that holds its lock.
-/

namespace IoGateway

namespace GatewayClient

def updateBase (client : GatewayClient) (base : Gateway) : GatewayClient :=
  { client with base := base }

def updateLink (client : GatewayClient) (link : LinkRef) (update : Link → Link) :
    GatewayClient :=
  client.updateBase (client.base.updateLink link update)

def updateSockets (client : GatewayClient) (sockets : GatewaySockets) : GatewayClient :=
  { client with sockets := sockets }

def send (zstd : Zstd) (client : GatewayClient) (writer : ConnectionRef) (call : SendCall)
    (outcome : WriteOutcome) : Option GatewayClient :=
  (client.sockets.send zstd writer call outcome).map client.updateSockets

/-- `app_exchange` of a link, on the writer it was opened with. The link is removed
by its identifier and is not closed. -/
def appExchange (zstd : Zstd) (link : LinkRef) (linkId : UInt16) (writer : ConnectionRef)
    (client : GatewayClient) :
    ClientAppExchange → Input → Option (GatewayClient × ClientAppTask)
  | .read, .chunk bytes =>
      if 1 ≤ bytes.length ∧ bytes.length ≤ bufferSize then
        some (client.updateLink link (Link.receive · bytes),
          .running linkId writer (.regularId bytes))
      else none
  | .read, .ended => some (client, .running linkId writer .closeId)
  | .regularId bytes, .go =>
      some (client.updateBase client.base.nextPacketId.2,
        .running linkId writer (.sendRegular bytes client.base.nextPacketId.1))
  | .sendRegular bytes packetId, .write outcome =>
      (client.send zstd writer
          (PacketGW.new .regular packetId linkId (UInt16.ofNat bytes.length), some bytes)
          outcome).map fun sent =>
        match outcome with
        | .ok => (sent, .running linkId writer (.addIncoming bytes))
        | .failed _ => (sent, .running linkId writer .closeId)
  | .addIncoming bytes, .go =>
      some (client.updateLink link (Link.addIncoming · (UInt64.ofNat bytes.length)),
        .running linkId writer .read)
  | .closeId, .go =>
      some (client.updateBase client.base.nextPacketId.2,
        .running linkId writer (.sendClose client.base.nextPacketId.1))
  | .sendClose packetId, .write outcome =>
      (client.send zstd writer (PacketGW.new .close packetId linkId 0, none) outcome).map
        fun sent => (sent, .running linkId writer .removeLink)
  | .removeLink, .go => some (client.updateBase (client.base.removeLink linkId).2, .finished)
  | _, _ => none

def appStep (zstd : Zstd) (link : LinkRef) (client : GatewayClient) :
    ClientAppTask → Input → Option (GatewayClient × ClientAppTask)
  | .running linkId writer point, input =>
      client.appExchange zstd link linkId writer point input
  | _, _ => none

/-- `start_ping_loop`: it ends only when sending fails. -/
def startPingLoop (zstd : Zstd) (writer : ConnectionRef) (client : GatewayClient) :
    PingTask → Input → Option (GatewayClient × PingTask)
  | .tick, .go => some (client, .pingId)
  | .pingId, .go =>
      some (client.updateBase client.base.nextPacketId.2, .sendPing client.base.nextPacketId.1)
  | .sendPing packetId, .write outcome =>
      (client.send zstd writer (PacketGW.new .ping packetId 0 0, none) outcome).map fun sent =>
        match outcome with
        | .ok => (sent, .tick)
        | .failed _ => (sent, .finished)
  | _, _ => none

def sendPing (zstd : Zstd) (client : GatewayClient) :
    PingCommand → Input → Option (GatewayClient × PingCommand)
  | .pingId writer, .go =>
      some (client.updateBase client.base.nextPacketId.2,
        .sendPing writer client.base.nextPacketId.1)
  | .sendPing writer packetId, .write outcome =>
      (client.send zstd writer (PacketGW.new .ping packetId 0 0, none) outcome).map
        fun sent => (sent, .idle)
  | _, _ => none

def dispatch (packet : PacketGW) (data : Option Bytes) : Option GatewayExchange :=
  match packet.packetType with
  | .ping => some .pongId
  | .open_ => some (.connecting (.connect packet.linkId))
  | .close => some (.removeLink packet.linkId)
  | .regular =>
      match data with
      | some payload => some (.forward packet.linkId payload)
      | none => some .receive
  | .gwDeny => none
  | _ => some .receive

def forwardToApp (client : GatewayClient) (linkId : UInt16) (payload : Bytes) :
    Input → Option GatewayClient
  | .write outcome =>
      match client.base.links.lookup linkId with
      | some link =>
          ((client.base.link link).sendPacket payload outcome).map fun written =>
            client.updateLink link fun _ => written
      | none => none
  | .go =>
      match client.base.links.lookup linkId with
      | some _ => none
      | none => some client
  | _ => none

end GatewayClient

namespace Client

/-- The command loop's `send_ping` does not hold the lock of `gw_writer`. -/
def WriterUnlocked (client : Client) : Prop := client.command = .idle

instance (client : Client) : Decidable client.WriterUnlocked :=
  inferInstanceAs (Decidable (_ = _))

def exchange (client : Client) (connection : ConnectionRef) (shared : GatewayClient)
    (point : GatewayExchange) : Client :=
  { client with shared := shared, run := .onConnection connection (.exchanging point) }

def connectClient (zstd : Zstd) (connection : ConnectionRef) (client : Client) :
    ConnectClient → Input → Option Client
  | .connect linkId, .verdict true =>
      some (client.exchange connection client.shared (.connecting (.addLink linkId)))
  | .connect linkId, .verdict false =>
      some (client.exchange connection client.shared (.connecting (.openFailId linkId)))
  | .addLink linkId, .go =>
      let link := client.linkCount
      let created := client.shared.updateLink link fun _ => Link.new linkId
      let shared := { created with
        base := created.base.addLink link
        openedOn := Function.update created.openedOn link connection }
      some { client.exchange connection shared (.connecting (.setConnected linkId link)) with
        linkCount := client.linkCount + 1 }
  | .setConnected linkId link, .go =>
      some (client.exchange connection
        (client.shared.updateLink link (Link.setState · .connected))
        (.connecting (.openedId linkId link)))
  | .openedId linkId link, .go =>
      some (client.exchange connection (client.shared.updateBase client.shared.base.nextPacketId.2)
        (.connecting (.sendOpened linkId link client.shared.base.nextPacketId.1)))
  | .sendOpened linkId link packetId, .write outcome =>
      (client.shared.send zstd connection (PacketGW.new .opened packetId linkId 0, none)
        outcome).map fun sent => client.exchange connection sent (.connecting (.spawn linkId link))
  | .spawn linkId link, .go =>
      some { client.exchange connection client.shared .receive with
        app := Function.update client.app link (.running linkId connection .read) }
  | .openFailId linkId, .go =>
      some (client.exchange connection (client.shared.updateBase client.shared.base.nextPacketId.2)
        (.connecting (.sendOpenFail linkId client.shared.base.nextPacketId.1)))
  | .sendOpenFail linkId packetId, .write outcome =>
      (client.shared.send zstd connection (PacketGW.new .openFail packetId linkId 0, none)
        outcome).map fun sent => client.exchange connection sent .receive
  | _, _ => none

/-- `gateway_exchange`; at its end `on_connection` returns and `on_disconnection`
comes next. -/
def gatewayExchange (zstd : Zstd) (connection : ConnectionRef) (client : Client) :
    GatewayExchange → Input → Option Client
  | .receive, .frame packet data =>
      let shared := client.shared.updateSockets
        (client.shared.sockets.receive connection (packet, data))
      match GatewayClient.dispatch packet data with
      | some point => some (client.exchange connection shared point)
      | none => some { client with shared := shared, run := .onDisconnection .closeAllLinks }
  | .receive, .ended => some { client with run := .onDisconnection .closeAllLinks }
  | .pongId, .go =>
      some (client.exchange connection (client.shared.updateBase client.shared.base.nextPacketId.2)
        (.sendPong client.shared.base.nextPacketId.1))
  | .sendPong packetId, .write outcome =>
      (client.shared.send zstd connection (PacketGW.new .pong packetId 0 0, none) outcome).map
        fun sent => client.exchange connection sent .receive
  | .connecting point, input => client.connectClient zstd connection point input
  | .removeLink linkId, .go =>
      let removed := client.shared.base.removeLink linkId
      some (client.exchange connection (client.shared.updateBase removed.2)
        (match removed.1 with
        | some link => .closeLink link
        | none => .receive))
  | .closeLink link, .go =>
      some (client.exchange connection (client.shared.updateLink link Link.closeConnection)
        .receive)
  | .forward linkId payload, input =>
      (client.shared.forwardToApp linkId payload input).map fun shared =>
        client.exchange connection shared .receive
  | _, _ => none

/-- `on_connection`. The handshake is split at the drawing of its packet
identifier; the rest of it works on the connection's own socket. -/
def onConnection (zstd : Zstd) (connection : ConnectionRef) (client : Client) :
    OnConnection → Input → Option Client
  | .setReader, .go =>
      some { client with
        shared := { client.shared with gwReader := some connection }
        run := .onConnection connection .setWriter }
  | .setWriter, .go =>
      if client.WriterUnlocked then
        some { client with
          shared := { client.shared with gwWriter := some connection }
          run := .onConnection connection .setProcessing }
      else none
  | .setProcessing, .go =>
      some { client with
        shared := client.shared.updateBase { client.shared.base with state := .processing }
        run := .onConnection connection .challenge }
  | .challenge, .verdict true => some { client with run := .onConnection connection .responseId }
  | .challenge, .verdict false =>
      some { client with run := .onConnection connection .clearReader }
  | .responseId, .go =>
      some { client with
        shared := client.shared.updateBase client.shared.base.nextPacketId.2
        run := .onConnection connection .authenticate }
  | .authenticate, .verdict true =>
      some { client with run := .onConnection connection .setConnected }
  | .authenticate, .verdict false =>
      some { client with run := .onConnection connection .clearReader }
  | .clearReader, .go =>
      some { client with
        shared := { client.shared with gwReader := none }
        run := .onConnection connection .clearWriter }
  | .clearWriter, .go =>
      if client.WriterUnlocked then
        some { client with
          shared := { client.shared with gwWriter := none }
          run := .onDisconnection .closeAllLinks }
      else none
  | .setConnected, .go =>
      some { client with
        shared := client.shared.updateBase { client.shared.base with state := .connected }
        run := .onConnection connection .startPing }
  | .startPing, .go =>
      some { client with
        ping := Function.update client.ping connection .tick
        run := .onConnection connection (.exchanging .receive) }
  | .exchanging point, input => client.gatewayExchange zstd connection point input
  | _, _ => none

def onDisconnection (client : Client) : OnDisconnection → Option Client
  | .closeAllLinks =>
      some { client with
        shared := client.shared.updateBase client.shared.base.closeAllLinks
        run := .onDisconnection .clearReader }
  | .clearReader =>
      some { client with
        shared := { client.shared with gwReader := none }
        run := .onDisconnection .clearWriter }
  | .clearWriter =>
      if client.WriterUnlocked then
        some { client with
          shared := { client.shared with gwWriter := none }
          run := .onDisconnection .setWaiting }
      else none
  | .setWaiting =>
      some { client with
        shared := client.shared.updateBase { client.shared.base with state := .waiting }
        run := .setWaiting }

def runStep (zstd : Zstd) (client : Client) : RunTask → Input → Option Client
  | .setWaiting, .go =>
      some { client with
        shared := client.shared.updateBase { client.shared.base with state := .waiting }
        run := .connect }
  | .connect, .verdict true =>
      some { client with
        run := .onConnection client.connectionCount .setReader
        connectionCount := client.connectionCount + 1 }
  | .connect, .verdict false => some { client with run := .sleep }
  | .sleep, .go => some { client with run := .connect }
  | .onConnection connection point, input => client.onConnection zstd connection point input
  | .onDisconnection point, .go => client.onDisconnection point
  | _, _ => none

/-- `shutdown`: close all links, pause, then take the writer and shut it down. -/
def shutdownStep (client : Client) : ClientShutdown → Option Client
  | .closeAllLinks =>
      some { client with
        shared := client.shared.updateBase client.shared.base.closeAllLinks
        shutdown := .sleep }
  | .sleep => some { client with shutdown := .takeWriter }
  | .takeWriter =>
      if client.WriterUnlocked then
        let taken := { client.shared with gwWriter := none }
        match client.shared.gwWriter with
        | some writer =>
            some { client with
              shared := taken.updateSockets
                (client.shared.sockets.updateWriter writer GatewayWriter.shutdown)
              shutdown := .finished }
        | none => some { client with shared := taken, shutdown := .finished }
      else none
  | _ => none

def step (zstd : Zstd) (client : Client) : ClientAction → Option Client
  | .run input => client.runStep zstd client.run input
  | .app link input =>
      (client.shared.appStep zstd link (client.app link) input).map fun (shared, task) =>
        { client with shared := shared, app := Function.update client.app link task }
  | .ping connection input =>
      (client.shared.startPingLoop zstd connection (client.ping connection) input).map
        fun (shared, task) =>
          { client with shared := shared, ping := Function.update client.ping connection task }
  | .beginCommand =>
      match client.command, client.shared.gwWriter with
      | .idle, some writer => some { client with command := .pingId writer }
      | _, _ => none
  | .command input =>
      (client.shared.sendPing zstd client.command input).map fun (shared, command) =>
        { client with shared := shared, command := command }
  | .resetGateway connection =>
      some { client with
        shared := client.shared.updateSockets
          (client.shared.sockets.updateWriter connection GatewayWriter.peerReset) }
  | .beginShutdown =>
      match client.shutdown with
      | .absent => some { client with shutdown := .closeAllLinks }
      | _ => none
  | .shutdown => client.shutdownStep client.shutdown

def system (zstd : Zstd) : TransitionSystem Client ClientAction where
  start := .new
  step := step zstd

end Client

end IoGateway

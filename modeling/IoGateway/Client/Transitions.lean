import IoGateway.Client.Step

/-! # What a step of a client task can do

Inversion of the client's step functions, as for the server: one constructor for
each statement of the source.
-/

namespace IoGateway

namespace GatewayClient

attribute [simp] updateBase updateLink updateSockets

/-- A completed call of `send_gw_packet`, successful or not. -/
def Sent (zstd : Zstd) (client : GatewayClient) (writer : ConnectionRef) (call : SendCall)
    (outcome : WriteOutcome) (after : GatewayClient) : Prop :=
  ∃ sockets, client.sockets.send zstd writer call outcome = some sockets ∧
    after = client.updateSockets sockets

theorem send_eq_some {zstd : Zstd} {client after : GatewayClient} {writer : ConnectionRef}
    {call : SendCall} {outcome : WriteOutcome} :
    client.send zstd writer call outcome = some after ↔
      client.Sent zstd writer call outcome after := by
  simp [send, Sent, eq_comm]

theorem Sent.base {zstd : Zstd} {client after : GatewayClient} {writer : ConnectionRef}
    {call : SendCall} {outcome : WriteOutcome}
    (sent : client.Sent zstd writer call outcome after) : after.base = client.base := by
  rcases sent with ⟨sockets, _, rfl⟩
  rfl

theorem Sent.openedOn {zstd : Zstd} {client after : GatewayClient} {writer : ConnectionRef}
    {call : SendCall} {outcome : WriteOutcome}
    (sent : client.Sent zstd writer call outcome after) :
    after.openedOn = client.openedOn := by
  rcases sent with ⟨sockets, _, rfl⟩
  rfl

inductive AppStep (zstd : Zstd) (link : LinkRef) (client : GatewayClient) :
    ClientAppTask → Input → GatewayClient → ClientAppTask → Prop
  | read {linkId : UInt16} {writer : ConnectionRef} {bytes : Bytes}
      (size : 1 ≤ bytes.length ∧ bytes.length ≤ bufferSize) :
      AppStep zstd link client (.running linkId writer .read) (.chunk bytes)
        (client.updateLink link (Link.receive · bytes))
        (.running linkId writer (.regularId bytes))
  | ended {linkId : UInt16} {writer : ConnectionRef} :
      AppStep zstd link client (.running linkId writer .read) .ended client
        (.running linkId writer .closeId)
  | regularId {linkId : UInt16} {writer : ConnectionRef} {bytes : Bytes} :
      AppStep zstd link client (.running linkId writer (.regularId bytes)) .go
        (client.updateBase client.base.nextPacketId.2)
        (.running linkId writer (.sendRegular bytes client.base.nextPacketId.1))
  | sendRegular {linkId : UInt16} {writer : ConnectionRef} {bytes : Bytes} {packetId : UInt64}
      {after : GatewayClient}
      (sent : client.Sent zstd writer
        (PacketGW.new .regular packetId linkId (UInt16.ofNat bytes.length), some bytes) .ok
        after) :
      AppStep zstd link client (.running linkId writer (.sendRegular bytes packetId))
        (.write .ok) after (.running linkId writer (.addIncoming bytes))
  | sendFailed {linkId : UInt16} {writer : ConnectionRef} {bytes : Bytes} {packetId : UInt64}
      {accepted : Nat} {after : GatewayClient}
      (sent : client.Sent zstd writer
        (PacketGW.new .regular packetId linkId (UInt16.ofNat bytes.length), some bytes)
        (.failed accepted) after) :
      AppStep zstd link client (.running linkId writer (.sendRegular bytes packetId))
        (.write (.failed accepted)) after (.running linkId writer .closeId)
  | addIncoming {linkId : UInt16} {writer : ConnectionRef} {bytes : Bytes} :
      AppStep zstd link client (.running linkId writer (.addIncoming bytes)) .go
        (client.updateLink link (Link.addIncoming · (UInt64.ofNat bytes.length)))
        (.running linkId writer .read)
  | closeId {linkId : UInt16} {writer : ConnectionRef} :
      AppStep zstd link client (.running linkId writer .closeId) .go
        (client.updateBase client.base.nextPacketId.2)
        (.running linkId writer (.sendClose client.base.nextPacketId.1))
  | sendClose {linkId : UInt16} {writer : ConnectionRef} {packetId : UInt64}
      {outcome : WriteOutcome} {after : GatewayClient}
      (sent : client.Sent zstd writer (PacketGW.new .close packetId linkId 0, none) outcome
        after) :
      AppStep zstd link client (.running linkId writer (.sendClose packetId))
        (.write outcome) after (.running linkId writer .removeLink)
  | removeLink {linkId : UInt16} {writer : ConnectionRef} :
      AppStep zstd link client (.running linkId writer .removeLink) .go
        (client.updateBase { client.base with links := client.base.links.erase linkId })
        .finished

inductive PingStep (zstd : Zstd) (writer : ConnectionRef) (client : GatewayClient) :
    PingTask → Input → GatewayClient → PingTask → Prop
  | tick : PingStep zstd writer client .tick .go client .pingId
  | pingId :
      PingStep zstd writer client .pingId .go (client.updateBase client.base.nextPacketId.2)
        (.sendPing client.base.nextPacketId.1)
  | sendPing {packetId : UInt64} {after : GatewayClient}
      (sent : client.Sent zstd writer (PacketGW.new .ping packetId 0 0, none) .ok after) :
      PingStep zstd writer client (.sendPing packetId) (.write .ok) after .tick
  | sendFailed {packetId : UInt64} {accepted : Nat} {after : GatewayClient}
      (sent : client.Sent zstd writer (PacketGW.new .ping packetId 0 0, none)
        (.failed accepted) after) :
      PingStep zstd writer client (.sendPing packetId) (.write (.failed accepted)) after
        .finished

inductive CommandStep (zstd : Zstd) (client : GatewayClient) :
    PingCommand → Input → GatewayClient → PingCommand → Prop
  | pingId {writer : ConnectionRef} :
      CommandStep zstd client (.pingId writer) .go
        (client.updateBase client.base.nextPacketId.2)
        (.sendPing writer client.base.nextPacketId.1)
  | sendPing {writer : ConnectionRef} {packetId : UInt64} {outcome : WriteOutcome}
      {after : GatewayClient}
      (sent : client.Sent zstd writer (PacketGW.new .ping packetId 0 0, none) outcome after) :
      CommandStep zstd client (.sendPing writer packetId) (.write outcome) after .idle

variable {zstd : Zstd} {client after : GatewayClient} {input : Input}

theorem appStep_of_eq {link : LinkRef} {task next : ClientAppTask}
    (stepped : client.appStep zstd link task input = some (after, next)) :
    AppStep zstd link client task input after next := by
  cases task with
  | running linkId writer point =>
      simp only [appStep] at stepped
      unfold appExchange at stepped
      split at stepped
      · split at stepped
        · rename_i size
          cases stepped
          exact .read size
        · cases stepped
      · cases stepped
        exact .ended
      · cases stepped
        exact .regularId
      · rename_i bytes packetId outcome
        rcases Option.map_eq_some_iff.mp stepped with ⟨sent, sending, equal⟩
        cases outcome with
        | ok =>
            cases equal
            exact .sendRegular (send_eq_some.mp sending)
        | failed accepted =>
            cases equal
            exact .sendFailed (send_eq_some.mp sending)
      · cases stepped
        exact .addIncoming
      · cases stepped
        exact .closeId
      · rcases Option.map_eq_some_iff.mp stepped with ⟨sent, sending, equal⟩
        cases equal
        exact .sendClose (send_eq_some.mp sending)
      · cases stepped
        exact .removeLink
      · cases stepped
  | absent => cases stepped
  | finished => cases stepped

theorem pingStep_of_eq {writer : ConnectionRef} {task next : PingTask}
    (stepped : client.startPingLoop zstd writer task input = some (after, next)) :
    PingStep zstd writer client task input after next := by
  unfold startPingLoop at stepped
  split at stepped
  · cases stepped
    exact .tick
  · cases stepped
    exact .pingId
  · rename_i packetId outcome
    rcases Option.map_eq_some_iff.mp stepped with ⟨sent, sending, equal⟩
    cases outcome with
    | ok =>
        cases equal
        exact .sendPing (send_eq_some.mp sending)
    | failed accepted =>
        cases equal
        exact .sendFailed (send_eq_some.mp sending)
  · cases stepped

theorem commandStep_of_eq {command next : PingCommand}
    (stepped : client.sendPing zstd command input = some (after, next)) :
    CommandStep zstd client command input after next := by
  unfold sendPing at stepped
  split at stepped
  · cases stepped
    exact .pingId
  · rcases Option.map_eq_some_iff.mp stepped with ⟨sent, sending, equal⟩
    cases equal
    exact .sendPing (send_eq_some.mp sending)
  · cases stepped

end GatewayClient

namespace Client

attribute [simp] exchange

inductive ConnectStep (zstd : Zstd) (connection : ConnectionRef) (client : Client) :
    ConnectClient → Input → Client → Prop
  | connected {linkId : UInt16} :
      ConnectStep zstd connection client (.connect linkId) (.verdict true)
        (client.exchange connection client.shared (.connecting (.addLink linkId)))
  | refused {linkId : UInt16} :
      ConnectStep zstd connection client (.connect linkId) (.verdict false)
        (client.exchange connection client.shared (.connecting (.openFailId linkId)))
  | addLink {linkId : UInt16} :
      ConnectStep zstd connection client (.addLink linkId) .go
        { client with
          shared := { client.shared with
            base := { client.shared.base with
              links := client.shared.base.links.insert linkId client.linkCount
              link := Function.update client.shared.base.link client.linkCount
                (Link.new linkId) }
            openedOn := Function.update client.shared.openedOn client.linkCount connection }
          run := .onConnection connection
            (.exchanging (.connecting (.setConnected linkId client.linkCount)))
          linkCount := client.linkCount + 1 }
  | setConnected {linkId : UInt16} {link : LinkRef} :
      ConnectStep zstd connection client (.setConnected linkId link) .go
        (client.exchange connection (client.shared.updateLink link (Link.setState · .connected))
          (.connecting (.openedId linkId link)))
  | openedId {linkId : UInt16} {link : LinkRef} :
      ConnectStep zstd connection client (.openedId linkId link) .go
        (client.exchange connection
          (client.shared.updateBase client.shared.base.nextPacketId.2)
          (.connecting (.sendOpened linkId link client.shared.base.nextPacketId.1)))
  | sendOpened {linkId : UInt16} {link : LinkRef} {packetId : UInt64} {outcome : WriteOutcome}
      {after : GatewayClient}
      (sent : client.shared.Sent zstd connection (PacketGW.new .opened packetId linkId 0, none)
        outcome after) :
      ConnectStep zstd connection client (.sendOpened linkId link packetId) (.write outcome)
        (client.exchange connection after (.connecting (.spawn linkId link)))
  | spawn {linkId : UInt16} {link : LinkRef} :
      ConnectStep zstd connection client (.spawn linkId link) .go
        { client with
          run := .onConnection connection (.exchanging .receive)
          app := Function.update client.app link (.running linkId connection .read) }
  | openFailId {linkId : UInt16} :
      ConnectStep zstd connection client (.openFailId linkId) .go
        (client.exchange connection
          (client.shared.updateBase client.shared.base.nextPacketId.2)
          (.connecting (.sendOpenFail linkId client.shared.base.nextPacketId.1)))
  | sendOpenFail {linkId : UInt16} {packetId : UInt64} {outcome : WriteOutcome}
      {after : GatewayClient}
      (sent : client.shared.Sent zstd connection
        (PacketGW.new .openFail packetId linkId 0, none) outcome after) :
      ConnectStep zstd connection client (.sendOpenFail linkId packetId) (.write outcome)
        (client.exchange connection after .receive)

inductive ExchangeStep (zstd : Zstd) (connection : ConnectionRef) (client : Client) :
    GatewayExchange → Input → Client → Prop
  | receive {packet : PacketGW} {data : Option Bytes} {point : GatewayExchange}
      (dispatched : GatewayClient.dispatch packet data = some point) :
      ExchangeStep zstd connection client .receive (.frame packet data)
        (client.exchange connection
          (client.shared.updateSockets (client.shared.sockets.receive connection (packet, data)))
          point)
  | denied {packet : PacketGW} {data : Option Bytes}
      (dispatched : GatewayClient.dispatch packet data = none) :
      ExchangeStep zstd connection client .receive (.frame packet data)
        { client with
          shared := client.shared.updateSockets
            (client.shared.sockets.receive connection (packet, data))
          run := .onDisconnection .closeAllLinks }
  | ended :
      ExchangeStep zstd connection client .receive .ended
        { client with run := .onDisconnection .closeAllLinks }
  | pongId :
      ExchangeStep zstd connection client .pongId .go
        (client.exchange connection
          (client.shared.updateBase client.shared.base.nextPacketId.2)
          (.sendPong client.shared.base.nextPacketId.1))
  | sendPong {packetId : UInt64} {outcome : WriteOutcome} {after : GatewayClient}
      (sent : client.shared.Sent zstd connection (PacketGW.new .pong packetId 0 0, none)
        outcome after) :
      ExchangeStep zstd connection client (.sendPong packetId) (.write outcome)
        (client.exchange connection after .receive)
  | connecting {point : ConnectClient} {input : Input} {next : Client}
      (stepped : ConnectStep zstd connection client point input next) :
      ExchangeStep zstd connection client (.connecting point) input next
  | removeFound {linkId : UInt16} {link : LinkRef}
      (found : client.shared.base.links.lookup linkId = some link) :
      ExchangeStep zstd connection client (.removeLink linkId) .go
        (client.exchange connection
          (client.shared.updateBase
            { client.shared.base with links := client.shared.base.links.erase linkId })
          (.closeLink link))
  | removeAbsent {linkId : UInt16} (absent : client.shared.base.links.lookup linkId = none) :
      ExchangeStep zstd connection client (.removeLink linkId) .go
        (client.exchange connection
          (client.shared.updateBase
            { client.shared.base with links := client.shared.base.links.erase linkId })
          .receive)
  | closeLink {link : LinkRef} :
      ExchangeStep zstd connection client (.closeLink link) .go
        (client.exchange connection (client.shared.updateLink link Link.closeConnection)
          .receive)
  | forward {linkId : UInt16} {payload : Bytes} {outcome : WriteOutcome} {link : LinkRef}
      {written : Link} (found : client.shared.base.links.lookup linkId = some link)
      (sent : (client.shared.base.link link).sendPacket payload outcome = some written) :
      ExchangeStep zstd connection client (.forward linkId payload) (.write outcome)
        (client.exchange connection (client.shared.updateLink link fun _ => written) .receive)
  | forwardAbsent {linkId : UInt16} {payload : Bytes}
      (absent : client.shared.base.links.lookup linkId = none) :
      ExchangeStep zstd connection client (.forward linkId payload) .go
        (client.exchange connection client.shared .receive)

inductive OnConnectionStep (zstd : Zstd) (connection : ConnectionRef) (client : Client) :
    OnConnection → Input → Client → Prop
  | setReader :
      OnConnectionStep zstd connection client .setReader .go
        { client with
          shared := { client.shared with gwReader := some connection }
          run := .onConnection connection .setWriter }
  | setWriter (unlocked : client.WriterUnlocked) :
      OnConnectionStep zstd connection client .setWriter .go
        { client with
          shared := { client.shared with gwWriter := some connection }
          run := .onConnection connection .setProcessing }
  | setProcessing :
      OnConnectionStep zstd connection client .setProcessing .go
        { client with
          shared := client.shared.updateBase { client.shared.base with state := .processing }
          run := .onConnection connection .challenge }
  | challenged :
      OnConnectionStep zstd connection client .challenge (.verdict true)
        { client with run := .onConnection connection .responseId }
  | unchallenged :
      OnConnectionStep zstd connection client .challenge (.verdict false)
        { client with run := .onConnection connection .clearReader }
  | responseId :
      OnConnectionStep zstd connection client .responseId .go
        { client with
          shared := client.shared.updateBase client.shared.base.nextPacketId.2
          run := .onConnection connection .authenticate }
  | authenticated :
      OnConnectionStep zstd connection client .authenticate (.verdict true)
        { client with run := .onConnection connection .setConnected }
  | rejected :
      OnConnectionStep zstd connection client .authenticate (.verdict false)
        { client with run := .onConnection connection .clearReader }
  | clearReader :
      OnConnectionStep zstd connection client .clearReader .go
        { client with
          shared := { client.shared with gwReader := none }
          run := .onConnection connection .clearWriter }
  | clearWriter (unlocked : client.WriterUnlocked) :
      OnConnectionStep zstd connection client .clearWriter .go
        { client with
          shared := { client.shared with gwWriter := none }
          run := .onDisconnection .closeAllLinks }
  | setConnected :
      OnConnectionStep zstd connection client .setConnected .go
        { client with
          shared := client.shared.updateBase { client.shared.base with state := .connected }
          run := .onConnection connection .startPing }
  | startPing :
      OnConnectionStep zstd connection client .startPing .go
        { client with
          ping := Function.update client.ping connection .tick
          run := .onConnection connection (.exchanging .receive) }
  | exchanging {point : GatewayExchange} {input : Input} {next : Client}
      (stepped : ExchangeStep zstd connection client point input next) :
      OnConnectionStep zstd connection client (.exchanging point) input next

inductive OnDisconnectionStep (client : Client) : OnDisconnection → Client → Prop
  | closeAllLinks :
      OnDisconnectionStep client .closeAllLinks
        { client with
          shared := client.shared.updateBase client.shared.base.closeAllLinks
          run := .onDisconnection .clearReader }
  | clearReader :
      OnDisconnectionStep client .clearReader
        { client with
          shared := { client.shared with gwReader := none }
          run := .onDisconnection .clearWriter }
  | clearWriter (unlocked : client.WriterUnlocked) :
      OnDisconnectionStep client .clearWriter
        { client with
          shared := { client.shared with gwWriter := none }
          run := .onDisconnection .setWaiting }
  | setWaiting :
      OnDisconnectionStep client .setWaiting
        { client with
          shared := client.shared.updateBase { client.shared.base with state := .waiting }
          run := .setWaiting }

inductive RunStep (zstd : Zstd) (client : Client) : RunTask → Input → Client → Prop
  | setWaiting :
      RunStep zstd client .setWaiting .go
        { client with
          shared := client.shared.updateBase { client.shared.base with state := .waiting }
          run := .connect }
  | connected :
      RunStep zstd client .connect (.verdict true)
        { client with
          run := .onConnection client.connectionCount .setReader
          connectionCount := client.connectionCount + 1 }
  | refused : RunStep zstd client .connect (.verdict false) { client with run := .sleep }
  | retry : RunStep zstd client .sleep .go { client with run := .connect }
  | onConnection {connection : ConnectionRef} {point : OnConnection} {input : Input}
      {next : Client} (stepped : OnConnectionStep zstd connection client point input next) :
      RunStep zstd client (.onConnection connection point) input next
  | onDisconnection {point : OnDisconnection} {next : Client}
      (stepped : OnDisconnectionStep client point next) :
      RunStep zstd client (.onDisconnection point) .go next

inductive ShutdownStep (client : Client) : ClientShutdown → Client → Prop
  | closeAllLinks :
      ShutdownStep client .closeAllLinks
        { client with
          shared := client.shared.updateBase client.shared.base.closeAllLinks
          shutdown := .sleep }
  | sleep : ShutdownStep client .sleep { client with shutdown := .takeWriter }
  | takeWriter {writer : ConnectionRef} (unlocked : client.WriterUnlocked)
      (taken : client.shared.gwWriter = some writer) :
      ShutdownStep client .takeWriter
        { client with
          shared := { client.shared with
            gwWriter := none
            sockets := client.shared.sockets.updateWriter writer GatewayWriter.shutdown }
          shutdown := .finished }
  | noWriter (unlocked : client.WriterUnlocked) (none : client.shared.gwWriter = none) :
      ShutdownStep client .takeWriter { client with shutdown := .finished }

inductive Transition (zstd : Zstd) (client : Client) : ClientAction → Client → Prop
  | run {input : Input} {next : Client} (stepped : RunStep zstd client client.run input next) :
      Transition zstd client (.run input) next
  | app {link : LinkRef} {input : Input} {shared : GatewayClient} {task : ClientAppTask}
      (stepped : client.shared.AppStep zstd link (client.app link) input shared task) :
      Transition zstd client (.app link input)
        { client with shared := shared, app := Function.update client.app link task }
  | ping {connection : ConnectionRef} {input : Input} {shared : GatewayClient} {task : PingTask}
      (stepped : client.shared.PingStep zstd connection (client.ping connection) input shared
        task) :
      Transition zstd client (.ping connection input)
        { client with shared := shared, ping := Function.update client.ping connection task }
  | beginCommand {writer : ConnectionRef} (idle : client.command = .idle)
      (some : client.shared.gwWriter = some writer) :
      Transition zstd client .beginCommand { client with command := .pingId writer }
  | command {input : Input} {shared : GatewayClient} {command : PingCommand}
      (stepped : client.shared.CommandStep zstd client.command input shared command) :
      Transition zstd client (.command input)
        { client with shared := shared, command := command }
  | resetGateway {connection : ConnectionRef} :
      Transition zstd client (.resetGateway connection)
        { client with
          shared := client.shared.updateSockets
            (client.shared.sockets.updateWriter connection GatewayWriter.peerReset) }
  | beginShutdown (absent : client.shutdown = .absent) :
      Transition zstd client .beginShutdown { client with shutdown := .closeAllLinks }
  | shutdown {next : Client} (stepped : ShutdownStep client client.shutdown next) :
      Transition zstd client .shutdown next

/-! ## The step functions take only these steps -/

variable {zstd : Zstd} {client next : Client} {input : Input}

theorem connectStep_of_eq {connection : ConnectionRef} {point : ConnectClient}
    (stepped : client.connectClient zstd connection point input = some next) :
    ConnectStep zstd connection client point input next := by
  unfold connectClient at stepped
  split at stepped
  · cases stepped
    exact .connected
  · cases stepped
    exact .refused
  · cases stepped
    simpa [Gateway.addLink, Gateway.updateLink, Link.new] using ConnectStep.addLink
  · cases stepped
    exact .setConnected
  · cases stepped
    exact .openedId
  · rcases Option.map_eq_some_iff.mp stepped with ⟨sent, sending, equal⟩
    cases equal
    exact .sendOpened (GatewayClient.send_eq_some.mp sending)
  · cases stepped
    exact .spawn
  · cases stepped
    exact .openFailId
  · rcases Option.map_eq_some_iff.mp stepped with ⟨sent, sending, equal⟩
    cases equal
    exact .sendOpenFail (GatewayClient.send_eq_some.mp sending)
  · cases stepped

theorem forwardStep_of_eq {connection : ConnectionRef} {linkId : UInt16} {payload : Bytes}
    {shared : GatewayClient}
    (stepped : client.shared.forwardToApp linkId payload input = some shared) :
    ExchangeStep zstd connection client (.forward linkId payload) input
      (client.exchange connection shared .receive) := by
  unfold GatewayClient.forwardToApp at stepped
  split at stepped
  · split at stepped
    · rename_i found
      rcases Option.map_eq_some_iff.mp stepped with ⟨written, sent, equal⟩
      cases equal
      exact .forward found sent
    · cases stepped
  · split at stepped
    · cases stepped
    · rename_i absent
      cases stepped
      exact .forwardAbsent absent
  · cases stepped

theorem exchangeStep_of_eq {connection : ConnectionRef} {point : GatewayExchange}
    (stepped : client.gatewayExchange zstd connection point input = some next) :
    ExchangeStep zstd connection client point input next := by
  unfold gatewayExchange at stepped
  split at stepped
  · simp only at stepped
    split at stepped
    · rename_i dispatched
      cases stepped
      exact .receive dispatched
    · rename_i dispatched
      cases stepped
      exact .denied dispatched
  · cases stepped
    exact .ended
  · cases stepped
    exact .pongId
  · rcases Option.map_eq_some_iff.mp stepped with ⟨sent, sending, equal⟩
    cases equal
    exact .sendPong (GatewayClient.send_eq_some.mp sending)
  · exact .connecting (connectStep_of_eq stepped)
  · rename_i linkId
    simp only [Gateway.removeLink] at stepped
    cases found : client.shared.base.links.lookup linkId with
    | none =>
        rw [found] at stepped
        cases stepped
        exact .removeAbsent found
    | some link =>
        rw [found] at stepped
        cases stepped
        exact .removeFound found
  · cases stepped
    exact .closeLink
  · rcases Option.map_eq_some_iff.mp stepped with ⟨shared, forwarded, equal⟩
    cases equal
    exact forwardStep_of_eq forwarded
  · cases stepped

theorem onConnectionStep_of_eq {connection : ConnectionRef} {point : OnConnection}
    (stepped : client.onConnection zstd connection point input = some next) :
    OnConnectionStep zstd connection client point input next := by
  unfold onConnection at stepped
  split at stepped
  · cases stepped
    exact .setReader
  · split at stepped
    · rename_i unlocked
      cases stepped
      exact .setWriter unlocked
    · cases stepped
  · cases stepped
    exact .setProcessing
  · cases stepped
    exact .challenged
  · cases stepped
    exact .unchallenged
  · cases stepped
    exact .responseId
  · cases stepped
    exact .authenticated
  · cases stepped
    exact .rejected
  · cases stepped
    exact .clearReader
  · split at stepped
    · rename_i unlocked
      cases stepped
      exact .clearWriter unlocked
    · cases stepped
  · cases stepped
    exact .setConnected
  · cases stepped
    exact .startPing
  · exact .exchanging (exchangeStep_of_eq stepped)
  · cases stepped

theorem onDisconnectionStep_of_eq {point : OnDisconnection}
    (stepped : client.onDisconnection point = some next) :
    OnDisconnectionStep client point next := by
  cases point with
  | closeAllLinks =>
      cases stepped
      exact .closeAllLinks
  | clearReader =>
      cases stepped
      exact .clearReader
  | clearWriter =>
      simp only [onDisconnection] at stepped
      split at stepped
      · rename_i unlocked
        cases stepped
        exact .clearWriter unlocked
      · cases stepped
  | setWaiting =>
      cases stepped
      exact .setWaiting

theorem runStep_of_eq {task : RunTask} (stepped : client.runStep zstd task input = some next) :
    RunStep zstd client task input next := by
  unfold runStep at stepped
  split at stepped
  · cases stepped
    exact .setWaiting
  · cases stepped
    exact .connected
  · cases stepped
    exact .refused
  · cases stepped
    exact .retry
  · exact .onConnection (onConnectionStep_of_eq stepped)
  · exact .onDisconnection (onDisconnectionStep_of_eq stepped)
  · cases stepped

theorem shutdownStep_of_eq {task : ClientShutdown}
    (stepped : client.shutdownStep task = some next) : ShutdownStep client task next := by
  unfold shutdownStep at stepped
  split at stepped
  · cases stepped
    exact .closeAllLinks
  · cases stepped
    exact .sleep
  · split at stepped
    · rename_i unlocked
      simp only at stepped
      split at stepped
      · rename_i taken
        cases stepped
        exact .takeWriter unlocked taken
      · rename_i none
        cases stepped
        rw [← none]
        exact .noWriter unlocked none
    · cases stepped
  · cases stepped

theorem transition_of_step {action : ClientAction}
    (stepped : step zstd client action = some next) : Transition zstd client action next := by
  cases action with
  | run input => exact .run (runStep_of_eq stepped)
  | app link input =>
      rcases Option.map_eq_some_iff.mp stepped with ⟨⟨shared, task⟩, taken, equal⟩
      cases equal
      exact .app (GatewayClient.appStep_of_eq taken)
  | ping connection input =>
      rcases Option.map_eq_some_iff.mp stepped with ⟨⟨shared, task⟩, taken, equal⟩
      cases equal
      exact .ping (GatewayClient.pingStep_of_eq taken)
  | beginCommand =>
      simp only [step] at stepped
      split at stepped
      · rename_i idle some
        cases stepped
        exact .beginCommand idle some
      · cases stepped
  | command input =>
      rcases Option.map_eq_some_iff.mp stepped with ⟨⟨shared, task⟩, taken, equal⟩
      cases equal
      exact .command (GatewayClient.commandStep_of_eq taken)
  | resetGateway connection =>
      cases stepped
      exact .resetGateway
  | beginShutdown =>
      simp only [step] at stepped
      split at stepped
      · rename_i absent
        cases stepped
        exact .beginShutdown absent
      · cases stepped
  | shutdown => exact .shutdown (shutdownStep_of_eq stepped)

end Client

end IoGateway

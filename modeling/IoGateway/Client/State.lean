import IoGateway.Environment

/-! # State of the gateway client

The shared parts of `GatewayClient` and the program points of its tasks, named
as those of the server after the statement that comes next.
-/

namespace IoGateway

structure GatewayClient where
  base : Gateway
  /-- Read half of the gateway connection. -/
  gwReader : Option ConnectionRef
  /-- Write half of the gateway connection. -/
  gwWriter : Option ConnectionRef
  sockets : GatewaySockets
  /-- History: the connection on which the `Open` of each link was received. -/
  openedOn : LinkRef → ConnectionRef

def GatewayClient.new : GatewayClient where
  base := .new
  gwReader := none
  gwWriter := none
  sockets := .new
  openedOn := fun _ => 0

/-! ## Program points -/

/-- `connect_client`, up to the spawn of the forwarding loop, with
`send_opened` and `send_open_fail`. -/
inductive ConnectClient
  | connect (linkId : UInt16)
  | addLink (linkId : UInt16)
  | setConnected (linkId : UInt16) (link : LinkRef)
  | openedId (linkId : UInt16) (link : LinkRef)
  | sendOpened (linkId : UInt16) (link : LinkRef) (packetId : UInt64)
  | spawn (linkId : UInt16) (link : LinkRef)
  | openFailId (linkId : UInt16)
  | sendOpenFail (linkId : UInt16) (packetId : UInt64)
deriving DecidableEq

inductive GatewayExchange
  | receive
  | pongId
  | sendPong (packetId : UInt64)
  | connecting (point : ConnectClient)
  | removeLink (linkId : UInt16)
  | closeLink (link : LinkRef)
  | forward (linkId : UInt16) (payload : Bytes)
deriving DecidableEq

/-- `on_connection`, with `gw_authenticate`. -/
inductive OnConnection
  | setReader
  | setWriter
  | setProcessing
  | challenge
  | responseId
  | authenticate
  | clearReader
  | clearWriter
  | setConnected
  | startPing
  | exchanging (point : GatewayExchange)
deriving DecidableEq

inductive OnDisconnection
  | closeAllLinks
  | clearReader
  | clearWriter
  | setWaiting
deriving DecidableEq

/-- `run`, with `connect_gateway`. -/
inductive RunTask
  | setWaiting
  | connect
  | sleep
  | onConnection (connection : ConnectionRef) (point : OnConnection)
  | onDisconnection (point : OnDisconnection)
deriving DecidableEq

inductive ClientAppExchange
  | read
  | regularId (chunk : Bytes)
  | sendRegular (chunk : Bytes) (packetId : UInt64)
  | addIncoming (chunk : Bytes)
  | closeId
  | sendClose (packetId : UInt64)
  | removeLink
deriving DecidableEq

inductive ClientAppTask
  | absent
  | running (linkId : UInt16) (writer : ConnectionRef) (point : ClientAppExchange)
  | finished
deriving DecidableEq

inductive PingTask
  | absent
  | tick
  | pingId
  | sendPing (packetId : UInt64)
  | finished
deriving DecidableEq

/-- `send_ping`, called by the command loop. It holds the lock of `gw_writer` for
reading until it returns. -/
inductive PingCommand
  | idle
  | pingId (writer : ConnectionRef)
  | sendPing (writer : ConnectionRef) (packetId : UInt64)
deriving DecidableEq

inductive ClientShutdown
  | absent
  | closeAllLinks
  | sleep
  | takeWriter
  | finished
deriving DecidableEq

structure Client where
  shared : GatewayClient
  run : RunTask
  app : LinkRef → ClientAppTask
  ping : ConnectionRef → PingTask
  command : PingCommand
  shutdown : ClientShutdown
  /-- How many links and gateway connections there have been. -/
  linkCount : Nat
  connectionCount : Nat

def Client.new : Client where
  shared := .new
  run := .setWaiting
  app := fun _ => .absent
  ping := fun _ => .absent
  command := .idle
  shutdown := .absent
  linkCount := 0
  connectionCount := 0

inductive ClientAction
  | run (input : Input)
  | app (link : LinkRef) (input : Input)
  | ping (connection : ConnectionRef) (input : Input)
  | beginCommand
  | command (input : Input)
  | resetGateway (connection : ConnectionRef)
  | beginShutdown
  | shutdown
deriving DecidableEq

end IoGateway

import IoGateway.Environment

/-! # State of the gateway server

The tables of `GatewayServer` and the program points of its tasks. A program
point is named after the statement that comes next; each statement is one
critical section or one socket operation.
-/

namespace IoGateway

structure ClientSession where
  writer : ConnectionRef
  addr : SocketAddr
  sessionId : Uuid
deriving DecidableEq, Repr

structure GatewayServer where
  base : Gateway
  /-- Active client sessions. -/
  clientSessions : FiniteMap SocketAddr ClientSession
  /-- Routing table: the client address that owns each link. -/
  linkClients : FiniteMap UInt16 SocketAddr
  /-- Sessions of the `SessionStore`; the saved link lists are always empty. -/
  sessionStore : FiniteMap Uuid (List (UInt16 × LinkRef))
  sockets : GatewaySockets

namespace GatewayServer

def new : GatewayServer where
  base := .new
  clientSessions := ∅
  linkClients := ∅
  sessionStore := ∅
  sockets := .new

end GatewayServer

/-! ## Program points -/

/-- `remove_link`: the route, the registry entry, then the link itself. -/
inductive RemoveLink
  | route (linkId : UInt16)
  | link (linkId : UInt16)
  | close (ref : LinkRef)
deriving DecidableEq

/-- `handle_app_connection`, from the drawing of the link identifier to the
spawn of the forwarding loop. -/
inductive HandleAppConnection
  | nextLinkId
  | pickClient (linkId : UInt16)
  | reject (linkId : UInt16)
  | addLink (linkId : UInt16) (writer : ConnectionRef) (addr : SocketAddr)
  | insertRoute (linkId : UInt16) (writer : ConnectionRef) (addr : SocketAddr)
  | openId (linkId : UInt16) (writer : ConnectionRef)
  | sendOpen (linkId : UInt16) (writer : ConnectionRef) (packetId : UInt64)
  | setWaiting (linkId : UInt16) (writer : ConnectionRef)
deriving DecidableEq

inductive AppExchange
  | read
  | addIncoming (chunk : Bytes)
  | regularId (chunk : Bytes)
  | sendRegular (chunk : Bytes) (packetId : UInt64)
  | closeId
  | sendClose (packetId : UInt64)
  | removing (point : RemoveLink)
deriving DecidableEq

/-- The task of one application connection: `handle_app_connection` and then
the `app_exchange` loop it spawns. -/
inductive AppTask
  | absent
  | handling (point : HandleAppConnection)
  | exchanging (linkId : UInt16) (writer : ConnectionRef) (point : AppExchange)
  | finished
deriving DecidableEq

inductive HandleGatewayConnection
  | evict
  | challengeId
  | authenticate
  | setConnected
  | saveSession
  | insertSession (sessionId : Uuid)
deriving DecidableEq

/-- `cleanup_client`. The owned links are taken in the order of the hash map,
which is any order. -/
inductive CleanupClient
  | routes
  | links (remaining : Finset UInt16)
  | close (ref : LinkRef) (remaining : Finset UInt16)
  | session
  | store
  | check
  | setWaiting
deriving DecidableEq

/-- `client_exchange`: the loop head, the handling of each packet type, and the
cleanup after the loop. -/
inductive ClientExchange
  | receive
  | pongId
  | sendPong (packetId : UInt64)
  | regularLookup (linkId : UInt16) (payload : Bytes)
  | regularWrite (ref : LinkRef) (payload : Bytes)
  | openedLookup (linkId : UInt16)
  | openedSet (ref : LinkRef)
  | removing (point : RemoveLink)
  | cleanup (point : CleanupClient)
deriving DecidableEq

inductive GatewayTask
  | absent
  | handling (addr : SocketAddr) (point : HandleGatewayConnection)
  | exchanging (addr : SocketAddr) (sessionId : Uuid) (point : ClientExchange)
  | rejected
  | finished
deriving DecidableEq

/-- `GatewayServer::shutdown`. From `closeSession` to its return it holds the write
guard of `client_sessions`; the sessions are drained in any order. -/
inductive ShutdownTask
  | absent
  | closeAllLinks
  | sleep
  | lockSessions
  | closeSession
  | removeSession (sessionId : Uuid)
  | finished
deriving DecidableEq

/-! ## The guard of `client_sessions` -/

def ShutdownTask.holdsSessions : ShutdownTask → Bool
  | .closeSession => true
  | .removeSession _ => true
  | _ => false

/-- The statement that comes next locks `client_sessions`. -/
def AppTask.usesSessions : AppTask → Bool
  | .handling (.pickClient _) => true
  | _ => false

def GatewayTask.usesSessions : GatewayTask → Bool
  | .handling _ .evict => true
  | .handling _ (.insertSession _) => true
  | .exchanging _ _ (.cleanup .session) => true
  | .exchanging _ _ (.cleanup .check) => true
  | _ => false

structure Server where
  shared : GatewayServer
  app : LinkRef → AppTask
  gateway : ConnectionRef → GatewayTask
  shutdown : ShutdownTask
  /-- How many application and gateway connections have been accepted. -/
  appCount : Nat
  gatewayCount : Nat

def Server.new : Server where
  shared := .new
  app := fun _ => .absent
  gateway := fun _ => .absent
  shutdown := .absent
  appCount := 0
  gatewayCount := 0

inductive ServerAction
  | acceptApp
  | acceptGateway (addr : SocketAddr)
  | app (ref : LinkRef) (input : Input)
  | gateway (ref : ConnectionRef) (input : Input)
  | resetGateway (ref : ConnectionRef)
  | beginShutdown
  | shutdown (input : Input)
deriving DecidableEq

end IoGateway

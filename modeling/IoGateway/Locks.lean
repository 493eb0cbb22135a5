import IoGateway.Foundation.LockOrder

/-! # The locks of the gateway

The functions of the gateway as the locks they take and drop. A guard in the
condition of an `if` or in a statement of its own is dropped before what follows; one
in the scrutinee of an `if let` is held until the end of its branches. Socket operations,
timers and spawned tasks take no lock of their own.
-/

namespace IoGateway.Locks

open LockProgram

/-- The locks of one process. The halves of a gateway connection and the links are numbered. -/
inductive Lock
  | reader (connection : Nat)
  | writer (connection : Nat)
  | link (link : Nat)
  | linkReader (link : Nat)
  | links
  | statistics
  | clientSessions
  | linkClients
  | sessionStore
  | state
  | keepAliveStamp
  | packetIdCounter
  | linkIdCounter
  | gwReader
  | gwWriter
  | bufferPool
deriving DecidableEq, Repr

abbrev Program := LockProgram Lock Nat

/-- The order in which locks are nested. Those of the last rank are taken with none of
them held. -/
def rank : Lock → Nat
  | .gwWriter => 0
  | .reader _ => 1
  | .statistics => 2
  | .links => 3
  | .clientSessions => 4
  | _ => 5

theorem rank_lt (lock : Lock) : rank lock < 6 := by
  cases lock <;> simp [rank]

variable {connection link writer bound : Nat}

/-! ## Both gateways -/

def acquireBuffer : Program := touch .bufferPool .write

def dropBuffer : Program := touch .bufferPool .write

namespace Gateway

def nextPacketId : Program := touch .packetIdCounter .write

def nextLinkId : Program := touch .linkIdCounter .write

def updateConnectionsMetric : Program := touch .links .read

def addLink (link : Nat) : Program :=
  all [touch (.link link) .write, touch .links .write, updateConnectionsMetric]

def removeLink : Program := all [touch .links .write, updateConnectionsMetric]

def closeAllLinks : Program :=
  all [hold .links .write (loop (pick fun link => touch (.link link) .write)),
    updateConnectionsMetric]

def sendGwPacket (writer : Nat) : Program :=
  all [touch (.writer writer) .write, oneOf [touch .statistics .write]]

/-- The guard on the reader is held until the payload is decompressed. -/
def readGwPacket (reader : Nat) : Program :=
  hold (.reader reader) .write (oneOf [all [
    touch .statistics .write,
    oneOf [all [acquireBuffer, oneOf [touch .statistics .write], dropBuffer]]]])

def sendPong (writer : Nat) : Program := all [nextPacketId, sendGwPacket writer]

def updateKeepalive : Program := touch .keepAliveStamp .write

def shutdown : Program := closeAllLinks

@[simp] theorem above_nextPacketId (le : bound ≤ 5) : nextPacketId.Above rank bound :=
  above_touch.mpr le

@[simp] theorem above_nextLinkId (le : bound ≤ 5) : nextLinkId.Above rank bound :=
  above_touch.mpr le

@[simp] theorem above_updateKeepalive (le : bound ≤ 5) : updateKeepalive.Above rank bound :=
  above_touch.mpr le

@[simp] theorem above_updateConnectionsMetric (le : bound ≤ 3) :
    updateConnectionsMetric.Above rank bound :=
  above_touch.mpr le

@[simp] theorem above_addLink (le : bound ≤ 3) : (addLink link).Above rank bound := by
  have above : (addLink link).Above rank 3 := by simp [addLink, rank]
  exact above.mono le

@[simp] theorem above_removeLink (le : bound ≤ 3) : removeLink.Above rank bound := by
  have above : removeLink.Above rank 3 := by simp [removeLink, rank]
  exact above.mono le

@[simp] theorem above_closeAllLinks (le : bound ≤ 3) : closeAllLinks.Above rank bound := by
  have above : closeAllLinks.Above rank 3 := by simp [closeAllLinks, rank]
  exact above.mono le

@[simp] theorem above_sendGwPacket (le : bound ≤ 2) : (sendGwPacket writer).Above rank bound := by
  have above : (sendGwPacket writer).Above rank 2 := by simp [sendGwPacket, rank]
  exact above.mono le

@[simp] theorem above_readGwPacket (le : bound ≤ 1) :
    (readGwPacket connection).Above rank bound := by
  have above : (readGwPacket connection).Above rank 1 := by
    simp [readGwPacket, acquireBuffer, dropBuffer, rank]
  exact above.mono le

@[simp] theorem above_sendPong (le : bound ≤ 2) : (sendPong writer).Above rank bound := by
  have above : (sendPong writer).Above rank 2 := by simp [sendPong]
  exact above.mono le

@[simp] theorem above_shutdown (le : bound ≤ 3) : shutdown.Above rank bound :=
  above_closeAllLinks le

end Gateway

def gatewayState : Program := oneOf [touch .state .read]

namespace SessionStore

def saveSession : Program := touch .sessionStore .write

def restoreSession : Program := touch .sessionStore .write

def removeSession : Program := touch .sessionStore .write

def sessionCount : Program := touch .sessionStore .read

end SessionStore

/-! ## The server -/

namespace GatewayServer

open Locks.Gateway Locks.SessionStore

def authenticateClient (connection : Nat) : Program :=
  all [nextPacketId, touch (.writer connection) .write,
    oneOf [all [touch (.reader connection) .write, oneOf [touch (.writer connection) .write]]]]

/-- The old session's writer is locked under the guard on the sessions. -/
def handleGatewayConnection (connection : Nat) : Program :=
  all [hold .clientSessions .write (oneOf [pick fun old => touch (.writer old) .write]),
    authenticateClient connection,
    oneOf [all [touch .state .write, saveSession, touch .clientSessions .write]]]

def removeLink : Program :=
  all [touch .linkClients .write, Gateway.removeLink,
    oneOf [pick fun link => touch (.link link) .write]]

/-- The guard in the condition of the last `if` is dropped before the state is locked. -/
def cleanupClient : Program :=
  all [touch .linkClients .write,
    loop (all [Gateway.removeLink, oneOf [pick fun link => touch (.link link) .write]]),
    touch .clientSessions .write,
    restoreSession,
    touch .clientSessions .read,
    oneOf [touch .state .write]]

def clientExchange (connection : Nat) : Program :=
  all [
    loop (all [readGwPacket connection,
      oneOf [
        sendPong connection,
        all [touch .links .read, oneOf [pick fun link => touch (.link link) .write]],
        removeLink]]),
    cleanupClient]

def listenGateway : Program := touch .state .write

def handleAppConnection (link : Nat) : Program :=
  all [nextLinkId, touch .clientSessions .read,
    oneOf [all [addLink link, touch .linkClients .write, nextPacketId, pick sendGwPacket,
      touch (.link link) .write]]]

def appExchange (link writer : Nat) : Program :=
  all [touch (.link link) .write,
    loop (all [touch (.linkReader link) .write,
      oneOf [all [touch (.link link) .write, nextPacketId, sendGwPacket writer]]]),
    nextPacketId, sendGwPacket writer, removeLink]

def printStats : Program :=
  all [gatewayState,
    hold .statistics .read (hold .links .read (hold .clientSessions .read (all [
      sessionCount, loop (pick fun link => touch (.link link) .write)])))]

def onDisconnection : Program :=
  all [closeAllLinks, touch .clientSessions .write, loop restoreSession, touch .state .write]

def shutdown : Program :=
  all [Gateway.shutdown,
    hold .clientSessions .write
      (loop (all [pick fun session => touch (.writer session) .write, removeSession]))]

def stdinLoopServer : Program := loop printStats

inductive Task
  | listenGateway
  | handleGatewayConnection (connection : Nat)
  | clientExchange (connection : Nat)
  | handleAppConnection (link : Nat)
  | appExchange (link writer : Nat)
  | stdinLoopServer
  | onDisconnection
  | shutdown

def Task.program : Task → Program
  | listenGateway => GatewayServer.listenGateway
  | handleGatewayConnection connection => GatewayServer.handleGatewayConnection connection
  | clientExchange connection => GatewayServer.clientExchange connection
  | handleAppConnection link => GatewayServer.handleAppConnection link
  | appExchange link writer => GatewayServer.appExchange link writer
  | stdinLoopServer => GatewayServer.stdinLoopServer
  | onDisconnection => GatewayServer.onDisconnection
  | shutdown => GatewayServer.shutdown

theorem above_handleGatewayConnection :
    (handleGatewayConnection connection).Above rank 0 := by
  simp [handleGatewayConnection, authenticateClient, saveSession, rank]

theorem above_clientExchange : (clientExchange connection).Above rank 0 := by
  simp [clientExchange, cleanupClient, removeLink, restoreSession, rank]

theorem above_handleAppConnection : (handleAppConnection link).Above rank 0 := by
  simp [handleAppConnection, rank]

theorem above_appExchange : (appExchange link writer).Above rank 0 := by
  simp [appExchange, removeLink, rank]

theorem above_printStats : printStats.Above rank 0 := by
  simp [printStats, gatewayState, sessionCount, rank]

theorem above_onDisconnection : onDisconnection.Above rank 0 := by
  simp [onDisconnection, restoreSession, rank]

theorem above_shutdown : shutdown.Above rank 0 := by
  simp [shutdown, removeSession, rank]

theorem Task.above (task : Task) : task.program.Above rank 0 := by
  cases task with
  | listenGateway => exact above_touch.mpr (Nat.zero_le _)
  | handleGatewayConnection => exact above_handleGatewayConnection
  | clientExchange => exact above_clientExchange
  | handleAppConnection => exact above_handleAppConnection
  | appExchange => exact above_appExchange
  | stdinLoopServer => exact above_printStats
  | onDisconnection => exact above_onDisconnection
  | shutdown => exact above_shutdown

end GatewayServer

/-! ## The client -/

namespace GatewayClient

open Locks.Gateway

def gwAuthenticate (connection : Nat) : Program :=
  all [touch (.reader connection) .write,
    oneOf [all [nextPacketId, touch (.writer connection) .write,
      oneOf [touch (.reader connection) .write]]]]

def startPingLoop (writer : Nat) : Program :=
  loop (all [nextPacketId, sendGwPacket writer, oneOf [updateKeepalive]])

def sendOpened (writer : Nat) : Program := all [nextPacketId, sendGwPacket writer]

def sendOpenFail (writer : Nat) : Program := all [nextPacketId, sendGwPacket writer]

def connectClient (writer : Nat) : Program :=
  choice (pick fun link => all [addLink link, touch (.link link) .write, sendOpened writer])
    (sendOpenFail writer)

/-- The guard on the links is held while the link is written to. -/
def forwardToApp : Program :=
  hold .links .read (oneOf [pick fun link => touch (.link link) .write])

def gatewayExchange (connection : Nat) : Program :=
  loop (all [readGwPacket connection,
    oneOf [
      sendPong connection,
      updateKeepalive,
      connectClient connection,
      all [Gateway.removeLink, oneOf [pick fun link => touch (.link link) .write]],
      forwardToApp]])

def onConnection (connection : Nat) : Program :=
  all [touch .gwReader .write, touch .gwWriter .write, touch .state .write,
    gwAuthenticate connection,
    choice (all [touch .gwReader .write, touch .gwWriter .write])
      (all [touch .state .write, gatewayExchange connection])]

def appExchange (link writer : Nat) : Program :=
  all [touch (.link link) .write, touch (.link link) .write,
    loop (all [touch (.linkReader link) .write,
      oneOf [all [nextPacketId, sendGwPacket writer, oneOf [touch (.link link) .write]]]]),
    nextPacketId, sendGwPacket writer, Gateway.removeLink]

/-- The guard on the place of the writer is held while the packet is sent. -/
def sendPing : Program :=
  hold .gwWriter .read (oneOf [all [nextPacketId, pick sendGwPacket]])

def onDisconnection : Program :=
  all [closeAllLinks, touch .gwReader .write, touch .gwWriter .write, touch .state .write]

def run : Program :=
  loop (all [touch .state .write, pick onConnection, onDisconnection])

def printStats : Program :=
  all [gatewayState,
    hold .statistics .read (hold .links .read (all [
      touch .keepAliveStamp .read, loop (pick fun link => touch (.link link) .write)]))]

def shutdown : Program :=
  all [Gateway.shutdown,
    hold .gwWriter .write (oneOf [pick fun writer => touch (.writer writer) .write])]

def stdinLoopClient : Program := loop (oneOf [printStats, sendPing])

inductive Task
  | run
  | startPingLoop (writer : Nat)
  | appExchange (link writer : Nat)
  | stdinLoopClient
  | shutdown

def Task.program : Task → Program
  | run => GatewayClient.run
  | startPingLoop writer => GatewayClient.startPingLoop writer
  | appExchange link writer => GatewayClient.appExchange link writer
  | stdinLoopClient => GatewayClient.stdinLoopClient
  | shutdown => GatewayClient.shutdown

@[simp] theorem above_connectClient (le : bound ≤ 2) :
    (connectClient writer).Above rank bound := by
  have above : (connectClient writer).Above rank 2 := by
    simp [connectClient, sendOpened, sendOpenFail, rank]
  exact above.mono le

@[simp] theorem above_gatewayExchange (le : bound ≤ 1) :
    (gatewayExchange connection).Above rank bound := by
  have above : (gatewayExchange connection).Above rank 1 := by
    simp [gatewayExchange, forwardToApp, rank]
  exact above.mono le

@[simp] theorem above_onConnection : (onConnection connection).Above rank 0 := by
  simp [onConnection, gwAuthenticate]

@[simp] theorem above_onDisconnection : onDisconnection.Above rank 0 := by
  simp [onDisconnection]

theorem above_run : run.Above rank 0 := by
  simp [run]

theorem above_startPingLoop : (startPingLoop writer).Above rank 0 := by
  simp [startPingLoop]

theorem above_appExchange : (appExchange link writer).Above rank 0 := by
  simp [appExchange]

@[simp] theorem above_sendPing : sendPing.Above rank 0 := by
  simp [sendPing, rank]

@[simp] theorem above_printStats : printStats.Above rank 0 := by
  simp [printStats, gatewayState, rank]

theorem above_stdinLoopClient : stdinLoopClient.Above rank 0 := by
  simp [stdinLoopClient]

theorem above_shutdown : shutdown.Above rank 0 := by
  simp [shutdown, rank]

theorem Task.above (task : Task) : task.program.Above rank 0 := by
  cases task with
  | run => exact above_run
  | startPingLoop => exact above_startPingLoop
  | appExchange => exact above_appExchange
  | stdinLoopClient => exact above_stdinLoopClient
  | shutdown => exact above_shutdown

end GatewayClient

/-! ## One process -/

inductive Process
  | client
  | server

def Process.Task : Process → Type
  | client => GatewayClient.Task
  | server => GatewayServer.Task

def Process.program : (process : Process) → process.Task → Program
  | client => GatewayClient.Task.program
  | server => GatewayServer.Task.program

theorem Process.above (process : Process) (task : process.Task) :
    (process.program task).Above rank 0 := by
  cases process with
  | client => exact GatewayClient.Task.above task
  | server => exact GatewayServer.Task.above task

/-- However many tasks of a process run, no set of them waits for itself. -/
theorem deadlock_free {TaskId : Type u} [DecidableEq TaskId] (process : Process)
    {state : LockOrder.State TaskId Lock Nat}
    (reachable : (LockOrder.system process.program).Reachable state) (tasks : Set TaskId) :
    ¬ state.Deadlocked tasks :=
  LockOrder.not_deadlocked_of_reachable process.above rank_lt reachable tasks

theorem deadlock_free_queued :
    ∃ state : LockOrder.State Nat Lock Nat,
      state.Holds 0 .links ∧ state.Waits 1 .links ∧ state.Holds 2 (.reader 0) ∧
        state.Waits 2 .statistics ∧ ¬ state.Deadlocked {0, 1, 2} := by
  -- the statistics are printed while a shutdown and a received packet wait
  have executed : ((LockOrder.system Process.server.program).runChecked (fun _ _ => true)
      (LockOrder.State.idle : LockOrder.State Nat Lock Nat)
      [.spawn 0 .stdinLoopServer, .left 0, .go 0, .right 0, .go 0, .go 0, .go 0, .acquire 0,
        .go 0, .acquire 0,
        .spawn 1 .shutdown, .go 1, .go 1, .go 1,
        .spawn 2 (.clientExchange 0), .go 2, .left 2, .go 2, .go 2, .acquire 2, .left 2, .go 2,
        .go 2]).any (fun state => decide (
          (0, .read) ∈ state.holders .links ∧ (1, .write) ∈ state.queue .links ∧
          (2, .write) ∈ state.holders (.reader 0) ∧ (2, .write) ∈ state.queue .statistics)) =
      true := by
    decide +kernel
  rcases TransitionSystem.exists_reaches_of_runChecked executed with ⟨state, reaches, found⟩
  rcases of_decide_eq_true found with ⟨holds, waits, reading, counting⟩
  exact ⟨state, ⟨_, holds⟩, ⟨_, waits⟩, ⟨_, reading⟩, ⟨_, counting⟩,
    deadlock_free .server reaches.always {0, 1, 2}⟩

end IoGateway.Locks

import IoGateway.PacketIds
import IoGateway.Server.Sending
import IoGateway.Server.Slots

/-! # Packet identifiers of the server

The tasks of the application and of the gateway connections as the holders of tickets.
-/

namespace IoGateway

inductive ServerHolder
  | app (link : LinkRef)
  | gateway (connection : ConnectionRef)
deriving DecidableEq

def AppTask.packetId? : AppTask → Option UInt64
  | .handling (.sendOpen _ _ packetId) => some packetId
  | .exchanging _ _ (.sendRegular _ packetId) => some packetId
  | .exchanging _ _ (.sendClose packetId) => some packetId
  | _ => none

def GatewayTask.packetId? : GatewayTask → Option UInt64
  | .exchanging _ _ (.sendPong packetId) => some packetId
  | _ => none

namespace Server

def held (server : Server) (holder : ServerHolder) : Option Nat :=
  (match holder with
  | .app link => (server.app link).packetId?
  | .gateway connection => (server.gateway connection).packetId?).map UInt64.toNat

def tickets (server : Server) : Tickets ServerHolder ConnectionRef :=
  ticketsOf server.shared.base server.shared.sockets server.held

variable {zstd : Zstd} {server next : Server} {input : Input} {holder : ServerHolder}

theorem held_app {link : LinkRef} (task : AppTask)
    (app : next.app = Function.update server.app link task)
    (gateway : next.gateway = server.gateway) :
    next.held = Function.update server.held (.app link) (task.packetId?.map UInt64.toNat) := by
  funext holder
  cases holder with
  | app other =>
      by_cases own : other = link
      · subst own
        simp [held, app]
      · simp [held, app, own]
  | gateway => simp [held, gateway]

theorem held_gateway {connection : ConnectionRef} (task : GatewayTask)
    (app : next.app = server.app)
    (gateway : next.gateway = Function.update server.gateway connection task) :
    next.held =
      Function.update server.held (.gateway connection) (task.packetId?.map UInt64.toNat) := by
  funext holder
  cases holder with
  | app => simp [held, app]
  | gateway other =>
      by_cases own : other = connection
      · subst own
        simp [held, gateway]
      · simp [held, gateway, own]

theorem tickets_sent {writer : ConnectionRef} {call : SendCall} {outcome : WriteOutcome}
    {shared : GatewayServer} (sent : server.shared.Sent zstd writer call outcome shared)
    (same : next.shared = shared)
    (drawn : server.held holder = some call.1.packetId.toNat)
    (lost : next.held = Function.update server.held holder none) :
    server.tickets.Step next.tickets := by
  subst same
  have base := sent.base
  rcases sent with ⟨sockets, sending, moved⟩
  have after : next.shared.sockets = sockets := by rw [moved]; rfl
  exact ticketsOf_sent (after ▸ sending) base drawn lost

end Server

namespace GatewayServer

variable {server after : GatewayServer} {input : Input}

theorem RemoveLinkStep.packetIdCounter {point : RemoveLink} {next : Option RemoveLink}
    (removal : RemoveLinkStep server point after next) :
    after.base.packetIdCounter = server.base.packetIdCounter := by
  cases removal <;> rfl

theorem CleanupStep.packetIdCounter {addr : SocketAddr} {sessionId : Uuid}
    {point : CleanupClient} {next : Option CleanupClient}
    (cleaning : CleanupStep addr sessionId server point input after next) :
    after.base.packetIdCounter = server.base.packetIdCounter := by
  cases cleaning <;> rfl

end GatewayServer

namespace Server

variable {zstd : Zstd} {server next : Server} {input : Input}

theorem ticketStep_of_app {link : LinkRef} {shared : GatewayServer} {task : AppTask}
    (stepped : server.shared.AppStep zstd link (server.app link) input shared task)
    (moved : next = { server with
      shared := shared, app := Function.update server.app link task })
    (left : server.shared.base.PacketIdsLeft) : server.tickets.Step next.tickets := by
  have base : next.shared = shared := by rw [moved]
  have held : next.held =
      Function.update server.held (.app link) (task.packetId?.map UInt64.toNat) := by
    rw [moved]
    exact held_app task rfl rfl
  have quiet : shared.base.packetIdCounter = server.shared.base.packetIdCounter →
      shared.sockets = server.shared.sockets → task.packetId? = none →
        server.tickets.Step next.tickets := by
    intro counter sockets idle
    rw [idle] at held
    refine ticketsOf_quiet ?_ held ?_
    · rw [base, counter]
    · rw [base, sockets]
  generalize running : server.app link = before at stepped
  cases stepped with
  | handling stepped =>
      cases stepped with
      | openId => exact ticketsOf_drawn left (by rw [base]; rfl) held (by rw [base]; rfl)
      | sendOpen sent =>
          refine tickets_sent sent base ?_ held
          simp [Server.held, running, AppTask.packetId?, PacketGW.new]
      | _ => exact quiet rfl rfl rfl
  | exchanging stepped =>
      cases stepped with
      | regularId => exact ticketsOf_drawn left (by rw [base]; rfl) held (by rw [base]; rfl)
      | closeId => exact ticketsOf_drawn left (by rw [base]; rfl) held (by rw [base]; rfl)
      | sendRegular sent =>
          refine tickets_sent sent base ?_ held
          simp [Server.held, running, AppTask.packetId?, PacketGW.new]
      | sendFailed sent =>
          refine tickets_sent sent base ?_ held
          simp [Server.held, running, AppTask.packetId?, PacketGW.new]
      | sendClose sent =>
          refine tickets_sent sent base ?_ held
          simp [Server.held, running, AppTask.packetId?, PacketGW.new]
      | removing removal => exact quiet removal.packetIdCounter removal.sockets rfl
      | removed removal => exact quiet removal.packetIdCounter removal.sockets rfl
      | _ => exact quiet rfl rfl rfl

theorem ticketStep_of_gateway {connection : ConnectionRef} {shared : GatewayServer}
    {task : GatewayTask}
    (stepped : server.shared.GatewayStep zstd connection (server.gateway connection) input shared
      task)
    (moved : next = { server with
      shared := shared, gateway := Function.update server.gateway connection task })
    (left : server.shared.base.PacketIdsLeft) : server.tickets.Step next.tickets := by
  have base : next.shared = shared := by rw [moved]
  have held : next.held =
      Function.update server.held (.gateway connection) (task.packetId?.map UInt64.toNat) := by
    rw [moved]
    exact held_gateway task rfl rfl
  have quiet : server.shared.base.packetIdCounter.toNat ≤ shared.base.packetIdCounter.toNat →
      packetIds shared.sockets = packetIds server.shared.sockets → task.packetId? = none →
        server.tickets.Step next.tickets := by
    intro counter sockets idle
    rw [idle] at held
    rw [← base] at counter sockets
    exact ticketsOf_quiet counter held sockets
  have same {after : GatewayServer} (counter : after.base.packetIdCounter =
      server.shared.base.packetIdCounter) : server.shared.base.packetIdCounter.toNat ≤
        after.base.packetIdCounter.toNat := by
    rw [counter]
  generalize running : server.gateway connection = before at stepped
  cases stepped with
  | handling stepped =>
      cases stepped with
      | evict =>
          exact quiet (Nat.le_refl _) (packetIds_of_silent fun _ =>
            GatewaySockets.silent_updateWriter GatewayWriter.silent_shutdown) rfl
      | challengeId =>
          refine quiet ?_ rfl rfl
          have drawn := (Gateway.toNat_nextPacketId left).1
          exact Nat.le_of_lt (Nat.lt_of_lt_of_eq (Nat.lt_succ_self _) drawn.symm)
      | _ => exact quiet (Nat.le_refl _) rfl rfl
  | exchanging stepped =>
      cases stepped with
      | pongId => exact ticketsOf_drawn left (by rw [base]; rfl) held (by rw [base]; rfl)
      | sendPong sent =>
          refine tickets_sent sent base ?_ held
          simp [Server.held, running, GatewayTask.packetId?, PacketGW.new]
      | @receive packet data =>
          refine quiet (Nat.le_refl _) rfl ?_
          unfold GatewayServer.dispatch
          cases packet.packetType <;> first | rfl | (cases data <;> rfl)
      | removing removal =>
          exact quiet (same removal.packetIdCounter) (congrArg _ removal.sockets) rfl
      | removed removal =>
          exact quiet (same removal.packetIdCounter) (congrArg _ removal.sockets) rfl
      | cleanup cleaning =>
          exact quiet (same cleaning.packetIdCounter) (congrArg _ cleaning.sockets) rfl
      | cleaned cleaning =>
          exact quiet (same cleaning.packetIdCounter) (congrArg _ cleaning.sockets) rfl
      | _ => exact quiet (Nat.le_refl _) rfl rfl

theorem ticketStep_of_step {action : ServerAction} (left : server.shared.base.PacketIdsLeft)
    (stepped : step zstd server action = some next) : server.tickets.Step next.tickets := by
  cases transition_of_step stepped with
  | acceptApp =>
      exact ticketsOf_quiet (Nat.le_refl _) (held_app (.handling .nextLinkId) rfl rfl) rfl
  | @acceptGateway addr =>
      exact ticketsOf_quiet (Nat.le_refl _) (held_gateway (.handling addr .evict) rfl rfl) rfl
  | app moved => exact ticketStep_of_app moved rfl left
  | gateway moved => exact ticketStep_of_gateway moved rfl left
  | resetGateway =>
      exact .quiet (Nat.le_refl _) (fun _ => .inl rfl)
        (packetIds_of_silent fun _ => GatewaySockets.silent_updateWriter
          GatewayWriter.silent_peerReset)
  | beginShutdown => exact .quiet (Nat.le_refl _) (fun _ => .inl rfl) rfl
  | shutdown moved =>
      generalize server.shutdown = task at moved
      cases moved with
      | closeSession =>
          exact .quiet (Nat.le_refl _) (fun _ => .inl rfl)
            (packetIds_of_silent fun _ => GatewaySockets.silent_updateWriter
              GatewayWriter.silent_shutdown)
      | _ => exact .quiet (Nat.le_refl _) (fun _ => .inl rfl) rfl

def PacketIdsLeft (server : Server) (_ : ServerAction) : Prop :=
  server.shared.base.PacketIdsLeft

def UniqueIds (server : Server) : Prop := server.tickets.Unique

theorem uniqueIds_new : UniqueIds new := by
  have fresh : new.tickets = Tickets.new := by
    have idle : new.held = fun _ => none := by
      funext holder
      cases holder <;> rfl
    rw [tickets, idle]
    rfl
  rw [UniqueIds, fresh]
  exact Tickets.unique_new

theorem uniqueIds_of_reachable
    (reachable : (system zstd).ReachableUnder PacketIdsLeft server) : server.UniqueIds :=
  reachable.invariant uniqueIds_new fun _ _ _ _ unique left stepped =>
    Tickets.Unique.step unique (ticketStep_of_step left stepped)

/-- As long as the 64-bit counter of packet identifiers has not come round: whatever the
interleaving of all application and gateway connections, all frames that the server has
sent on all of its connections have different identifiers, and none has an identifier
that a task is about to send under. -/
theorem packet_ids_distinct (zstd : Zstd) (server : Server)
    (reachable : (system zstd).ReachableUnder PacketIdsLeft server) :
    let ids := packetIds server.shared.sockets
    (∀ connection, (ids connection).Nodup ∧ 0 ∉ ids connection) ∧
      (∀ connection other, connection ≠ other → (ids connection).Disjoint (ids other)) ∧
      ∀ holder packetId, server.held holder = some packetId →
        (∀ connection, packetId ∉ ids connection) ∧
          ∀ other, server.held other = some packetId → holder = other := by
  have unique : server.tickets.Unique := uniqueIds_of_reachable reachable
  refine ⟨fun connection => ⟨unique.once connection, ?_⟩, unique.apart, ?_⟩
  · intro member
    exact absurd (unique.issued connection 0 member).1 (Nat.lt_irrefl 0)
  · intro holder packetId held
    exact ⟨unique.unused holder packetId held, fun other too => unique.alone _ _ _ held too⟩

theorem packet_ids_distinct_interleaved :
    ∃ server : Server, packetIds server.shared.sockets 0 = [2, 4, 3] ∧
      (packetIds server.shared.sockets 0).Nodup := by
  have executed : ((system .runLength).runChecked
      (fun server _ => server.shared.base.PacketIdsLeft) .new
      (oneOpenLink ++ [.app 0 (.chunk [7]), .app 0 .go, .app 0 .go,
        .gateway 0 (.frame (PacketGW.new .ping 1 0 0) none), .gateway 0 .go,
        .gateway 0 (.write .ok), .app 0 (.write .ok)])).any
      (fun server => packetIds server.shared.sockets 0 = [2, 4, 3]) = true := by decide +kernel
  rcases TransitionSystem.exists_reaches_of_runChecked executed with ⟨server, reaches, found⟩
  have reachable := reaches.mono fun _ _ passed => of_decide_eq_true passed
  exact ⟨server, of_decide_eq_true found,
    ((packet_ids_distinct .runLength server reachable).1 0).1⟩

end Server

end IoGateway

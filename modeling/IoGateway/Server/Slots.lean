import IoGateway.Server.Transitions

/-! # Task slots

Connections take their slots in the order in which they are accepted; the slots
after them are absent.
-/

namespace IoGateway

namespace Server

variable {zstd : Zstd} {server next : Server} {action : ServerAction} {input : Input}

structure SlotsInOrder (server : Server) : Prop where
  app : ∀ ref, server.appCount ≤ ref → server.app ref = .absent
  gateway : ∀ ref, server.gatewayCount ≤ ref → server.gateway ref = .absent

theorem slotsInOrder_new : SlotsInOrder Server.new where
  app := fun _ _ => rfl
  gateway := fun _ _ => rfl

theorem SlotsInOrder.app_lt (slots : SlotsInOrder server) {ref : LinkRef}
    (present : server.app ref ≠ .absent) : ref < server.appCount :=
  Nat.lt_of_not_le fun beyond => present (slots.app ref beyond)

theorem SlotsInOrder.gateway_lt (slots : SlotsInOrder server) {ref : ConnectionRef}
    (present : server.gateway ref ≠ .absent) : ref < server.gatewayCount :=
  Nat.lt_of_not_le fun beyond => present (slots.gateway ref beyond)

theorem app_ne_absent {server : GatewayServer} {ref : LinkRef} {task next : AppTask}
    {after : GatewayServer} (stepped : server.AppStep zstd ref task input after next) :
    task ≠ .absent := by
  cases stepped <;> simp

theorem gateway_ne_absent {server : GatewayServer} {ref : ConnectionRef}
    {task next : GatewayTask} {after : GatewayServer}
    (stepped : server.GatewayStep zstd ref task input after next) : task ≠ .absent := by
  cases stepped <;> simp

theorem SlotsInOrder.step (slots : SlotsInOrder server)
    (stepped : step zstd server action = some next) : SlotsInOrder next := by
  cases transition_of_step stepped with
  | acceptApp =>
      refine ⟨?_, slots.gateway⟩
      intro ref beyond
      have different : ref ≠ server.appCount := by
        change server.appCount + 1 ≤ ref at beyond
        omega
      have earlier : server.appCount ≤ ref := by
        change server.appCount + 1 ≤ ref at beyond
        omega
      simpa [different] using slots.app ref earlier
  | acceptGateway =>
      refine ⟨slots.app, ?_⟩
      intro ref beyond
      have different : ref ≠ server.gatewayCount := by
        change server.gatewayCount + 1 ≤ ref at beyond
        omega
      have earlier : server.gatewayCount ≤ ref := by
        change server.gatewayCount + 1 ≤ ref at beyond
        omega
      simpa [different] using slots.gateway ref earlier
  | @app slot input shared task moved =>
      have used := slots.app_lt (app_ne_absent moved)
      refine ⟨?_, slots.gateway⟩
      intro ref beyond
      change server.appCount ≤ ref at beyond
      have different : ref ≠ slot := Nat.ne_of_gt (Nat.lt_of_lt_of_le used beyond)
      simpa [different] using slots.app ref beyond
  | @gateway slot input shared task moved =>
      have used := slots.gateway_lt (gateway_ne_absent moved)
      refine ⟨slots.app, ?_⟩
      intro ref beyond
      change server.gatewayCount ≤ ref at beyond
      have different : ref ≠ slot := Nat.ne_of_gt (Nat.lt_of_lt_of_le used beyond)
      simpa [different] using slots.gateway ref beyond
  | resetGateway => exact ⟨slots.app, slots.gateway⟩
  | beginShutdown => exact ⟨slots.app, slots.gateway⟩
  | shutdown => exact ⟨slots.app, slots.gateway⟩

theorem counts_le_of_step (stepped : step zstd server action = some next) :
    server.appCount ≤ next.appCount ∧ server.gatewayCount ≤ next.gatewayCount := by
  cases transition_of_step stepped with
  | acceptApp => exact ⟨Nat.le_succ _, Nat.le_refl _⟩
  | acceptGateway => exact ⟨Nat.le_refl _, Nat.le_succ _⟩
  | _ => exact ⟨Nat.le_refl _, Nat.le_refl _⟩

theorem slotsInOrder_of_reachable (reachable : (system zstd).Reachable server) :
    SlotsInOrder server :=
  reachable.invariant slotsInOrder_new fun _ _ _ _ slots _ stepped => slots.step stepped

inductive GatewayMove (zstd : Zstd) (server next : Server) (ref : ConnectionRef) :
    ServerAction → GatewayTask → Prop
  | kept {action : ServerAction} :
      GatewayMove zstd server next ref action (server.gateway ref)
  | accepted {addr : SocketAddr} (free : ref = server.gatewayCount) :
      GatewayMove zstd server next ref (.acceptGateway addr) (.handling addr .evict)
  | moved {input : Input} {task : GatewayTask}
      (stepped : server.shared.GatewayStep zstd ref (server.gateway ref) input next.shared task) :
      GatewayMove zstd server next ref (.gateway ref input) task

theorem gatewayMove_of_step (stepped : step zstd server action = some next)
    (ref : ConnectionRef) : GatewayMove zstd server next ref action (next.gateway ref) := by
  cases transition_of_step stepped with
  | @acceptGateway addr =>
      change GatewayMove zstd server _ ref _ (Function.update server.gateway _ _ ref)
      by_cases own : ref = server.gatewayCount
      · rw [own, Function.update_self, ← own]
        exact .accepted own
      · rw [Function.update_of_ne own]
        exact .kept
  | @gateway moving input shared task moved =>
      change GatewayMove zstd server _ ref _ (Function.update server.gateway moving task ref)
      by_cases own : ref = moving
      · subst own
        rw [Function.update_self]
        exact .moved moved
      · rw [Function.update_of_ne own]
        exact .kept
  | _ => exact .kept

/-- A client connects, and an application whose connection stays open. -/
def oneOpenLink : List ServerAction :=
  [.acceptGateway localClient, .gateway 0 .go, .gateway 0 .go, .gateway 0 (.verdict true),
    .gateway 0 .go, .gateway 0 (.session 7), .gateway 0 .go,
    .acceptApp, .app 0 .go, .app 0 (.client localClient), .app 0 .go, .app 0 .go, .app 0 .go,
    .app 0 (.write .ok), .app 0 .go]

end Server

end IoGateway

import IoGateway.Foundation.Ownership
import IoGateway.Server.Registry

/-! # Release of the server's tables

Every entry of the four tables is held by a task that is still bound to remove
it, and a state other than `Waiting` by a client's task that has not yet
decided to reset it. When no task is left, nothing is left in the tables.
-/

namespace IoGateway

/-! ## What a task holds -/

/-- The task put the link into the registry and has not removed it yet. -/
def AppTask.HoldsLink : AppTask → UInt16 → Prop
  | .handling (.insertRoute linkId _ _), key => linkId = key
  | .handling (.openId linkId _), key => linkId = key
  | .handling (.sendOpen linkId _ _), key => linkId = key
  | .handling (.setWaiting linkId _), key => linkId = key
  | .exchanging _ _ (.removing (.route linkId)), key => linkId = key
  | .exchanging _ _ (.removing (.link linkId)), key => linkId = key
  | .exchanging _ _ (.removing (.close _)), _ => False
  | .exchanging linkId _ _, key => linkId = key
  | _, _ => False

def AppTask.HoldsRoute : AppTask → UInt16 → Prop
  | .handling (.openId linkId _), key => linkId = key
  | .handling (.sendOpen linkId _ _), key => linkId = key
  | .handling (.setWaiting linkId _), key => linkId = key
  | .exchanging _ _ (.removing (.route linkId)), key => linkId = key
  | .exchanging _ _ (.removing _), _ => False
  | .exchanging linkId _ _, key => linkId = key
  | _, _ => False

/-- A route is inserted after the link is, and removed before it. -/
theorem AppTask.HoldsRoute.holdsLink {task : AppTask} {linkId : UInt16}
    (holds : task.HoldsRoute linkId) : task.HoldsLink linkId := by
  cases task with
  | handling point => cases point <;> first | exact holds | exact holds.elim
  | exchanging own writer point =>
      cases point with
      | removing point => cases point <;> first | exact holds | exact holds.elim
      | _ => exact holds
  | _ => exact holds.elim

/-- The task registered the session and has not yet tried to remove it. -/
def GatewayTask.HoldsSession : GatewayTask → SocketAddr × Uuid → Prop
  | .exchanging _ _ (.cleanup .store), _ => False
  | .exchanging _ _ (.cleanup .check), _ => False
  | .exchanging _ _ (.cleanup .setWaiting), _ => False
  | .exchanging addr sessionId _, key => (addr, sessionId) = key
  | _, _ => False

def GatewayTask.HoldsStore : GatewayTask → Uuid → Prop
  | .handling _ (.insertSession sessionId), key => sessionId = key
  | .exchanging _ _ (.cleanup .check), _ => False
  | .exchanging _ _ (.cleanup .setWaiting), _ => False
  | .exchanging _ sessionId _, key => sessionId = key
  | _, _ => False

/-- The task has set the state to `Connected` and has yet to look whether it
was the last one. -/
def GatewayTask.Pending : GatewayTask → Prop
  | .handling _ .saveSession => True
  | .handling _ (.insertSession _) => True
  | .exchanging _ _ _ => True
  | _ => False

/-! ## Steps of the tasks -/

namespace GatewayServer

variable {zstd : Zstd} {server after : GatewayServer} {input : Input}

def HasLink (server : GatewayServer) (linkId : UInt16) : Prop :=
  server.base.links.lookup linkId ≠ none

def HasRoute (server : GatewayServer) (linkId : UInt16) : Prop :=
  server.linkClients.lookup linkId ≠ none

def HasSession (server : GatewayServer) (key : SocketAddr × Uuid) : Prop :=
  ∃ session, server.clientSessions.lookup key.1 = some session ∧ session.sessionId = key.2

def HasStored (server : GatewayServer) (sessionId : Uuid) : Prop :=
  server.sessionStore.lookup sessionId ≠ none

theorem LinksShrink.hasLink (shrink : LinksShrink server after) (key : UInt16)
    (present : after.HasLink key) : server.HasLink key := by
  rcases Option.ne_none_iff_exists'.mp present with ⟨ref, found⟩
  have before := shrink key ref found
  simp [HasLink, before]

def RoutesShrink (server after : GatewayServer) : Prop :=
  ∀ linkId addr, after.linkClients.lookup linkId = some addr →
    server.linkClients.lookup linkId = some addr

theorem RoutesShrink.hasRoute (shrink : RoutesShrink server after) (key : UInt16)
    (present : after.HasRoute key) : server.HasRoute key := by
  rcases Option.ne_none_iff_exists'.mp present with ⟨addr, found⟩
  have before := shrink key addr found
  simp [HasRoute, before]

theorem RoutesShrink.of_eq (same : after.linkClients = server.linkClients) :
    RoutesShrink server after :=
  fun _ _ found => same ▸ found

theorem RemoveLinkStep.routesShrink {point : RemoveLink} {next : Option RemoveLink}
    (removal : RemoveLinkStep server point after next) : RoutesShrink server after := by
  cases removal with
  | route => exact fun _ _ found => (FiniteMap.lookup_of_erase found).2
  | _ => exact .of_eq rfl

theorem AppStep.link_created {ref : LinkRef} {task next : AppTask}
    (stepped : server.AppStep zstd ref task input after next) (key : UInt16)
    (present : after.HasLink key) : server.HasLink key ∨ next.HoldsLink key := by
  cases stepped.linkId with
  | draw => exact .inl present
  | @register linkId writer addr =>
      simp only [HasLink, updateBase, FiniteMap.lookup_insert] at present
      by_cases equal : key = linkId
      · exact .inr equal.symm
      · exact .inl (by simpa [HasLink, equal] using present)
  | keep _ shrink => exact .inl (shrink.hasLink key present)
  | finish _ shrink => exact .inl (shrink.hasLink key present)

/-- A route was there before, or the task that steps inserts it. -/
theorem AppStep.route_found {ref : LinkRef} {task next : AppTask}
    (stepped : server.AppStep zstd ref task input after next) {key : UInt16}
    {owner : SocketAddr} (found : after.linkClients.lookup key = some owner) :
    server.linkClients.lookup key = some owner ∨
      ∃ writer, task = .handling (.insertRoute key writer owner) ∧
        next = .handling (.openId key writer) := by
  cases stepped with
  | handling stepped =>
      cases stepped with
      | sendOpen sent => exact .inl (sent.linkClients ▸ found)
      | @insertRoute linkId writer addr =>
          rw [FiniteMap.lookup_insert] at found
          split at found
          · rename_i equal
            cases found
            subst equal
            exact .inr ⟨writer, rfl, rfl⟩
          · exact .inl found
      | _ => exact .inl found
  | exchanging stepped =>
      cases stepped with
      | sendRegular sent => exact .inl (sent.linkClients ▸ found)
      | sendFailed sent => exact .inl (sent.linkClients ▸ found)
      | sendClose sent => exact .inl (sent.linkClients ▸ found)
      | removing removal => exact .inl (removal.routesShrink key owner found)
      | removed removal => exact .inl (removal.routesShrink key owner found)
      | _ => exact .inl found

theorem AppStep.route_created {ref : LinkRef} {task next : AppTask}
    (stepped : server.AppStep zstd ref task input after next) (key : UInt16)
    (present : after.HasRoute key) : server.HasRoute key ∨ next.HoldsRoute key := by
  rcases Option.ne_none_iff_exists'.mp present with ⟨owner, found⟩
  rcases stepped.route_found found with before | ⟨writer, -, rfl⟩
  · exact .inl (Option.ne_none_iff_exists'.mpr ⟨owner, before⟩)
  · exact .inr rfl

theorem AppStep.link_kept {ref : LinkRef} {task next : AppTask}
    (stepped : server.AppStep zstd ref task input after next) (key : UInt16)
    (held : task.HoldsLink key) (present : after.HasLink key) : next.HoldsLink key := by
  cases stepped with
  | handling stepped =>
      cases stepped with
      | addLink => exact held.elim
      | _ => exact held
  | exchanging stepped =>
      cases stepped with
      | removing removal =>
          cases removal with
          | route => exact held
          | found => simp_all [AppTask.HoldsLink, HasLink]
      | removed removal =>
          cases removal with
          | absent => simp_all [AppTask.HoldsLink, HasLink]
          | close => exact held
      | _ => exact held

theorem AppStep.route_kept {ref : LinkRef} {task next : AppTask}
    (stepped : server.AppStep zstd ref task input after next) (key : UInt16)
    (held : task.HoldsRoute key) (present : after.HasRoute key) : next.HoldsRoute key := by
  cases stepped with
  | handling stepped =>
      cases stepped with
      | insertRoute => exact held.elim
      | _ => exact held
  | exchanging stepped =>
      cases stepped with
      | removing removal =>
          cases removal with
          | route => simp_all [AppTask.HoldsRoute, HasRoute]
          | found => exact held
      | removed removal => cases removal <;> exact held
      | _ => exact held

/-! ## Steps of the clients' tasks -/

theorem CleanupStep.routesShrink {addr : SocketAddr} {sessionId : Uuid} {point : CleanupClient}
    {next : Option CleanupClient}
    (cleaning : CleanupStep addr sessionId server point input after next) :
    RoutesShrink server after := by
  cases cleaning with
  | routes =>
      exact fun _ _ found => ((FiniteMap.lookup_filter_eq_some _ _ _ _).mp found).1
  | _ => exact .of_eq rfl

/-- Clients' tasks create no routes. -/
theorem GatewayStep.routesShrink {ref : ConnectionRef} {task next : GatewayTask}
    (stepped : server.GatewayStep zstd ref task input after next) :
    RoutesShrink server after := by
  cases stepped with
  | handling stepped => cases stepped <;> exact .of_eq rfl
  | exchanging stepped =>
      cases stepped with
      | sendPong sent => exact .of_eq sent.linkClients
      | removing removal => exact removal.routesShrink
      | removed removal => exact removal.routesShrink
      | cleanup cleaning => exact cleaning.routesShrink
      | cleaned cleaning => exact cleaning.routesShrink
      | _ => exact .of_eq rfl

structure SameSessions (server after : GatewayServer) : Prop where
  clientSessions : after.clientSessions = server.clientSessions
  sessionStore : after.sessionStore = server.sessionStore
  state : after.base.state = server.base.state

theorem Sent.sameSessions {writer : ConnectionRef} {call : SendCall} {outcome : WriteOutcome}
    (sent : server.Sent zstd writer call outcome after) : SameSessions server after := by
  rcases sent with ⟨half, _, rfl⟩
  exact ⟨rfl, rfl, rfl⟩

theorem RemoveLinkStep.sameSessions {point : RemoveLink} {next : Option RemoveLink}
    (removal : RemoveLinkStep server point after next) : SameSessions server after := by
  cases removal <;> exact ⟨rfl, rfl, rfl⟩

/-- Application tasks only read the sessions. -/
theorem AppStep.sameSessions {ref : LinkRef} {task next : AppTask}
    (stepped : server.AppStep zstd ref task input after next) : SameSessions server after := by
  cases stepped with
  | handling stepped =>
      cases stepped with
      | sendOpen sent => exact sent.sameSessions
      | _ => exact ⟨rfl, rfl, rfl⟩
  | exchanging stepped =>
      cases stepped with
      | sendRegular sent => exact sent.sameSessions
      | sendFailed sent => exact sent.sameSessions
      | sendClose sent => exact sent.sameSessions
      | removing removal => exact removal.sameSessions
      | removed removal => exact removal.sameSessions
      | _ => exact ⟨rfl, rfl, rfl⟩

theorem SameSessions.hasSession (same : SameSessions server after) (key : SocketAddr × Uuid)
    (present : after.HasSession key) : server.HasSession key := by
  simpa [HasSession, same.clientSessions] using present

theorem SameSessions.hasStored (same : SameSessions server after) (key : Uuid)
    (present : after.HasStored key) : server.HasStored key := by
  simpa [HasStored, same.sessionStore] using present

theorem GatewayStep.session_created {ref : ConnectionRef} {task next : GatewayTask}
    (stepped : server.GatewayStep zstd ref task input after next) (key : SocketAddr × Uuid)
    (present : after.HasSession key) : server.HasSession key ∨ next.HoldsSession key := by
  cases stepped with
  | handling stepped =>
      cases stepped with
      | evict =>
          rcases present with ⟨session, found, equal⟩
          exact .inl ⟨session, (FiniteMap.lookup_of_erase found).2, equal⟩
      | evictNone =>
          rcases present with ⟨session, found, equal⟩
          exact .inl ⟨session, (FiniteMap.lookup_of_erase found).2, equal⟩
      | insertSession =>
          rcases present with ⟨session, found, equal⟩
          rw [FiniteMap.lookup_insert] at found
          split at found
          · rename_i same
            cases found
            exact .inr (Prod.ext same.symm equal)
          · exact .inl ⟨session, found, equal⟩
      | _ => exact .inl present
  | exchanging stepped =>
      cases stepped with
      | sendPong sent => exact .inl (sent.sameSessions.hasSession key present)
      | removing removal => exact .inl (removal.sameSessions.hasSession key present)
      | removed removal => exact .inl (removal.sameSessions.hasSession key present)
      | cleanup cleaning =>
          cases cleaning with
          | session =>
              rcases present with ⟨session, found, equal⟩
              exact .inl ⟨session, (FiniteMap.lookup_of_erase found).2, equal⟩
          | _ => exact .inl present
      | cleaned cleaning => cases cleaning <;> exact .inl present
      | _ => exact .inl present

theorem holdsSession_dispatch {addr : SocketAddr} {sessionId : Uuid} {packet : PacketGW}
    {data : Option Bytes} :
    (GatewayTask.exchanging addr sessionId (dispatch packet data)).HoldsSession
      (addr, sessionId) := by
  unfold dispatch
  split
  · rfl
  · split <;> rfl
  all_goals rfl

theorem holdsStore_dispatch {addr : SocketAddr} {sessionId : Uuid} {packet : PacketGW}
    {data : Option Bytes} :
    (GatewayTask.exchanging addr sessionId (dispatch packet data)).HoldsStore sessionId := by
  unfold dispatch
  split
  · rfl
  · split <;> rfl
  all_goals rfl

/-- A client's task lets go of its session when it is no longer registered. -/
theorem GatewayStep.session_kept {ref : ConnectionRef} {task next : GatewayTask}
    (stepped : server.GatewayStep zstd ref task input after next) (key : SocketAddr × Uuid)
    (held : task.HoldsSession key) (present : after.HasSession key) :
    next.HoldsSession key := by
  cases stepped with
  | handling stepped => cases stepped <;> exact held.elim
  | exchanging stepped =>
      cases stepped with
      | receive =>
          cases held
          exact holdsSession_dispatch
      | cleanup cleaning =>
          cases cleaning with
          | session found current =>
              rcases present with ⟨session, stored, equal⟩
              cases held
              exact absurd rfl (FiniteMap.lookup_of_erase stored).1
          | replaced replaced =>
              rcases present with ⟨session, stored, equal⟩
              cases held
              exact absurd equal (replaced session stored)
          | store => exact held.elim
          | noClients => exact held.elim
          | _ => exact held
      | cleaned cleaning => cases cleaning <;> exact held.elim
      | _ => exact held

theorem GatewayStep.stored_created {ref : ConnectionRef} {task next : GatewayTask}
    (stepped : server.GatewayStep zstd ref task input after next) (key : Uuid)
    (present : after.HasStored key) : server.HasStored key ∨ next.HoldsStore key := by
  cases stepped with
  | handling stepped =>
      cases stepped with
      | @saveSession sessionId =>
          simp only [HasStored, FiniteMap.lookup_insert] at present
          by_cases equal : key = sessionId
          · exact .inr equal.symm
          · exact .inl (by simpa [HasStored, equal] using present)
      | _ => exact .inl present
  | exchanging stepped =>
      cases stepped with
      | sendPong sent => exact .inl (sent.sameSessions.hasStored key present)
      | removing removal => exact .inl (removal.sameSessions.hasStored key present)
      | removed removal => exact .inl (removal.sameSessions.hasStored key present)
      | cleanup cleaning =>
          cases cleaning with
          | store => simp_all [HasStored, FiniteMap.lookup_erase]
          | _ => exact .inl present
      | cleaned cleaning => cases cleaning <;> exact .inl present
      | _ => exact .inl present

theorem GatewayStep.stored_kept {ref : ConnectionRef} {task next : GatewayTask}
    (stepped : server.GatewayStep zstd ref task input after next) (key : Uuid)
    (held : task.HoldsStore key) (present : after.HasStored key) : next.HoldsStore key := by
  cases stepped with
  | handling stepped =>
      cases stepped with
      | insertSession => exact held
      | _ => exact held.elim
  | exchanging stepped =>
      cases stepped with
      | receive =>
          cases held
          exact holdsStore_dispatch
      | cleanup cleaning =>
          cases cleaning with
          | store => simp_all [HasStored, GatewayTask.HoldsStore]
          | noClients => exact held.elim
          | _ => exact held
      | cleaned cleaning => cases cleaning <;> exact held.elim
      | _ => exact held

/-- A client's task leaves the state `Waiting`, or it is bound to look again. -/
theorem GatewayStep.state_created {ref : ConnectionRef} {task next : GatewayTask}
    (stepped : server.GatewayStep zstd ref task input after next)
    (present : after.base.state ≠ .waiting) :
    server.base.state ≠ .waiting ∨ next.Pending := by
  cases stepped with
  | handling stepped =>
      cases stepped with
      | setConnected => exact .inr trivial
      | _ => exact .inl present
  | exchanging stepped =>
      cases stepped with
      | sendPong sent => exact .inl (sent.sameSessions.state ▸ present)
      | removing removal => exact .inl (removal.sameSessions.state ▸ present)
      | removed removal => exact .inl (removal.sameSessions.state ▸ present)
      | cleanup cleaning => exact .inr trivial
      | cleaned cleaning =>
          cases cleaning with
          | clients => exact .inl present
          | setWaiting => exact absurd rfl present
      | _ => exact .inl present

/-- A client's task that no longer looks at the state has left other clients
registered, or the state is `Waiting`. -/
theorem GatewayStep.state_kept {ref : ConnectionRef} {task next : GatewayTask}
    (stepped : server.GatewayStep zstd ref task input after next) (held : task.Pending)
    (present : after.base.state ≠ .waiting) :
    next.Pending ∨ after.clientSessions ≠ ∅ := by
  cases stepped with
  | handling stepped =>
      cases stepped with
      | saveSession => exact .inl trivial
      | insertSession => exact .inl trivial
      | _ => exact held.elim
  | exchanging stepped =>
      cases stepped with
      | cleaned cleaning =>
          cases cleaning with
          | clients some => exact .inr some
          | setWaiting => exact absurd rfl present
      | _ => exact .inl trivial

end GatewayServer

namespace Server

variable {zstd : Zstd} {server next : Server} {action : ServerAction} {input : Input}

/-- Every entry of the tables and every state other than `Waiting` has a task
that is bound to clear it. -/
structure Released (server : Server) : Prop where
  links : Owned server.shared.HasLink AppTask.HoldsLink server.app
  routes : Owned server.shared.HasRoute AppTask.HoldsRoute server.app
  sessions : Owned server.shared.HasSession GatewayTask.HoldsSession server.gateway
  stored : Owned server.shared.HasStored GatewayTask.HoldsStore server.gateway
  state : Owned (fun _ : Unit => server.shared.base.state ≠ .waiting)
    (fun task _ => task.Pending) server.gateway

theorem released_new : Released Server.new where
  links := fun _ present => absurd rfl present
  routes := fun _ present => absurd rfl present
  sessions := by
    intro key present
    rcases present with ⟨session, found, _⟩
    cases found
  stored := fun _ present => absurd rfl present
  state := fun _ present => absurd rfl present

theorem pending_of_holdsSession {task : GatewayTask} {key : SocketAddr × Uuid}
    (held : task.HoldsSession key) : task.Pending := by
  cases task with
  | exchanging => trivial
  | _ => exact held.elim

theorem hasSession_of_ne_empty {server : GatewayServer} (some : server.clientSessions ≠ ∅) :
    ∃ key, server.HasSession key := by
  by_contra none
  apply some
  rw [FiniteMap.eq_empty_iff]
  intro addr
  cases found : server.clientSessions.lookup addr with
  | none => rfl
  | some session => exact absurd ⟨(addr, session.sessionId), session, found, rfl⟩ none

theorem Released.app {ref : LinkRef} {shared : GatewayServer} {task : AppTask}
    (released : Released server)
    (stepped : server.shared.AppStep zstd ref (server.app ref) input shared task) :
    Released { server with shared := shared, app := Function.update server.app ref task } where
  links := released.links.update stepped.link_created stepped.link_kept
  routes := released.routes.update stepped.route_created stepped.route_kept
  sessions := released.sessions.shrink stepped.sameSessions.hasSession
  stored := released.stored.shrink stepped.sameSessions.hasStored
  state := released.state.shrink fun _ present => stepped.sameSessions.state ▸ present

theorem Released.gateway {ref : ConnectionRef} {shared : GatewayServer} {task : GatewayTask}
    (released : Released server)
    (stepped : server.shared.GatewayStep zstd ref (server.gateway ref) input shared task) :
    Released { server with
      shared := shared, gateway := Function.update server.gateway ref task } := by
  have sessions : Owned shared.HasSession GatewayTask.HoldsSession
      (Function.update server.gateway ref task) :=
    released.sessions.update stepped.session_created stepped.session_kept
  refine ⟨released.links.shrink stepped.linksShrink.hasLink,
    released.routes.shrink stepped.routesShrink.hasRoute, sessions,
    released.stored.update stepped.stored_created stepped.stored_kept, ?_⟩
  by_cases some : shared.clientSessions = ∅
  · apply released.state.update
    · intro _ present
      exact stepped.state_created present
    · intro _ held present
      exact (stepped.state_kept held present).resolve_right fun others => others some
  · -- The task of any session that is left is bound to look at the state.
    intro _ _
    rcases hasSession_of_ne_empty some with ⟨key, present⟩
    rcases sessions key present with ⟨slot, held⟩
    exact ⟨slot, pending_of_holdsSession held⟩

def NoShutdown (_ : Server) : ServerAction → Prop
  | .beginShutdown => False
  | .shutdown _ => False
  | _ => True

instance (server : Server) : (action : ServerAction) → Decidable (NoShutdown server action)
  | .beginShutdown | .shutdown _ => .isFalse id
  | .acceptApp | .acceptGateway _ | .app _ _ | .gateway _ _ | .resetGateway _ => .isTrue trivial

theorem Released.step (released : Released server) (slots : SlotsInOrder server)
    (permitted : NoShutdown server action) (stepped : step zstd server action = some next) :
    Released next := by
  have freeApp : server.app server.appCount = .absent := slots.app _ (Nat.le_refl _)
  have freeGateway : server.gateway server.gatewayCount = .absent :=
    slots.gateway _ (Nat.le_refl _)
  cases transition_of_step stepped with
  | acceptApp =>
      exact ⟨released.links.start fun key held => by simp [freeApp, AppTask.HoldsLink] at held,
        released.routes.start fun key held => by simp [freeApp, AppTask.HoldsRoute] at held,
        released.sessions, released.stored, released.state⟩
  | acceptGateway =>
      exact ⟨released.links, released.routes,
        released.sessions.start fun key held => by
          simp [freeGateway, GatewayTask.HoldsSession] at held,
        released.stored.start fun key held => by
          simp [freeGateway, GatewayTask.HoldsStore] at held,
        released.state.start fun key held => by simp [freeGateway, GatewayTask.Pending] at held⟩
  | app moved => exact released.app moved
  | gateway moved => exact released.gateway moved
  | resetGateway =>
      exact ⟨released.links, released.routes, released.sessions, released.stored,
        released.state⟩
  | beginShutdown => exact permitted.elim
  | shutdown => exact permitted.elim

theorem released_of_reachable (reachable : (system zstd).ReachableUnder NoShutdown server) :
    Released server :=
  reachable.invariant released_new fun _ _ _ earlier released permitted stepped =>
    released.step (slotsInOrder_of_reachable earlier.always) permitted stepped

/-! ## Nothing is leaked -/

structure Quiescent (server : Server) : Prop where
  app : ∀ ref, server.app ref = .absent ∨ server.app ref = .finished
  gateway : ∀ ref, server.gateway ref = .absent ∨ server.gateway ref = .rejected ∨
    server.gateway ref = .finished

/-- In every run without a shutdown, whenever no connection's task is left, the
tables are empty and the server waits for connections. -/
theorem tables_empty_of_quiescent (zstd : Zstd) (server : Server)
    (reachable : (system zstd).ReachableUnder NoShutdown server)
    (quiescent : server.Quiescent) :
    server.shared.base.links = ∅ ∧ server.shared.linkClients = ∅ ∧
      server.shared.clientSessions = ∅ ∧ server.shared.sessionStore = ∅ ∧
      server.shared.base.state = .waiting := by
  have released := released_of_reachable reachable
  have freeLink : ∀ slot key, ¬ (server.app slot).HoldsLink key := by
    intro slot key held
    rcases quiescent.app slot with equal | equal <;> rw [equal] at held <;> exact held
  have freeRoute : ∀ slot key, ¬ (server.app slot).HoldsRoute key := by
    intro slot key held
    rcases quiescent.app slot with equal | equal <;> rw [equal] at held <;> exact held
  have freeSession : ∀ slot key, ¬ (server.gateway slot).HoldsSession key := by
    intro slot key held
    rcases quiescent.gateway slot with equal | equal | equal <;> rw [equal] at held <;>
      exact held
  have freeStored : ∀ slot key, ¬ (server.gateway slot).HoldsStore key := by
    intro slot key held
    rcases quiescent.gateway slot with equal | equal | equal <;> rw [equal] at held <;>
      exact held
  have freePending : ∀ slot, ¬ (server.gateway slot).Pending := by
    intro slot held
    rcases quiescent.gateway slot with equal | equal | equal <;> rw [equal] at held <;>
      exact held
  refine ⟨?_, ?_, ?_, ?_, ?_⟩
  · rw [FiniteMap.eq_empty_iff]
    intro key
    exact not_not.mp (released.links.not_entry freeLink key)
  · rw [FiniteMap.eq_empty_iff]
    intro key
    exact not_not.mp (released.routes.not_entry freeRoute key)
  · by_contra some
    rcases hasSession_of_ne_empty some with ⟨key, present⟩
    exact released.sessions.not_entry freeSession key present
  · rw [FiniteMap.eq_empty_iff]
    intro key
    exact not_not.mp (released.stored.not_entry freeStored key)
  · exact not_not.mp (released.state.not_entry (fun slot _ => freePending slot) ())

theorem SlotsInOrder.quiescent (slots : SlotsInOrder server)
    (app : ∀ ref < server.appCount, server.app ref = .finished)
    (gateway : ∀ ref < server.gatewayCount, server.gateway ref = .finished) :
    server.Quiescent where
  app := by
    intro ref
    by_cases used : ref < server.appCount
    · exact .inr (app ref used)
    · exact .inl (slots.app ref (Nat.le_of_not_lt used))
  gateway := by
    intro ref
    by_cases used : ref < server.gatewayCount
    · exact .inr (.inr (gateway ref used))
    · exact .inl (slots.gateway ref (Nat.le_of_not_lt used))

/-- A client connects and authenticates, an application connects and leaves,
and the client leaves. -/
def oneSession : List ServerAction :=
  [.acceptGateway localClient, .gateway 0 .go, .gateway 0 .go, .gateway 0 (.verdict true),
    .gateway 0 .go, .gateway 0 (.session 7), .gateway 0 .go,
    .acceptApp, .app 0 .go, .app 0 (.client localClient), .app 0 .go, .app 0 .go, .app 0 .go,
    .app 0 (.write .ok), .app 0 .go, .app 0 .ended, .app 0 .go, .app 0 (.write .ok),
    .app 0 .go, .app 0 .go, .app 0 .go,
    .gateway 0 .ended, .gateway 0 .go, .gateway 0 .go, .gateway 0 .go, .gateway 0 .go,
    .gateway 0 .go, .gateway 0 .go]

def AllFinished (server : Server) : Prop :=
  server.appCount = 1 ∧ server.gatewayCount = 1 ∧
    (∀ ref < server.appCount, server.app ref = .finished) ∧
    ∀ ref < server.gatewayCount, server.gateway ref = .finished

instance (server : Server) : Decidable server.AllFinished :=
  inferInstanceAs (Decidable (_ ∧ _ ∧ _ ∧ _))

theorem tables_empty_of_quiescent_oneSession :
    ∃ server : Server, (server.appCount = 1 ∧ server.gatewayCount = 1) ∧
      server.shared.base.links = ∅ ∧ server.shared.linkClients = ∅ ∧
      server.shared.clientSessions = ∅ ∧ server.shared.sessionStore = ∅ ∧
      server.shared.base.state = .waiting := by
  have executed : ((system .runLength).runChecked (fun server action => NoShutdown server action)
      .new oneSession).any (fun server => server.AllFinished) = true := by decide +kernel
  rcases TransitionSystem.exists_reaches_of_runChecked executed with ⟨server, reaches, found⟩
  have reachable : (system .runLength).ReachableUnder NoShutdown server :=
    reaches.mono fun _ _ passed => of_decide_eq_true passed
  rcases of_decide_eq_true found with ⟨apps, gateways, appsDone, gatewaysDone⟩
  have slots := slotsInOrder_of_reachable reachable.always
  exact ⟨server, ⟨apps, gateways⟩, tables_empty_of_quiescent .runLength server reachable
    (slots.quiescent appsDone gatewaysDone)⟩

end Server

end IoGateway

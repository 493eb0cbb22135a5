import IoGateway.Server.Slots

/-! # The registry of links

Only `add_link` puts an entry into the registry, the link of its own task under
the identifier that task was given. Every other step removes entries or keeps
them, and keeps the identifiers of all links.
-/

namespace IoGateway

def AppTask.linkId? : AppTask → Option UInt16
  | .handling .nextLinkId => none
  | .handling (.pickClient linkId) => some linkId
  | .handling (.reject linkId) => some linkId
  | .handling (.addLink linkId _ _) => some linkId
  | .handling (.insertRoute linkId _ _) => some linkId
  | .handling (.openId linkId _) => some linkId
  | .handling (.sendOpen linkId _ _) => some linkId
  | .handling (.setWaiting linkId _) => some linkId
  | .exchanging linkId _ _ => some linkId
  | .absent => none
  | .finished => none

/-- The task has not come past `add_link`. -/
def AppTask.Unregistered : AppTask → Prop
  | .absent => True
  | .handling .nextLinkId => True
  | .handling (.pickClient _) => True
  | .handling (.reject _) => True
  | .handling (.addLink _ _ _) => True
  | _ => False

namespace GatewayServer

variable {zstd : Zstd} {server after : GatewayServer} {input : Input}

structure SameLinkIds (server after : GatewayServer) : Prop where
  counter : after.base.linkIdCounter = server.base.linkIdCounter
  allocated : after.base.allocated = server.base.allocated
  connectionId : ∀ ref, (after.base.link ref).connectionId = (server.base.link ref).connectionId

def LinksShrink (server after : GatewayServer) : Prop :=
  ∀ linkId ref, after.base.links.lookup linkId = some ref →
    server.base.links.lookup linkId = some ref

theorem SameLinkIds.of_base (equal : after.base = server.base) : SameLinkIds server after :=
  ⟨by rw [equal], by rw [equal], fun _ => by rw [equal]⟩

theorem LinksShrink.of_base (equal : after.base = server.base) : LinksShrink server after :=
  fun _ _ found => by rwa [equal] at found

theorem sameLinkIds_updateLink {ref : LinkRef} {update : Link → Link}
    (same : (update (server.base.link ref)).connectionId = (server.base.link ref).connectionId) :
    SameLinkIds server (server.updateLink ref update) := by
  refine ⟨rfl, rfl, ?_⟩
  intro other
  by_cases equal : other = ref
  · subst equal
    simpa [Gateway.updateLink] using same
  · simp [Gateway.updateLink, equal]

theorem sendPacket_connectionId {link written : Link} {payload : Bytes}
    {outcome : WriteOutcome} (sent : link.sendPacket payload outcome = some written) :
    written.connectionId = link.connectionId := by
  cases Link.sendPacketStep_of_eq sent <;> rfl

theorem RemoveLinkStep.sameLinkIds {point : RemoveLink} {next : Option RemoveLink}
    (removal : RemoveLinkStep server point after next) : SameLinkIds server after := by
  cases removal with
  | close => exact sameLinkIds_updateLink rfl
  | _ => exact ⟨rfl, rfl, fun _ => rfl⟩

theorem RemoveLinkStep.linksShrink {point : RemoveLink} {next : Option RemoveLink}
    (removal : RemoveLinkStep server point after next) : LinksShrink server after := by
  cases removal with
  | route => exact fun _ _ found => found
  | found => exact fun _ _ found => (FiniteMap.lookup_of_erase found).2
  | absent => exact fun _ _ found => (FiniteMap.lookup_of_erase found).2
  | close => exact fun _ _ found => found

theorem CleanupStep.sameLinkIds {addr : SocketAddr} {sessionId : Uuid} {point : CleanupClient}
    {next : Option CleanupClient}
    (cleaning : CleanupStep addr sessionId server point input after next) :
    SameLinkIds server after := by
  cases cleaning with
  | close => exact sameLinkIds_updateLink rfl
  | _ => exact ⟨rfl, rfl, fun _ => rfl⟩

theorem CleanupStep.linksShrink {addr : SocketAddr} {sessionId : Uuid} {point : CleanupClient}
    {next : Option CleanupClient}
    (cleaning : CleanupStep addr sessionId server point input after next) :
    LinksShrink server after := by
  cases cleaning with
  | link => exact fun _ _ found => (FiniteMap.lookup_of_erase found).2
  | noLink => exact fun _ _ found => (FiniteMap.lookup_of_erase found).2
  | _ => exact fun _ _ found => found

theorem GatewayStep.sameLinkIds {ref : ConnectionRef} {task next : GatewayTask}
    (stepped : server.GatewayStep zstd ref task input after next) : SameLinkIds server after := by
  cases stepped with
  | handling stepped => cases stepped <;> exact ⟨rfl, rfl, fun _ => rfl⟩
  | exchanging stepped =>
      cases stepped with
      | sendPong sent => exact .of_base sent.base
      | regularWrite sent => exact sameLinkIds_updateLink (sendPacket_connectionId sent)
      | openedSet => exact sameLinkIds_updateLink rfl
      | removing removal => exact removal.sameLinkIds
      | removed removal => exact removal.sameLinkIds
      | cleanup cleaning => exact cleaning.sameLinkIds
      | cleaned cleaning => exact cleaning.sameLinkIds
      | _ => exact ⟨rfl, rfl, fun _ => rfl⟩

theorem GatewayStep.linksShrink {ref : ConnectionRef} {task next : GatewayTask}
    (stepped : server.GatewayStep zstd ref task input after next) : LinksShrink server after := by
  cases stepped with
  | handling stepped => cases stepped <;> exact fun _ _ found => found
  | exchanging stepped =>
      cases stepped with
      | sendPong sent => exact .of_base sent.base
      | removing removal => exact removal.linksShrink
      | removed removal => exact removal.linksShrink
      | cleanup cleaning => exact cleaning.linksShrink
      | cleaned cleaning => exact cleaning.linksShrink
      | _ => exact fun _ _ found => found

/-- What a step of an application task does to identifiers: it draws one, it
registers its own link, or it changes neither. -/
inductive LinkIdStep (ref : LinkRef) (server : GatewayServer) :
    AppTask → GatewayServer → AppTask → Prop
  | draw :
      LinkIdStep ref server (.handling .nextLinkId)
        (server.updateBase server.base.nextLinkId.2)
        (.handling (.pickClient server.base.linkIdCounter))
  | register {linkId : UInt16} {writer : ConnectionRef} {addr : SocketAddr} :
      LinkIdStep ref server (.handling (.addLink linkId writer addr))
        (server.updateBase
          { server.base with
            links := server.base.links.insert linkId ref
            link := Function.update server.base.link ref (Link.new linkId) })
        (.handling (.insertRoute linkId writer addr))
  | keep {task next : AppTask} {after : GatewayServer} (same : SameLinkIds server after)
      (shrink : LinksShrink server after) (identifier : next.linkId? = task.linkId?)
      (registered : next.Unregistered ↔ task.Unregistered) :
      LinkIdStep ref server task after next
  | finish {task : AppTask} {after : GatewayServer} (same : SameLinkIds server after)
      (shrink : LinksShrink server after) : LinkIdStep ref server task after .finished

theorem AppStep.linkId {ref : LinkRef} {task next : AppTask}
    (stepped : server.AppStep zstd ref task input after next) :
    LinkIdStep ref server task after next := by
  have unchanged : SameLinkIds server server := ⟨rfl, rfl, fun _ => rfl⟩
  have counted : SameLinkIds server (server.updateBase server.base.nextPacketId.2) :=
    ⟨rfl, rfl, fun _ => rfl⟩
  cases stepped with
  | handling stepped =>
      cases stepped with
      | nextLinkId => exact .draw
      | pickClient => exact .keep unchanged (fun _ _ found => found) rfl Iff.rfl
      | noClient => exact .keep unchanged (fun _ _ found => found) rfl Iff.rfl
      | reject => exact .finish (sameLinkIds_updateLink rfl) fun _ _ found => found
      | addLink => exact .register
      | insertRoute =>
          exact .keep ⟨rfl, rfl, fun _ => rfl⟩ (fun _ _ found => found) rfl Iff.rfl
      | openId => exact .keep counted (fun _ _ found => found) rfl Iff.rfl
      | sendOpen sent => exact .keep (.of_base sent.base) (.of_base sent.base) rfl Iff.rfl
      | setWaiting =>
          exact .keep (sameLinkIds_updateLink rfl) (fun _ _ found => found) rfl Iff.rfl
  | exchanging stepped =>
      cases stepped with
      | read =>
          exact .keep (sameLinkIds_updateLink rfl) (fun _ _ found => found) rfl Iff.rfl
      | ended => exact .keep unchanged (fun _ _ found => found) rfl Iff.rfl
      | addIncoming =>
          exact .keep (sameLinkIds_updateLink rfl) (fun _ _ found => found) rfl Iff.rfl
      | regularId => exact .keep counted (fun _ _ found => found) rfl Iff.rfl
      | sendRegular sent => exact .keep (.of_base sent.base) (.of_base sent.base) rfl Iff.rfl
      | sendFailed sent => exact .keep (.of_base sent.base) (.of_base sent.base) rfl Iff.rfl
      | closeId => exact .keep counted (fun _ _ found => found) rfl Iff.rfl
      | sendClose sent => exact .keep (.of_base sent.base) (.of_base sent.base) rfl Iff.rfl
      | removing removal => exact .keep removal.sameLinkIds removal.linksShrink rfl Iff.rfl
      | removed removal => exact .finish removal.sameLinkIds removal.linksShrink

end GatewayServer

namespace Server

variable {zstd : Zstd} {server next : Server} {action : ServerAction}

theorem sameLinkIds_closeAllLinks (server : GatewayServer) :
    GatewayServer.SameLinkIds server (server.updateBase server.base.closeAllLinks) := by
  refine ⟨rfl, rfl, ?_⟩
  intro ref
  simp only [GatewayServer.updateBase, Gateway.closeAllLinks]
  split <;> rfl

theorem shutdown_sameLinkIds {server after : GatewayServer} {task next : ShutdownTask}
    {input : Input} (stepped : server.ShutdownStep task input after next) :
    server.SameLinkIds after := by
  cases stepped with
  | closeAllLinks => exact sameLinkIds_closeAllLinks server
  | _ => exact ⟨rfl, rfl, fun _ => rfl⟩

theorem shutdown_linksShrink {server after : GatewayServer} {task next : ShutdownTask}
    {input : Input} (stepped : server.ShutdownStep task input after next) :
    server.LinksShrink after := by
  cases stepped with
  | closeAllLinks => exact fun _ _ found => by cases found
  | _ => exact fun _ _ found => found

inductive RegistryStep (server : Server) (action : ServerAction) (next : Server) : Prop
  | accept (same : next.shared = server.shared)
      (app : next.app = Function.update server.app server.appCount (.handling .nextLinkId))
  | draw (ref : LinkRef) (input : Input) (taken : action = .app ref input)
      (drawing : server.app ref = .handling .nextLinkId)
      (shared : next.shared = server.shared.updateBase server.shared.base.nextLinkId.2)
      (app : next.app = Function.update server.app ref
        (.handling (.pickClient server.shared.base.linkIdCounter)))
  | register (ref : LinkRef) (linkId : UInt16) (writer : ConnectionRef) (addr : SocketAddr)
      (registering : server.app ref = .handling (.addLink linkId writer addr))
      (shared : next.shared = server.shared.updateBase
        { server.shared.base with
          links := server.shared.base.links.insert linkId ref
          link := Function.update server.shared.base.link ref (Link.new linkId) })
      (app : next.app = Function.update server.app ref
        (.handling (.insertRoute linkId writer addr)))
  | keep (same : server.shared.SameLinkIds next.shared)
      (shrink : server.shared.LinksShrink next.shared)
      (identifier : ∀ ref linkId, (next.app ref).linkId? = some linkId →
        (server.app ref).linkId? = some linkId)
      (registered : ∀ ref, (next.app ref).Unregistered → (server.app ref).Unregistered)
      (unregistered : ∀ ref linkId, (next.app ref).linkId? = some linkId →
        (server.app ref).Unregistered → (next.app ref).Unregistered)

theorem registryStep_of_step (stepped : step zstd server action = some next) :
    RegistryStep server action next := by
  have keepApp : ∀ (ref : LinkRef) (task : AppTask),
      (∀ linkId, task.linkId? = some linkId → (server.app ref).linkId? = some linkId) →
      (task.Unregistered → (server.app ref).Unregistered) →
      (∀ linkId, task.linkId? = some linkId → (server.app ref).Unregistered →
        task.Unregistered) →
      (∀ other linkId, ((Function.update server.app ref task) other).linkId? = some linkId →
        (server.app other).linkId? = some linkId) ∧
      (∀ other, ((Function.update server.app ref task) other).Unregistered →
        (server.app other).Unregistered) ∧
      ∀ other linkId, ((Function.update server.app ref task) other).linkId? = some linkId →
        (server.app other).Unregistered →
        ((Function.update server.app ref task) other).Unregistered := by
    intro ref task identifier registered unregistered
    refine ⟨?_, ?_, ?_⟩
    · intro other linkId
      by_cases equal : other = ref
      · subst equal
        rw [Function.update_self]
        exact identifier linkId
      · rw [Function.update_of_ne equal]
        exact id
    · intro other
      by_cases equal : other = ref
      · subst equal
        rw [Function.update_self]
        exact registered
      · rw [Function.update_of_ne equal]
        exact id
    · intro other linkId
      by_cases equal : other = ref
      · subst equal
        rw [Function.update_self]
        exact unregistered linkId
      · rw [Function.update_of_ne equal]
        exact fun _ => id
  cases transition_of_step stepped with
  | acceptApp => exact .accept rfl rfl
  | @app ref input shared task moved =>
      have linkIdStep := moved.linkId
      generalize before : server.app ref = taken at linkIdStep
      cases linkIdStep with
      | draw => exact .draw ref input rfl before rfl rfl
      | register => exact .register ref _ _ _ before rfl rfl
      | keep same shrink identifier registered =>
          have kept := keepApp ref task
            (fun linkId found => by rwa [before, ← identifier]) (fun unregistered => by
              rw [before]
              exact registered.mp unregistered) (fun _ _ unregistered => by
              rw [before] at unregistered
              exact registered.mpr unregistered)
          exact .keep same shrink kept.1 kept.2.1 kept.2.2
      | finish same shrink =>
          have kept := keepApp ref .finished
            (fun _ found => by cases found) (fun unregistered => unregistered.elim)
            (fun _ found => by cases found)
          exact .keep same shrink kept.1 kept.2.1 kept.2.2
  | gateway moved =>
      exact .keep moved.sameLinkIds moved.linksShrink (fun _ _ => id) (fun _ => id) fun _ _ _ => id
  | shutdown moved =>
      exact .keep (shutdown_sameLinkIds moved) (shutdown_linksShrink moved) (fun _ _ => id)
        (fun _ => id) fun _ _ _ => id
  | _ =>
      exact .keep ⟨rfl, rfl, fun _ => rfl⟩ (fun _ _ found => found) (fun _ _ => id) (fun _ => id)
        fun _ _ _ => id

/-- Every registered link is registered by a task past `add_link`, under the
identifier the link carries. -/
structure Registered (server : Server) : Prop where
  task : ∀ linkId ref, server.shared.base.links.lookup linkId = some ref →
    ¬ (server.app ref).Unregistered
  key : ∀ linkId ref, server.shared.base.links.lookup linkId = some ref →
    (server.shared.base.link ref).connectionId = linkId

theorem registered_new : Registered Server.new where
  task := fun _ _ found => by cases found
  key := fun _ _ found => by cases found

theorem Registered.ne_of_unregistered (registered : Registered server) {linkId : UInt16}
    {ref other : LinkRef} (found : server.shared.base.links.lookup linkId = some ref)
    (unregistered : (server.app other).Unregistered) : ref ≠ other := by
  intro equal
  subst equal
  exact registered.task linkId ref found unregistered

theorem Registered.step (registered : Registered server) (slots : SlotsInOrder server)
    (stepped : step zstd server action = some next) : Registered next := by
  cases registryStep_of_step stepped with
  | accept same app =>
      have free : (server.app server.appCount).Unregistered := by
        rw [slots.app _ (Nat.le_refl _)]
        trivial
      constructor
      · intro linkId ref found
        rw [same] at found
        rw [app, Function.update_of_ne (registered.ne_of_unregistered found free)]
        exact registered.task linkId ref found
      · rw [same]
        exact registered.key
  | draw drawer input taken drawing shared app =>
      have free : (server.app drawer).Unregistered := by
        rw [drawing]
        trivial
      constructor
      · intro linkId ref found
        rw [shared] at found
        rw [app, Function.update_of_ne (registered.ne_of_unregistered found free)]
        exact registered.task linkId ref found
      · rw [shared]
        exact registered.key
  | register added linkId writer addr registering shared app =>
      have free : (server.app added).Unregistered := by
        rw [registering]
        trivial
      constructor
      · intro key ref found
        simp only [shared, GatewayServer.updateBase, FiniteMap.lookup_insert] at found
        split at found
        · cases found
          rw [app, Function.update_self]
          exact id
        · rw [app, Function.update_of_ne (registered.ne_of_unregistered found free)]
          exact registered.task key ref found
      · intro key ref found
        simp only [shared, GatewayServer.updateBase, FiniteMap.lookup_insert] at found ⊢
        split at found
        · rename_i equal
          cases found
          rw [Function.update_self]
          exact equal.symm
        · rw [Function.update_of_ne (registered.ne_of_unregistered found free)]
          exact registered.key key ref found
  | keep same shrink identifier stays =>
      constructor
      · intro linkId ref found unregistered
        exact registered.task linkId ref (shrink linkId ref found) (stays ref unregistered)
      · intro linkId ref found
        rw [same.connectionId]
        exact registered.key linkId ref (shrink linkId ref found)

theorem registered_of_reachable (reachable : (system zstd).Reachable server) :
    Registered server :=
  reachable.invariant registered_new fun _ _ _ earlier registered _ stepped =>
    registered.step (slotsInOrder_of_reachable earlier) stepped

end Server

end IoGateway

import IoGateway.Server.Release
import IoGateway.Server.Opened
import IoGateway.Server.Sending
import Mathlib.Data.List.Infix

/-! # Shutdown of the server

`shutdown` drains the registry, pauses, and drains the sessions one by one. It sends
no `Close` and clears no route: both are left to the forwarding tasks, which keep
running, and so does everything that adds links and routes, to the very end.
-/

namespace IoGateway

open TransitionSystem (Always)

/-- The task has taken the link out of the registry and is about to close it. -/
def AppTask.Closing : AppTask → LinkRef → Prop
  | .exchanging _ _ (.removing (.close taken)), ref => taken = ref
  | _, _ => False

def GatewayTask.Closing : GatewayTask → LinkRef → Prop
  | .exchanging _ _ (.removing (.close taken)), ref => taken = ref
  | .exchanging _ _ (.cleanup (.close taken _)), ref => taken = ref
  | _, _ => False

theorem AppTask.closing_removing {linkId : UInt16} {writer : ConnectionRef} {point : RemoveLink}
    {ref : LinkRef} :
    (AppTask.exchanging linkId writer (.removing point)).Closing ref ↔ point = .close ref := by
  cases point <;> simp [AppTask.Closing]

theorem GatewayTask.closing_removing {addr : SocketAddr} {sessionId : Uuid} {point : RemoveLink}
    {ref : LinkRef} :
    (GatewayTask.exchanging addr sessionId (.removing point)).Closing ref ↔
      point = .close ref := by
  cases point <;> simp [GatewayTask.Closing]

/-- The task is past the `Close` that ends its forwarding loop. -/
def AppTask.pastClose : AppTask → Bool
  | .exchanging _ _ (.removing _) => true
  | .finished => true
  | _ => false

def AppTask.WillClose (task : AppTask) (linkId : UInt16) (connection : ConnectionRef) : Prop :=
  task.HoldsLink linkId ∧ task.connection? = some connection ∧ task.pastClose = false

def GatewayServer.closeCall (linkId : UInt16) (packetId : UInt64) : SendCall :=
  (PacketGW.new .close packetId linkId 0, none)

namespace GatewayServer

variable {zstd : Zstd} {server after : GatewayServer} {input : Input} {linkId : UInt16}
  {ref : LinkRef}

/-! ## Links that were registered -/

def CloseKept (ref : LinkRef) (server after : GatewayServer) : Prop :=
  (server.base.link ref).writer.shut = true → (after.base.link ref).writer.shut = true

theorem StaysOpen.closeKept
    (stays : StaysOpen (server.base.link ref) (after.base.link ref)) :
    CloseKept ref server after := by
  intro shut
  by_contra opened
  have before := (stays (Bool.eq_false_iff.mpr opened)).1
  rw [shut] at before
  cases before

/-- Only `add_link` puts a fresh link behind a reference. -/
theorem AppStep.closeKept {slot : LinkRef} {task next : AppTask}
    (stepped : server.AppStep zstd slot task input after next)
    (past : slot = ref → ¬ task.Unregistered) : CloseKept ref server after := by
  have keep : ∀ update : Link → Link,
      (∀ link, (update link).writer.shut = link.writer.shut) →
      CloseKept ref server (server.updateLink slot update) := by
    intro update same shut
    by_cases equal : ref = slot
    · subst equal
      simpa [Gateway.updateLink, same] using shut
    · simpa [Gateway.updateLink, equal] using shut
  cases stepped with
  | handling stepped =>
      cases stepped with
      | reject =>
          have different : ref ≠ slot := fun equal => past equal.symm trivial
          intro shut
          simpa [Gateway.updateLink, different] using shut
      | addLink =>
          have different : ref ≠ slot := fun equal => past equal.symm trivial
          intro shut
          simpa [different] using shut
      | sendOpen sent =>
          intro shut
          rwa [sent.base]
      | setWaiting => exact keep _ fun _ => rfl
      | _ => exact id
  | exchanging stepped =>
      exact (AppStep.exchanging stepped).staysOpen (fun _ => rfl) |>.closeKept

/-- A registered link is taken out by a task that is then about to close it, or
another one is registered in its place. -/
theorem RemoveLinkStep.registered {point : RemoveLink} {next : Option RemoveLink}
    (removal : RemoveLinkStep server point after next)
    (found : server.base.links.lookup linkId = some ref) :
    after.base.links.lookup linkId = some ref ∨ next = some (.close ref) := by
  cases removal with
  | route => exact .inl found
  | @found key taken present =>
      by_cases equal : linkId = key
      · subst equal
        cases present.symm.trans found
        exact .inr rfl
      · exact .inl (by simpa [equal] using found)
  | @absent key absent =>
      have different : linkId ≠ key := by
        intro equal
        subst equal
        cases absent.symm.trans found
      exact .inl (by simpa [different] using found)
  | close => exact .inl found

theorem AppStep.registered {slot : LinkRef} {task next : AppTask}
    (stepped : server.AppStep zstd slot task input after next)
    (found : server.base.links.lookup linkId = some ref)
    (kept : ∀ writer addr, task ≠ .handling (.addLink linkId writer addr)) :
    after.base.links.lookup linkId = some ref ∨ next.Closing ref := by
  cases stepped with
  | handling stepped =>
      cases stepped with
      | sendOpen sent =>
          rw [sent.base]
          exact .inl found
      | @addLink key writer addr =>
          have different : linkId ≠ key := by
            intro equal
            subst equal
            exact kept writer addr rfl
          exact .inl (by simpa [different] using found)
      | _ => exact .inl found
  | exchanging stepped =>
      cases stepped with
      | sendRegular sent =>
          rw [sent.base]
          exact .inl found
      | sendFailed sent =>
          rw [sent.base]
          exact .inl found
      | sendClose sent =>
          rw [sent.base]
          exact .inl found
      | removing removal =>
          rcases removal.registered found with still | taken
          · exact .inl still
          · cases taken
            exact .inr rfl
      | removed removal =>
          rcases removal.registered found with still | taken
          · exact .inl still
          · cases taken
      | _ => exact .inl found

theorem CleanupStep.registered {addr : SocketAddr} {sessionId : Uuid} {point : CleanupClient}
    {next : Option CleanupClient}
    (cleaning : CleanupStep addr sessionId server point input after next)
    (found : server.base.links.lookup linkId = some ref) :
    after.base.links.lookup linkId = some ref ∨ ∃ rest, next = some (.close ref rest) := by
  cases cleaning with
  | @link _ key taken _ present =>
      by_cases equal : linkId = key
      · subst equal
        cases present.symm.trans found
        exact .inr ⟨_, rfl⟩
      · exact .inl (by simpa [equal] using found)
  | @noLink _ key _ absent =>
      have different : linkId ≠ key := by
        intro equal
        subst equal
        cases absent.symm.trans found
      exact .inl (by simpa [different] using found)
  | _ => exact .inl found

theorem GatewayStep.registered {slot : ConnectionRef} {task next : GatewayTask}
    (stepped : server.GatewayStep zstd slot task input after next)
    (found : server.base.links.lookup linkId = some ref) :
    after.base.links.lookup linkId = some ref ∨ next.Closing ref := by
  cases stepped with
  | handling stepped => cases stepped <;> exact .inl found
  | exchanging stepped =>
      cases stepped with
      | sendPong sent =>
          rw [sent.base]
          exact .inl found
      | removing removal =>
          rcases removal.registered found with still | taken
          · exact .inl still
          · cases taken
            exact .inr rfl
      | removed removal =>
          rcases removal.registered found with still | taken
          · exact .inl still
          · cases taken
      | cleanup cleaning =>
          rcases cleaning.registered found with still | taken
          · exact .inl still
          · rcases taken with ⟨rest, equal⟩
            cases equal
            exact .inr rfl
      | cleaned cleaning =>
          rcases cleaning.registered found with still | taken
          · exact .inl still
          · rcases taken with ⟨rest, equal⟩
            cases equal
      | _ => exact .inl found

theorem shut_updateLink_closeConnection :
    ((server.updateLink ref Link.closeConnection).base.link ref).writer.shut = true := by
  simp [Gateway.updateLink, Link.closeConnection, WriteHalf.shutdown]

theorem RemoveLinkStep.shut {next : Option RemoveLink}
    (removal : RemoveLinkStep server (.close ref) after next) :
    (after.base.link ref).writer.shut = true := by
  cases removal
  exact shut_updateLink_closeConnection

theorem AppStep.closed {slot : LinkRef} {task next : AppTask}
    (stepped : server.AppStep zstd slot task input after next) (closing : task.Closing ref) :
    (after.base.link ref).writer.shut = true := by
  cases stepped with
  | handling => exact closing.elim
  | exchanging stepped =>
      cases stepped with
      | removing removal =>
          cases AppTask.closing_removing.mp closing
          exact removal.shut
      | removed removal =>
          cases AppTask.closing_removing.mp closing
          exact removal.shut
      | _ => exact closing.elim

theorem GatewayStep.closed {slot : ConnectionRef} {task next : GatewayTask}
    (stepped : server.GatewayStep zstd slot task input after next)
    (closing : task.Closing ref) : (after.base.link ref).writer.shut = true := by
  cases stepped with
  | handling => exact closing.elim
  | exchanging stepped =>
      cases stepped with
      | removing removal =>
          cases GatewayTask.closing_removing.mp closing
          exact removal.shut
      | removed removal =>
          cases GatewayTask.closing_removing.mp closing
          exact removal.shut
      | cleanup cleaning =>
          cases cleaning with
          | close =>
              cases closing
              exact shut_updateLink_closeConnection
          | _ => exact closing.elim
      | cleaned cleaning => cases cleaning <;> exact closing.elim
      | _ => exact closing.elim

theorem shut_closeAllLinks (found : server.base.links.lookup linkId = some ref) :
    ((server.updateBase server.base.closeAllLinks).base.link ref).writer.shut = true := by
  have member : ref ∈ FiniteMap.values server.base.links :=
    (FiniteMap.mem_values _ _).mpr ⟨linkId, found⟩
  simp [Gateway.closeAllLinks, member, Link.closeConnection, WriteHalf.shutdown]

theorem ShutdownStep.closeKept {task next : ShutdownTask}
    (stepped : server.ShutdownStep task input after next) : CloseKept ref server after := by
  intro shut
  cases stepped with
  | closeAllLinks =>
      simp only [updateBase, Gateway.closeAllLinks]
      split
      · rfl
      · exact shut
  | _ => exact shut

/-- An application's task adds no entry but its own. -/
theorem AppStep.link_inserted {slot : LinkRef} {task next : AppTask}
    (stepped : server.AppStep zstd slot task input after next)
    (found : after.base.links.lookup linkId = some ref) :
    server.base.links.lookup linkId = some ref ∨ ref = slot ∧ next.HoldsLink linkId := by
  cases stepped.linkId with
  | draw => exact .inl found
  | @register key writer addr =>
      simp only [updateBase, FiniteMap.lookup_insert] at found
      split at found
      · rename_i equal
        cases found
        exact .inr ⟨rfl, equal.symm⟩
      · exact .inl found
  | keep _ shrink => exact .inl (shrink linkId ref found)
  | finish _ shrink => exact .inl (shrink linkId ref found)

/-! ## The `Close` of a forwarding task -/

/-- A forwarding task takes its link out of the registry only after its `Close`. -/
theorem AppStep.willClose {slot : LinkRef} {task next : AppTask} {connection : ConnectionRef}
    (stepped : server.AppStep zstd slot task input after next)
    (will : task.WillClose linkId connection) :
    next.WillClose linkId connection ∨ ∃ packetId outcome,
      task = .exchanging linkId connection (.sendClose packetId) ∧ input = .write outcome ∧
        server.Sent zstd connection (closeCall linkId packetId) outcome after := by
  rcases will with ⟨held, bound, before⟩
  cases stepped with
  | handling stepped =>
      cases stepped with
      | nextLinkId => exact held.elim
      | pickClient => exact held.elim
      | noClient => exact held.elim
      | reject => exact held.elim
      | addLink => exact held.elim
      | _ => exact .inl ⟨held, bound, before⟩
  | exchanging stepped =>
      cases stepped with
      | sendClose sent =>
          cases bound
          cases held
          exact .inr ⟨_, _, rfl, rfl, sent⟩
      | removing removal => cases before
      | removed removal => cases before
      | _ => exact .inl ⟨held, bound, before⟩

end GatewayServer

namespace Server

variable {zstd : Zstd} {began server next : Server} {action : ServerAction} {linkId : UInt16}
  {ref : LinkRef}

/-! ## Complete shutdown -/

/-- A `Close` for the link has been sent to the connection. One that the task had
to send when the shutdown began has been sent since. -/
def CloseSent (began after : Server) (ref : LinkRef) (linkId : UInt16)
    (connection : ConnectionRef) : Prop :=
  ∃ packetId, GatewayServer.closeCall linkId packetId ∈
    (after.shared.sockets.writer connection).frames.drop
      (if (began.app ref).pastClose then 0
        else (began.shared.sockets.writer connection).frames.length)

def LinkAtStart (began : Server) (linkId : UInt16) (ref : LinkRef) : Prop :=
  began.shared.base.links.lookup linkId = some ref

/-- What holds when a complete shutdown that began in the one state returns in the other. -/
structure CompleteShutdown (began after : Server) : Prop where
  links : after.shared.base.links = ∅
  linkClients : after.shared.linkClients = ∅
  clientSessions : after.shared.clientSessions = ∅
  closed : ∀ linkId ref, began.LinkAtStart linkId ref →
    (after.shared.base.link ref).writer.shut = true
  sent : ∀ linkId ref connection, began.LinkAtStart linkId ref →
    (began.app ref).connection? = some connection →
    CloseSent began after ref linkId connection

/-- A `Close` that is sent before the shutdown gets through. -/
def EarlierSent (began : Server) : Prop :=
  ∀ linkId ref connection, began.LinkAtStart linkId ref →
    (began.app ref).connection? = some connection → (began.app ref).pastClose = true →
    CloseSent began began ref linkId connection

/-- Where the tasks are when the shutdown returns: no application's task is between its
`add_link` and the removal of its entry, and nobody is about to close a link of the start. -/
structure WoundDown (began server : Server) : Prop where
  past : ∀ slot < server.appCount, ∀ linkId, ¬ (server.app slot).HoldsLink linkId
  app : ∀ slot < server.appCount, ∀ linkId ref, began.LinkAtStart linkId ref →
    ¬ (server.app slot).Closing ref
  gateway : ∀ slot < server.gatewayCount, ∀ linkId ref, began.LinkAtStart linkId ref →
    ¬ (server.gateway slot).Closing ref

/-- What `shutdown` relies on: no link is replaced in the registry, the `Close` of
each link gets through, and the tasks have wound down when it returns. -/
def Cooperates (began server : Server) : ServerAction → Prop
  | .app slot input =>
      match server.app slot with
      | .handling (.addLink linkId _ _) =>
          ∀ ref, server.shared.base.links.lookup linkId = some ref →
            ¬ began.LinkAtStart linkId ref
      | .exchanging linkId _ (.sendClose _) => began.LinkAtStart linkId slot → input = .write .ok
      | _ => True
  | .shutdown input => server.shutdown = .closeSession → input = .go → WoundDown began server
  | _ => True

/-! ## Ownership in every run -/

def LinksHeld (server : Server) : Prop :=
  ∀ linkId ref, server.shared.base.links.lookup linkId = some ref →
    (server.app ref).HoldsLink linkId

theorem LinksHeld.shrink {shared : GatewayServer} (held : LinksHeld server)
    (shrink : server.shared.LinksShrink shared) (same : next.app = server.app)
    (after : next.shared = shared) : LinksHeld next := by
  intro linkId ref found
  rw [same]
  rw [after] at found
  exact held linkId ref (shrink linkId ref found)

theorem LinksHeld.step (held : LinksHeld server) (slots : SlotsInOrder server)
    (stepped : step zstd server action = some next) : LinksHeld next := by
  cases transition_of_step stepped with
  | acceptApp =>
      intro linkId ref found
      have holds := held linkId ref found
      have different : ref ≠ server.appCount := by
        intro equal
        rw [equal, slots.app _ (Nat.le_refl _)] at holds
        exact holds
      change (Function.update server.app server.appCount _ ref).HoldsLink linkId
      rwa [Function.update_of_ne different]
  | @app slot input shared task moved =>
      intro linkId ref found
      change (Function.update server.app slot task ref).HoldsLink linkId
      have present : shared.HasLink linkId := by
        intro absent
        cases absent.symm.trans found
      rcases moved.link_inserted found with earlier | ⟨equal, holds⟩
      · by_cases equal : ref = slot
        · subst equal
          rw [Function.update_self]
          exact moved.link_kept linkId (held linkId ref earlier) present
        · rw [Function.update_of_ne equal]
          exact held linkId ref earlier
      · subst equal
        rwa [Function.update_self]
  | gateway moved => exact held.shrink moved.linksShrink rfl rfl
  | shutdown moved => exact held.shrink (shutdown_linksShrink moved) rfl rfl
  | _ => exact held

theorem linksHeld_of_reachable (reachable : (system zstd).Reachable server) :
    LinksHeld server := by
  induction reachable with
  | refl =>
      intro linkId ref found
      cases found
  | step earlier _ stepped induction =>
      exact induction.step (slotsInOrder_of_reachable earlier) stepped

/-- A route is held by some task, as without a shutdown. -/
def RoutesHeld (server : Server) : Prop :=
  Owned server.shared.HasRoute AppTask.HoldsRoute server.app

theorem RoutesHeld.step (held : RoutesHeld server) (slots : SlotsInOrder server)
    (stepped : step zstd server action = some next) : RoutesHeld next := by
  cases transition_of_step stepped with
  | acceptApp =>
      apply Owned.start held
      intro key holds
      rw [slots.app _ (Nat.le_refl _)] at holds
      exact holds
  | app moved => exact Owned.update held moved.route_created moved.route_kept
  | gateway moved => exact Owned.shrink held moved.routesShrink.hasRoute
  | @shutdown input shared task moved =>
      have same : shared.linkClients = server.shared.linkClients := by
        generalize server.shutdown = earlier at moved
        cases moved <;> rfl
      exact Owned.shrink held (GatewayServer.RoutesShrink.of_eq same).hasRoute
  | _ => exact held

theorem routesHeld_of_reachable (reachable : (system zstd).Reachable server) :
    RoutesHeld server := by
  induction reachable with
  | refl => exact fun _ present => absurd rfl present
  | step earlier _ stepped induction =>
      exact induction.step (slotsInOrder_of_reachable earlier) stepped

/-! ## The links during a shutdown -/

/-- A link that was registered still is, or it is closed, or some task is about
to close it. -/
inductive Accounted (server : Server) (linkId : UInt16) (ref : LinkRef) : Prop
  | registered (found : server.shared.base.links.lookup linkId = some ref)
  | app (slot : LinkRef) (closing : (server.app slot).Closing ref)
  | gateway (slot : ConnectionRef) (closing : (server.gateway slot).Closing ref)
  | closed (shut : (server.shared.base.link ref).writer.shut = true)

structure LinkShutting (began server : Server) (linkId : UInt16) (ref : LinkRef) : Prop where
  past : ¬ (server.app ref).Unregistered
  accounted : Accounted server linkId ref
  closes : ∀ connection, (began.app ref).WillClose linkId connection →
    (server.app ref).WillClose linkId connection ∨
      CloseSent began server ref linkId connection

theorem past_of_step (slots : SlotsInOrder server) (past : ¬ (server.app ref).Unregistered)
    (stepped : step zstd server action = some next) : ¬ (next.app ref).Unregistered := by
  have different : ∀ slot, (server.app slot).Unregistered → ref ≠ slot := by
    intro slot unregistered equal
    subst equal
    exact past unregistered
  cases registryStep_of_step stepped with
  | accept _ app =>
      have free : (server.app server.appCount).Unregistered := by
        rw [slots.app _ (Nat.le_refl _)]
        trivial
      rwa [app, Function.update_of_ne (different _ free)]
  | draw slot _ _ drawing _ app =>
      rwa [app, Function.update_of_ne (different slot (by rw [drawing]; trivial))]
  | register slot _ _ _ registering _ app =>
      rwa [app, Function.update_of_ne (different slot (by rw [registering]; trivial))]
  | keep _ _ _ registered => exact fun unregistered => past (registered ref unregistered)

theorem Accounted.keep (accounted : Accounted server linkId ref)
    (base : next.shared.base = server.shared.base)
    (app : ∀ slot, (server.app slot).Closing ref → (next.app slot).Closing ref)
    (gateway : ∀ slot, (server.gateway slot).Closing ref → (next.gateway slot).Closing ref) :
    Accounted next linkId ref := by
  cases accounted with
  | registered found => exact .registered (by rwa [base])
  | app slot closing => exact .app slot (app slot closing)
  | gateway slot closing => exact .gateway slot (gateway slot closing)
  | closed shut => exact .closed (by rwa [base])

theorem Accounted.step (accounted : Accounted server linkId ref)
    (slots : SlotsInOrder server) (past : ¬ (server.app ref).Unregistered)
    (kept : ∀ slot input writer addr, action = .app slot input →
      server.app slot = .handling (.addLink linkId writer addr) →
      server.shared.base.links.lookup linkId ≠ some ref)
    (stepped : step zstd server action = some next) : Accounted next linkId ref := by
  cases transition_of_step stepped with
  | acceptApp =>
      refine accounted.keep rfl ?_ fun _ => id
      intro slot closing
      have different : slot ≠ server.appCount := by
        intro equal
        rw [equal, slots.app _ (Nat.le_refl _)] at closing
        exact closing
      change (Function.update server.app server.appCount _ slot).Closing ref
      rwa [Function.update_of_ne different]
  | acceptGateway =>
      refine accounted.keep rfl (fun _ => id) ?_
      intro slot closing
      have different : slot ≠ server.gatewayCount := by
        intro equal
        rw [equal, slots.gateway _ (Nat.le_refl _)] at closing
        exact closing
      change (Function.update server.gateway server.gatewayCount _ slot).Closing ref
      rwa [Function.update_of_ne different]
  | @app slot input shared task moved =>
      cases accounted with
      | registered found =>
          rcases moved.registered found (fun writer addr running =>
            kept slot input writer addr rfl running found) with still | taken
          · exact .registered still
          · refine .app slot ?_
            change (Function.update server.app slot task slot).Closing ref
            rwa [Function.update_self]
      | app other closing =>
          by_cases equal : other = slot
          · subst equal
            exact .closed (moved.closed closing)
          · refine .app other ?_
            change (Function.update server.app slot task other).Closing ref
            rwa [Function.update_of_ne equal]
      | gateway other closing => exact .gateway other closing
      | closed shut =>
          exact .closed (moved.closeKept (fun equal => equal ▸ past) shut)
  | @gateway slot input shared task moved =>
      cases accounted with
      | registered found =>
          rcases moved.registered found with still | taken
          · exact .registered still
          · refine .gateway slot ?_
            change (Function.update server.gateway slot task slot).Closing ref
            rwa [Function.update_self]
      | app other closing => exact .app other closing
      | gateway other closing =>
          by_cases equal : other = slot
          · subst equal
            exact .closed (moved.closed closing)
          · refine .gateway other ?_
            change (Function.update server.gateway slot task other).Closing ref
            rwa [Function.update_of_ne equal]
      | closed shut => exact .closed (moved.staysOpen.closeKept shut)
  | @shutdown input shared task moved =>
      cases accounted with
      | registered found =>
          generalize server.shutdown = earlier at moved
          cases moved with
          | closeAllLinks => exact .closed (GatewayServer.shut_closeAllLinks found)
          | _ => exact .registered found
      | app slot closing => exact .app slot closing
      | gateway slot closing => exact .gateway slot closing
      | closed shut => exact .closed (moved.closeKept shut)
  | resetGateway => exact accounted.keep rfl (fun _ => id) fun _ => id
  | beginShutdown => exact accounted.keep rfl (fun _ => id) fun _ => id

theorem CloseSent.step {connection : ConnectionRef}
    (sent : CloseSent began server ref linkId connection)
    (stepped : step zstd server action = some next) :
    CloseSent began next ref linkId connection := by
  rcases sent with ⟨packetId, member⟩
  exact ⟨packetId, List.IsPrefix.mem member ((frames_prefix_of_step stepped connection).drop _)⟩

/-- A `Close` that is written in full is the last frame on its connection. -/
theorem closeSent_of_sent {connection : ConnectionRef} {packetId : UInt64}
    {shared : GatewayServer}
    (sent : server.shared.Sent zstd connection (GatewayServer.closeCall linkId packetId) .ok shared)
    (same : next.shared = shared)
    (earlier : (began.shared.sockets.writer connection).frames <+:
      (server.shared.sockets.writer connection).frames) :
    CloseSent began next ref linkId connection := by
  rcases Option.map_eq_some_iff.mp sent.own with ⟨half, _, wrote⟩
  have frames : (next.shared.sockets.writer connection).frames =
      (server.shared.sockets.writer connection).frames ++
        [GatewayServer.closeCall linkId packetId] := by
    rw [same, ← wrote]
  refine ⟨packetId, ?_⟩
  rw [frames, List.drop_append_of_le_length]
  · exact List.mem_append_right _ (List.mem_singleton_self _)
  · split
    · exact Nat.zero_le _
    · exact earlier.length_le

theorem LinkShutting.step (shutting : LinkShutting began server linkId ref)
    (slots : SlotsInOrder server) (atStart : began.LinkAtStart linkId ref)
    (earlier : ∀ connection, (began.shared.sockets.writer connection).frames <+:
      (server.shared.sockets.writer connection).frames)
    (permitted : Cooperates began server action)
    (stepped : step zstd server action = some next) : LinkShutting began next linkId ref := by
  refine ⟨past_of_step slots shutting.past stepped, ?_, ?_⟩
  · refine shutting.accounted.step slots shutting.past ?_ stepped
    intro slot input writer addr taken running found
    subst taken
    simp only [Cooperates, running] at permitted
    exact permitted ref found atStart
  · intro connection initially
    rcases shutting.closes connection initially with will | sent
    · cases transition_of_step stepped with
      | acceptApp =>
          have different : ref ≠ server.appCount := by
            intro equal
            rw [equal, slots.app _ (Nat.le_refl _)] at will
            exact will.1
          refine .inl ?_
          change (Function.update server.app server.appCount _ ref).WillClose linkId connection
          rwa [Function.update_of_ne different]
      | @app slot input shared task moved =>
          by_cases equal : ref = slot
          · subst equal
            rcases moved.willClose will with still | ⟨packetId, outcome, running, taken, sent⟩
            · refine .inl ?_
              change (Function.update server.app ref task ref).WillClose linkId connection
              rwa [Function.update_self]
            · subst taken
              simp only [Cooperates, running] at permitted
              cases permitted atStart
              exact .inr (closeSent_of_sent sent rfl (earlier connection))
          · refine .inl ?_
            change (Function.update server.app slot task ref).WillClose linkId connection
            rwa [Function.update_of_ne equal]
      | _ => exact .inl will
    · exact .inr (sent.step stepped)

structure ShuttingDown (began server : Server) : Prop where
  frames : ∀ connection, (began.shared.sockets.writer connection).frames <+:
    (server.shared.sockets.writer connection).frames
  link : ∀ linkId ref, began.LinkAtStart linkId ref → LinkShutting began server linkId ref

theorem shuttingDown_began (registered : Registered began) : ShuttingDown began began where
  frames := fun _ => List.prefix_refl _
  link := by
    intro linkId ref atStart
    exact ⟨registered.task linkId ref atStart, .registered atStart, fun _ will => .inl will⟩

theorem shuttingDown_of_reaches (reachable : (system zstd).Reachable began)
    (runs : (system zstd).Reaches (Cooperates began) began server) :
    ShuttingDown began server := by
  induction runs with
  | refl => exact shuttingDown_began (registered_of_reachable reachable)
  | step earlier permitted stepped induction =>
      have slots := slotsInOrder_of_reachable (reachable.trans earlier.always)
      refine ⟨?_, ?_⟩
      · intro connection
        exact (induction.frames connection).trans (frames_prefix_of_step stepped connection)
      · intro linkId ref atStart
        exact (induction.link linkId ref atStart).step slots atStart induction.frames permitted
          stepped

/-! ## The end of a shutdown -/

theorem SlotsInOrder.holdsLink_lt (slots : SlotsInOrder server)
    (holds : (server.app ref).HoldsLink linkId) : ref < server.appCount := by
  apply slots.app_lt
  intro absent
  rw [absent] at holds
  exact holds

theorem SlotsInOrder.not_holdsLink (slots : SlotsInOrder server)
    (woundDown : WoundDown began server) : ¬ (server.app ref).HoldsLink linkId := fun holds =>
  woundDown.past ref (slots.holdsLink_lt holds) linkId holds

/-- When the tasks have wound down every link of the start is closed. -/
theorem closed_of_woundDown (slots : SlotsInOrder server) (held : LinksHeld server)
    (accounted : Accounted server linkId ref) (woundDown : WoundDown began server)
    (atStart : began.LinkAtStart linkId ref) :
    (server.shared.base.link ref).writer.shut = true := by
  cases accounted with
  | registered found => exact absurd (held linkId ref found) (slots.not_holdsLink woundDown)
  | app slot closing =>
      have used : slot < server.appCount := by
        apply slots.app_lt
        intro absent
        rw [absent] at closing
        exact closing
      exact absurd closing (woundDown.app slot used linkId ref atStart)
  | gateway slot closing =>
      have used : slot < server.gatewayCount := by
        apply slots.gateway_lt
        intro absent
        rw [absent] at closing
        exact closing
      exact absurd closing (woundDown.gateway slot used linkId ref atStart)
  | closed shut => exact shut

theorem links_empty_of_woundDown (slots : SlotsInOrder server) (held : LinksHeld server)
    (woundDown : WoundDown began server) : server.shared.base.links = ∅ := by
  rw [FiniteMap.eq_empty_iff]
  intro linkId
  by_contra present
  rcases Option.ne_none_iff_exists'.mp present with ⟨ref, found⟩
  exact slots.not_holdsLink woundDown (held linkId ref found)

theorem routes_empty_of_woundDown (slots : SlotsInOrder server) (held : RoutesHeld server)
    (woundDown : WoundDown began server) : server.shared.linkClients = ∅ := by
  rw [FiniteMap.eq_empty_iff]
  intro linkId
  by_contra present
  rcases held linkId present with ⟨ref, holds⟩
  exact slots.not_holdsLink woundDown holds.holdsLink

theorem closeSent_of_woundDown {connection : ConnectionRef} (slots : SlotsInOrder server)
    (shutting : LinkShutting began server linkId ref) (held : LinksHeld began)
    (earlier : EarlierSent began) (frames : (began.shared.sockets.writer connection).frames <+:
      (server.shared.sockets.writer connection).frames)
    (woundDown : WoundDown began server) (atStart : began.LinkAtStart linkId ref)
    (bound : (began.app ref).connection? = some connection) :
    CloseSent began server ref linkId connection := by
  by_cases past : (began.app ref).pastClose = true
  · rcases earlier linkId ref connection atStart bound past with ⟨packetId, member⟩
    exact ⟨packetId, List.IsPrefix.mem member (frames.drop _)⟩
  · have will : (began.app ref).WillClose linkId connection :=
      ⟨held linkId ref atStart, bound, Bool.eq_false_iff.mpr past⟩
    rcases shutting.closes connection will with still | sent
    · exact absurd still.1 (slots.not_holdsLink woundDown)
    · exact sent

/-- In every run in which the tasks cooperate, a shutdown is complete when it returns. -/
theorem complete_shutdown (zstd : Zstd) (before began last after : Server) (input : Input)
    (reachable : (system zstd).Reachable before)
    (begins : step zstd before .beginShutdown = some began) (earlier : EarlierSent began)
    (runs : (system zstd).Reaches (Cooperates began) began last)
    (permitted : Cooperates began last (.shutdown input))
    (stepped : step zstd last (.shutdown input) = some after)
    (returned : after.shutdown = .finished) : CompleteShutdown began after := by
  have begun : (system zstd).step before .beginShutdown = some began := begins
  have reachedBegan : (system zstd).Reachable began := .step reachable trivial begun
  have reached : (system zstd).Reachable last := reachedBegan.trans runs.always
  have slots := slotsInOrder_of_reachable reached
  have held := linksHeld_of_reachable reached
  have shutting := shuttingDown_of_reaches reachedBegan runs
  have sends := stepped
  cases transition_of_step stepped with
  | @shutdown input shared task moved =>
      change task = .finished at returned
      generalize draining : last.shutdown = point at moved
      cases moved with
      | drained none =>
          have woundDown : WoundDown began last := permitted draining rfl
          have noLinks := links_empty_of_woundDown slots held woundDown
          have noRoutes :=
            routes_empty_of_woundDown slots (routesHeld_of_reachable reached) woundDown
          refine ⟨noLinks, noRoutes, none, ?_, ?_⟩
          · intro linkId ref atStart
            have shut : (last.shared.base.link ref).writer.shut = true :=
              closed_of_woundDown slots held (shutting.link linkId ref atStart).accounted
                woundDown atStart
            exact shut
          · intro linkId ref connection atStart bound
            exact (closeSent_of_woundDown slots (shutting.link linkId ref atStart)
              (linksHeld_of_reachable reachedBegan) earlier (shutting.frames connection) woundDown
              atStart bound).step sends
      | _ => cases returned

/-- The application of the one link hangs up during the pause. -/
def hangUp : List ServerAction :=
  [.shutdown .go, .app 0 .ended, .app 0 .go, .app 0 (.write .ok), .app 0 .go, .shutdown .go,
    .shutdown .go, .shutdown (.client localClient), .app 0 .go, .shutdown .go]

/-- No handler runs, no `Close` fails, and the shutdown does not return. -/
def handlersIdle (server : Server) : ServerAction → Bool
  | .app slot input =>
      match server.app slot with
      | .handling _ => false
      | .exchanging _ _ (.sendClose _) => input = .write .ok
      | _ => true
  | .shutdown input => server.shutdown ≠ .closeSession || input ≠ .go
  | _ => true

theorem cooperates_of_handlersIdle (idle : handlersIdle server action = true) :
    Cooperates began server action := by
  cases action with
  | app slot input =>
      simp only [handlersIdle] at idle
      simp only [Cooperates]
      generalize server.app slot = task at idle
      cases task with
      | handling point => cases idle
      | exchanging linkId writer point =>
          cases point with
          | sendClose packetId => exact fun _ => of_decide_eq_true idle
          | _ => trivial
      | _ => trivial
  | shutdown input =>
      intro draining go
      simp [handlersIdle, draining, go] at idle
  | _ => trivial

def OneLink (began : Server) : Prop :=
  began.shared.base.links.lookup 1 = some 0 ∧
    (∀ ref ∈ FiniteMap.values began.shared.base.links, ref = 0) ∧
    (began.app 0).pastClose = false

instance (began : Server) : Decidable (OneLink began) :=
  inferInstanceAs (Decidable (_ ∧ _ ∧ _))

def OneFinished (server : Server) : Prop :=
  server.appCount = 1 ∧ server.gatewayCount = 1 ∧
    server.app 0 = .finished ∧ server.gateway 0 = .exchanging localClient 7 .receive

instance (server : Server) : Decidable (OneFinished server) :=
  inferInstanceAs (Decidable (_ ∧ _ ∧ _ ∧ _))

theorem OneLink.ref_eq (oneLink : OneLink began) (atStart : began.LinkAtStart linkId ref) :
    ref = 0 :=
  oneLink.2.1 ref ((FiniteMap.mem_values _ _).mpr ⟨linkId, atStart⟩)

theorem OneFinished.woundDown (finished : OneFinished server) : WoundDown began server := by
  rcases finished with ⟨apps, gateways, app, gateway⟩
  have only : ∀ slot < server.appCount, server.app slot = .finished := by
    intro slot used
    rw [apps, Nat.lt_one_iff] at used
    rw [used, app]
  refine ⟨?_, ?_, ?_⟩
  · intro slot used linkId holds
    rw [only slot used] at holds
    exact holds
  · intro slot used linkId ref _ closing
    rw [only slot used] at closing
    exact closing
  · intro slot used linkId ref _ closing
    rw [gateways, Nat.lt_one_iff] at used
    rw [used, gateway] at closing
    exact closing

theorem complete_shutdown_hangUp :
    ∃ began after : Server, began.LinkAtStart 1 0 ∧ CompleteShutdown began after := by
  have executed : ((system .runLength).runChecked (fun _ _ => true) .new oneOpenLink).any
      (fun before => (step .runLength before .beginShutdown).any fun began =>
        decide (OneLink began) &&
          ((system .runLength).runChecked handlersIdle began hangUp).any fun last =>
            decide (OneFinished last) && (step .runLength last (.shutdown .go)).any fun after =>
              decide (after.shutdown = .finished)) = true := by
    decide +kernel
  rcases TransitionSystem.exists_reaches_of_runChecked executed with ⟨before, reached, begun⟩
  rcases (Option.any_eq_true _ _).mp begun with ⟨began, begins, begun⟩
  rcases Bool.and_eq_true_iff.mp begun with ⟨started, begun⟩
  rcases TransitionSystem.exists_reaches_of_runChecked begun with ⟨last, runs, ended⟩
  rcases Bool.and_eq_true_iff.mp ended with ⟨finished, returns⟩
  rcases (Option.any_eq_true _ _).mp returns with ⟨after, stepped, returned⟩
  have oneLink : OneLink began := of_decide_eq_true started
  have finished : OneFinished last := of_decide_eq_true finished
  have earlier : EarlierSent began := by
    intro linkId ref connection atStart _ past
    rw [oneLink.ref_eq atStart, oneLink.2.2] at past
    cases past
  have cooperating : (system .runLength).Reaches (Cooperates began) began last :=
    runs.mono fun _ _ => cooperates_of_handlersIdle
  exact ⟨began, after, oneLink.1, complete_shutdown .runLength before began last after .go
    reached.always begins earlier cooperating (fun _ _ => finished.woundDown) stepped
    (of_decide_eq_true returned)⟩

/-- The application of the one link stays connected during the pause. -/
theorem shutdown_incomplete :
    ¬ ∀ before began after : Server, (system .runLength).Reachable before →
      step .runLength before .beginShutdown = some began →
      (system .runLength).Reaches Always began after → after.shutdown = .finished →
      CompleteShutdown began after := by
  intro complete
  have executed : ((system .runLength).runChecked (fun _ _ => true) .new oneOpenLink).any
      (fun before => (step .runLength before .beginShutdown).any fun began =>
        ((system .runLength).runChecked (fun _ _ => true) began
            [.shutdown .go, .shutdown .go, .shutdown .go, .shutdown (.client localClient),
              .shutdown .go, .shutdown .go]).any
          fun after => decide (after.shutdown = .finished ∧
            began.shared.base.links.lookup 1 = some 0 ∧
            (began.app 0).connection? = some 0 ∧
            ∀ call ∈ (after.shared.sockets.writer 0).frames,
              call.1.packetType ≠ .close)) = true := by
    decide +kernel
  rcases TransitionSystem.exists_reaches_of_runChecked executed with ⟨before, reached, begun⟩
  rcases (Option.any_eq_true _ _).mp begun with ⟨began, begins, begun⟩
  rcases TransitionSystem.exists_reaches_of_runChecked begun with ⟨after, runs, ended⟩
  rcases of_decide_eq_true ended with ⟨returned, atStart, bound, unsent⟩
  have completed := complete before began after reached.always begins runs.always returned
  rcases completed.sent 1 0 0 atStart bound with ⟨packetId, member⟩
  exact unsent _ (List.mem_of_mem_drop member) rfl

end Server

end IoGateway

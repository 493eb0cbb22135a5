import IoGateway.Server.Release

/-! # Consistency of the routing table

The registry and the routing table are filled and emptied in separate critical
sections. A link without a route is always one whose task, or whose remover, is
between the two. The converse, and that every route leads to a session, hold
when no step removes what another task is about to rely on.
-/

namespace IoGateway

/-- The task is between the two tables for this link: it has registered the link
and comes to the route, or it has removed the route and comes to the link. -/
def HoldsBare : AppTask ⊕ GatewayTask → UInt16 → Prop
  | .inl (.handling (.insertRoute linkId _ _)), key => linkId = key
  | .inl (.exchanging _ _ (.removing (.link linkId))), key => linkId = key
  | .inr (.exchanging _ _ (.removing (.link linkId))), key => linkId = key
  | .inr (.exchanging _ _ (.cleanup (.links remaining))), key => key ∈ remaining
  | .inr (.exchanging _ _ (.cleanup (.close _ remaining))), key => key ∈ remaining
  | _, _ => False

theorem holdsBare_app_removing {linkId key : UInt16} {writer : ConnectionRef}
    {point : RemoveLink} :
    HoldsBare (.inl (.exchanging linkId writer (.removing point))) key ↔ point = .link key := by
  cases point <;> simp [HoldsBare]

theorem holdsBare_gateway_removing {addr : SocketAddr} {sessionId : Uuid} {key : UInt16}
    {point : RemoveLink} :
    HoldsBare (.inr (.exchanging addr sessionId (.removing point))) key ↔ point = .link key := by
  cases point <;> simp [HoldsBare]

namespace GatewayServer

variable {zstd : Zstd} {server after : GatewayServer} {input : Input}

def Bare (server : GatewayServer) (linkId : UInt16) : Prop :=
  server.HasLink linkId ∧ ¬ server.HasRoute linkId

theorem Sent.bare {writer : ConnectionRef} {call : SendCall} {outcome : WriteOutcome}
    (sent : server.Sent zstd writer call outcome after) (key : UInt16)
    (present : after.Bare key) : server.Bare key := by
  simpa [Bare, HasLink, HasRoute, sent.base, sent.linkClients] using present

theorem RemoveLinkStep.bare_created {point : RemoveLink} {next : Option RemoveLink}
    (removal : RemoveLinkStep server point after next) (key : UInt16)
    (present : after.Bare key) : server.Bare key ∨ next = some (.link key) := by
  cases removal with
  | @route linkId =>
      by_cases equal : linkId = key
      · exact .inr (by rw [equal])
      · left
        have other : key ≠ linkId := fun same => equal same.symm
        simpa [Bare, HasLink, HasRoute, FiniteMap.lookup_erase, other] using present
  | found found =>
      exact .inl ⟨(RemoveLinkStep.found found).linksShrink.hasLink key present.1, present.2⟩
  | absent absent =>
      exact .inl ⟨(RemoveLinkStep.absent absent).linksShrink.hasLink key present.1, present.2⟩
  | close => exact .inl present

theorem RemoveLinkStep.not_hasLink {linkId : UInt16} {next : Option RemoveLink}
    (removal : RemoveLinkStep server (.link linkId) after next) : ¬ after.HasLink linkId := by
  cases removal <;> simp [HasLink]

theorem AppStep.bare_created {ref : LinkRef} {task next : AppTask}
    (stepped : server.AppStep zstd ref task input after next) (key : UInt16)
    (present : after.Bare key) : server.Bare key ∨ HoldsBare (.inl next) key := by
  cases stepped with
  | handling stepped =>
      cases stepped with
      | @addLink linkId writer addr =>
          by_cases equal : linkId = key
          · exact .inr equal
          · left
            have other : key ≠ linkId := fun same => equal same.symm
            simpa [Bare, HasLink, HasRoute, FiniteMap.lookup_insert, other] using present
      | @insertRoute linkId writer addr =>
          left
          refine ⟨present.1, ?_⟩
          intro routed
          apply present.2
          simp only [HasRoute, FiniteMap.lookup_insert]
          split
          · simp
          · exact routed
      | sendOpen sent => exact .inl (sent.bare key present)
      | _ => exact .inl present
  | exchanging stepped =>
      cases stepped with
      | sendRegular sent => exact .inl (sent.bare key present)
      | sendFailed sent => exact .inl (sent.bare key present)
      | sendClose sent => exact .inl (sent.bare key present)
      | removing removal =>
          rcases removal.bare_created key present with before | next
          · exact .inl before
          · cases next
            exact .inr rfl
      | removed removal =>
          exact .inl ((removal.bare_created key present).resolve_right (by simp))
      | _ => exact .inl present

theorem AppStep.bare_kept {ref : LinkRef} {task next : AppTask}
    (stepped : server.AppStep zstd ref task input after next) (key : UInt16)
    (held : HoldsBare (.inl task) key) (present : after.Bare key) :
    HoldsBare (.inl next) key := by
  cases stepped with
  | handling stepped =>
      cases stepped with
      | insertRoute =>
          cases held
          exact absurd (by simp [HasRoute]) present.2
      | _ => exact held.elim
  | exchanging stepped =>
      cases stepped with
      | removing removal =>
          cases holdsBare_app_removing.mp held
          exact absurd present.1 removal.not_hasLink
      | removed removal =>
          cases holdsBare_app_removing.mp held
          exact absurd present.1 removal.not_hasLink
      | _ => exact held.elim

theorem mem_ownedLinks {addr : SocketAddr} {linkId : UInt16} :
    linkId ∈ server.ownedLinks addr ↔ server.linkClients.lookup linkId = some addr := by
  rw [ownedLinks, Finmap.mem_keys, ← Finmap.lookup_isSome, Option.isSome_iff_exists]
  simp only [FiniteMap.lookup_filter_eq_some, decide_eq_true_eq]
  constructor
  · intro found
    rcases found with ⟨owner, stored, equal⟩
    rw [stored, equal]
  · intro stored
    exact ⟨addr, stored, rfl⟩

theorem CleanupStep.bare_created {addr : SocketAddr} {sessionId : Uuid} {point : CleanupClient}
    {next : Option CleanupClient}
    (cleaning : CleanupStep addr sessionId server point input after next) (key : UInt16)
    (present : after.Bare key) :
    server.Bare key ∨ ∃ remaining, next = some (.links remaining) ∧ key ∈ remaining := by
  cases cleaning with
  | routes =>
      by_cases routed : server.HasRoute key
      · right
        rcases Option.ne_none_iff_exists'.mp routed with ⟨owner, stored⟩
        refine ⟨_, rfl, mem_ownedLinks.mpr ?_⟩
        by_contra different
        apply present.2
        have kept := (FiniteMap.lookup_filter_eq_some (fun _ owner => owner ≠ addr)
          server.linkClients key owner).mpr ⟨stored, decide_eq_true fun equal => by
            rw [equal] at stored
            exact different stored⟩
        exact Option.ne_none_iff_exists'.mpr ⟨owner, kept⟩
      · exact .inl ⟨present.1, routed⟩
  | link member found =>
      have shrink := CleanupStep.linksShrink
        (.link member found : CleanupStep addr sessionId server _ _ _ _)
      exact .inl ⟨shrink.hasLink key present.1, present.2⟩
  | noLink member absent =>
      have shrink := CleanupStep.linksShrink
        (.noLink member absent : CleanupStep addr sessionId server _ _ _ _)
      exact .inl ⟨shrink.hasLink key present.1, present.2⟩
  | _ => exact .inl present

/-- A cleaner lets go of a link only when it has removed it. -/
theorem CleanupStep.bare_kept {addr : SocketAddr} {sessionId : Uuid} {point : CleanupClient}
    {next : Option CleanupClient}
    (cleaning : CleanupStep addr sessionId server point input after next) (key : UInt16)
    (held : HoldsBare (.inr (.exchanging addr sessionId (.cleanup point))) key)
    (present : after.Bare key) :
    ∃ following, next = some following ∧
      HoldsBare (.inr (.exchanging addr sessionId (.cleanup following))) key := by
  cases cleaning with
  | link member found =>
      refine ⟨_, rfl, Finset.mem_erase.mpr ⟨?_, held⟩⟩
      intro equal
      subst equal
      exact present.1 (by simp)
  | noLink member absent =>
      refine ⟨_, rfl, Finset.mem_erase.mpr ⟨?_, held⟩⟩
      intro equal
      subst equal
      exact present.1 (by simp)
  | linksDone => exact absurd held (Finset.notMem_empty key)
  | close => exact ⟨_, rfl, held⟩
  | _ => exact held.elim

theorem GatewayStep.bare_created {ref : ConnectionRef} {task next : GatewayTask}
    (stepped : server.GatewayStep zstd ref task input after next) (key : UInt16)
    (present : after.Bare key) : server.Bare key ∨ HoldsBare (.inr next) key := by
  cases stepped with
  | handling stepped => cases stepped <;> exact .inl present
  | exchanging stepped =>
      cases stepped with
      | sendPong sent => exact .inl (sent.bare key present)
      | removing removal =>
          rcases removal.bare_created key present with before | next
          · exact .inl before
          · cases next
            exact .inr rfl
      | removed removal =>
          exact .inl ((removal.bare_created key present).resolve_right (by simp))
      | cleanup cleaning =>
          rcases cleaning.bare_created key present with before | ⟨remaining, next, member⟩
          · exact .inl before
          · cases next
            exact .inr member
      | cleaned cleaning =>
          exact .inl ((cleaning.bare_created key present).resolve_right (by simp))
      | _ => exact .inl present

theorem GatewayStep.bare_kept {ref : ConnectionRef} {task next : GatewayTask}
    (stepped : server.GatewayStep zstd ref task input after next) (key : UInt16)
    (held : HoldsBare (.inr task) key) (present : after.Bare key) :
    HoldsBare (.inr next) key := by
  cases stepped with
  | handling stepped => cases stepped <;> exact held.elim
  | exchanging stepped =>
      cases stepped with
      | removing removal =>
          cases holdsBare_gateway_removing.mp held
          exact absurd present.1 removal.not_hasLink
      | removed removal =>
          cases holdsBare_gateway_removing.mp held
          exact absurd present.1 removal.not_hasLink
      | cleanup cleaning =>
          rcases cleaning.bare_kept key held present with ⟨following, equal, holding⟩
          cases equal
          exact holding
      | cleaned cleaning =>
          rcases cleaning.bare_kept key held present with ⟨following, equal, holding⟩
          cases equal
      | _ => exact held.elim

end GatewayServer

namespace Server

variable {zstd : Zstd} {server next : Server} {action : ServerAction}

def tasks (server : Server) : LinkRef ⊕ ConnectionRef → AppTask ⊕ GatewayTask :=
  Sum.elim (Sum.inl ∘ server.app) (Sum.inr ∘ server.gateway)

theorem tasks_app (server : Server) (shared : GatewayServer) (ref : LinkRef) (task : AppTask)
    (count : Nat) :
    tasks { server with
      shared := shared, app := Function.update server.app ref task, appCount := count } =
      Function.update server.tasks (.inl ref) (.inl task) := by
  unfold tasks
  rw [Sum.update_elim_inl, Function.comp_update]

theorem tasks_gateway (server : Server) (shared : GatewayServer) (ref : ConnectionRef)
    (task : GatewayTask) (count : Nat) :
    tasks { server with
      shared := shared, gateway := Function.update server.gateway ref task
      gatewayCount := count } =
      Function.update server.tasks (.inr ref) (.inr task) := by
  unfold tasks
  rw [Sum.update_elim_inr, Function.comp_update]

/-- Every link without a route is held by a task between the two tables. -/
def BareOwned (server : Server) : Prop := Owned server.shared.Bare HoldsBare server.tasks

theorem BareOwned.step (owned : BareOwned server) (slots : SlotsInOrder server)
    (stepped : step zstd server action = some next) : BareOwned next := by
  unfold BareOwned at owned ⊢
  cases transition_of_step stepped with
  | acceptApp =>
      rw [tasks_app]
      apply owned.start
      intro key held
      simp [tasks, slots.app _ (Nat.le_refl _), HoldsBare] at held
  | acceptGateway =>
      rw [tasks_gateway]
      apply owned.start
      intro key held
      simp [tasks, slots.gateway _ (Nat.le_refl _), HoldsBare] at held
  | app moved =>
      rw [tasks_app]
      exact owned.update moved.bare_created moved.bare_kept
  | gateway moved =>
      rw [tasks_gateway]
      exact owned.update moved.bare_created moved.bare_kept
  | shutdown moved =>
      generalize server.shutdown = point at moved
      cases moved with
      | closeAllLinks => exact owned.shrink fun key present => absurd rfl present.1
      | _ => exact owned
  | _ => exact owned

theorem bareOwned_of_reachable (reachable : (system zstd).Reachable server) :
    BareOwned server :=
  reachable.invariant (fun _ present => absurd rfl present.1) fun _ _ _ earlier owned _ stepped =>
    owned.step (slotsInOrder_of_reachable earlier) stepped

end Server

/-! ## What must not be removed -/

def AppTask.Inserting : AppTask → UInt16 → Prop
  | .handling (.insertRoute linkId _ _), key => linkId = key
  | _, _ => False

def AppTask.Picked : AppTask → SocketAddr → Prop
  | .handling (.addLink _ _ addr), key => addr = key
  | .handling (.insertRoute _ _ addr), key => addr = key
  | _, _ => False

def GatewayTask.Handshaking : GatewayTask → SocketAddr → Prop
  | .handling _ .evict, _ => False
  | .handling addr _, key => addr = key
  | _, _ => False

namespace GatewayServer

variable {zstd : Zstd} {server after : GatewayServer} {input : Input}

theorem AppStep.hasRoute {ref : LinkRef} {task next : AppTask}
    (stepped : server.AppStep zstd ref task input after next) (key : UInt16)
    (present : after.HasRoute key) : server.HasRoute key ∨ task.Inserting key := by
  rcases Option.ne_none_iff_exists'.mp present with ⟨owner, found⟩
  rcases stepped.route_found found with before | ⟨writer, rfl, -⟩
  · exact .inl (Option.ne_none_iff_exists'.mpr ⟨owner, before⟩)
  · exact .inr rfl

theorem AppStep.inserting {ref : LinkRef} {task next : AppTask}
    (stepped : server.AppStep zstd ref task input after next) (key : UInt16)
    (inserting : next.Inserting key) : after.HasLink key := by
  cases stepped with
  | handling stepped =>
      cases stepped with
      | addLink =>
          cases inserting
          simp [HasLink]
      | _ => exact inserting.elim
  | exchanging stepped => cases stepped <;> exact inserting.elim

theorem AppStep.route {ref : LinkRef} {task next : AppTask}
    (stepped : server.AppStep zstd ref task input after next) {key : UInt16}
    {owner : SocketAddr} (found : after.linkClients.lookup key = some owner) :
    server.linkClients.lookup key = some owner ∨ task.Picked owner := by
  rcases stepped.route_found found with before | ⟨writer, rfl, -⟩
  · exact .inl before
  · exact .inr rfl

def SessionsKeyed (server : GatewayServer) : Prop :=
  ∀ addr session, server.clientSessions.lookup addr = some session → session.addr = addr

theorem AppStep.picked {ref : LinkRef} {task next : AppTask} (keyed : SessionsKeyed server)
    (stepped : server.AppStep zstd ref task input after next) {owner : SocketAddr}
    (picked : next.Picked owner) :
    task.Picked owner ∨ server.clientSessions.lookup owner ≠ none := by
  cases stepped with
  | handling stepped =>
      cases stepped with
      | @pickClient linkId addr session found =>
          have equal : session.addr = owner := picked
          rw [keyed addr session found] at equal
          subst equal
          exact .inr (by simp [found])
      | addLink => exact .inl picked
      | _ => exact picked.elim
  | exchanging stepped => cases stepped <;> exact picked.elim

theorem GatewayStep.sessionsKeyed {ref : ConnectionRef} {task next : GatewayTask}
    (stepped : server.GatewayStep zstd ref task input after next)
    (keyed : SessionsKeyed server) : SessionsKeyed after := by
  cases stepped with
  | handling stepped =>
      cases stepped with
      | evict => exact fun _ _ found => keyed _ _ (FiniteMap.lookup_of_erase found).2
      | evictNone => exact fun _ _ found => keyed _ _ (FiniteMap.lookup_of_erase found).2
      | insertSession =>
          intro addr session found
          rw [FiniteMap.lookup_insert] at found
          split at found
          · rename_i equal
            cases found
            exact equal.symm
          · exact keyed addr session found
      | _ => exact keyed
  | exchanging stepped =>
      cases stepped with
      | sendPong sent =>
          intro addr session found
          rw [sent.sameSessions.clientSessions] at found
          exact keyed addr session found
      | removing removal =>
          intro addr session found
          rw [removal.sameSessions.clientSessions] at found
          exact keyed addr session found
      | removed removal =>
          intro addr session found
          rw [removal.sameSessions.clientSessions] at found
          exact keyed addr session found
      | cleanup cleaning =>
          cases cleaning with
          | session => exact fun _ _ found => keyed _ _ (FiniteMap.lookup_of_erase found).2
          | _ => exact keyed
      | cleaned cleaning => cases cleaning <;> exact keyed
      | _ => exact keyed

theorem eq_of_erased {erased key : UInt16} (before : server.HasLink key)
    (missing : ¬ (server.updateBase
      { server.base with links := server.base.links.erase erased }).HasLink key) :
    erased = key := by
  by_contra different
  apply missing
  have other : key ≠ erased := fun equal => different equal.symm
  simpa [HasLink, FiniteMap.lookup_erase, other] using before

theorem RemoveLinkStep.removes {point : RemoveLink} {next : Option RemoveLink}
    (removal : RemoveLinkStep server point after next) {key : UInt16}
    (before : server.HasLink key) (missing : ¬ after.HasLink key) : point = .link key := by
  cases removal with
  | found => rw [eq_of_erased before missing]
  | absent => rw [eq_of_erased before missing]
  | _ => exact absurd before missing

theorem AppStep.removes {ref : LinkRef} {task next : AppTask}
    (stepped : server.AppStep zstd ref task input after next) {key : UInt16}
    (before : server.HasLink key) (missing : ¬ after.HasLink key) :
    ∃ own writer, task = .exchanging own writer (.removing (.link key)) := by
  cases stepped with
  | handling stepped =>
      cases stepped with
      | sendOpen sent => exact absurd (by simpa [HasLink, sent.base] using before) missing
      | @addLink linkId writer addr =>
          apply absurd _ missing
          by_cases equal : key = linkId
          · subst equal
            simp [HasLink]
          · simpa [HasLink, FiniteMap.lookup_insert, equal] using before
      | _ => exact absurd before missing
  | exchanging stepped =>
      cases stepped with
      | sendRegular sent => exact absurd (by simpa [HasLink, sent.base] using before) missing
      | sendFailed sent => exact absurd (by simpa [HasLink, sent.base] using before) missing
      | sendClose sent => exact absurd (by simpa [HasLink, sent.base] using before) missing
      | removing removal => exact ⟨_, _, by rw [removal.removes before missing]⟩
      | removed removal => exact ⟨_, _, by rw [removal.removes before missing]⟩
      | _ => exact absurd before missing

theorem CleanupStep.removes {addr : SocketAddr} {sessionId : Uuid} {point : CleanupClient}
    {next : Option CleanupClient}
    (cleaning : CleanupStep addr sessionId server point input after next) {key : UInt16}
    (before : server.HasLink key) (missing : ¬ after.HasLink key) :
    ∃ remaining, point = .links remaining ∧ input = .link key := by
  cases cleaning with
  | link => exact ⟨_, rfl, by rw [eq_of_erased before missing]⟩
  | noLink => exact ⟨_, rfl, by rw [eq_of_erased before missing]⟩
  | _ => exact absurd before missing

theorem GatewayStep.removes {ref : ConnectionRef} {task next : GatewayTask}
    (stepped : server.GatewayStep zstd ref task input after next) {key : UInt16}
    (before : server.HasLink key) (missing : ¬ after.HasLink key) :
    ∃ addr sessionId, task = .exchanging addr sessionId (.removing (.link key)) ∨
      ∃ remaining, task = .exchanging addr sessionId (.cleanup (.links remaining)) ∧
        input = .link key := by
  cases stepped with
  | handling stepped => cases stepped <;> exact absurd before missing
  | @exchanging addr sessionId point input after next stepped =>
      refine ⟨addr, sessionId, ?_⟩
      cases stepped with
      | sendPong sent => exact absurd (by simpa [HasLink, sent.base] using before) missing
      | removing removal => exact .inl (by rw [removal.removes before missing])
      | removed removal => exact .inl (by rw [removal.removes before missing])
      | cleanup cleaning =>
          rcases cleaning.removes before missing with ⟨remaining, at_, taken⟩
          exact .inr ⟨remaining, by rw [at_], taken⟩
      | cleaned cleaning =>
          rcases cleaning.removes before missing with ⟨remaining, at_, taken⟩
          exact .inr ⟨remaining, by rw [at_], taken⟩
      | _ => exact absurd before missing

/-- An address stays a client's unless its last session is removed or the
client fails to authenticate. -/
theorem GatewayStep.available {ref : ConnectionRef} {task next : GatewayTask}
    (stepped : server.GatewayStep zstd ref task input after next) {owner : SocketAddr}
    (present : server.clientSessions.lookup owner ≠ none ∨ task.Handshaking owner) :
    (after.clientSessions.lookup owner ≠ none ∨ next.Handshaking owner) ∨
      (∃ sessionId session, task = .exchanging owner sessionId (.cleanup .session) ∧
        input = .go ∧ server.clientSessions.lookup owner = some session ∧
        session.sessionId = sessionId) ∨
      (task = .handling owner .authenticate ∧ input = .verdict false ∧
        server.clientSessions.lookup owner = none) := by
  cases stepped with
  | @handling addr point input after next stepped =>
      cases stepped with
      | evict =>
          left
          by_cases equal : owner = addr
          · exact .inr equal.symm
          · exact .inl (by simpa [FiniteMap.lookup_erase, equal] using
              present.resolve_right fun held => held)
      | evictNone =>
          left
          by_cases equal : owner = addr
          · exact .inr equal.symm
          · exact .inl (by simpa [FiniteMap.lookup_erase, equal] using
              present.resolve_right fun held => held)
      | deny =>
          by_cases found : server.clientSessions.lookup owner = none
          · have own : addr = owner := present.resolve_left fun some => some found
            subst own
            exact .inr (.inr ⟨rfl, rfl, found⟩)
          · exact .inl (.inl found)
      | insertSession =>
          left
          left
          rw [FiniteMap.lookup_insert]
          split
          · simp
          · rename_i different
            exact present.resolve_right fun own => different own.symm
      | _ => exact .inl present
  | @exchanging addr sessionId point input after next stepped =>
      have found := present.resolve_right fun held => held
      cases stepped with
      | sendPong sent => exact .inl (.inl (sent.sameSessions.clientSessions ▸ found))
      | removing removal => exact .inl (.inl (removal.sameSessions.clientSessions ▸ found))
      | removed removal => exact .inl (.inl (removal.sameSessions.clientSessions ▸ found))
      | cleanup cleaning =>
          cases cleaning with
          | @session session stored current =>
              by_cases equal : owner = addr
              · subst equal
                exact .inr (.inl ⟨sessionId, session, rfl, rfl, stored, current⟩)
              · exact .inl (.inl (by simpa [FiniteMap.lookup_erase, equal] using found))
          | _ => exact .inl (.inl found)
      | cleaned cleaning => cases cleaning <;> exact .inl (.inl found)
      | _ => exact .inl (.inl found)

end GatewayServer

namespace Server

variable {zstd : Zstd} {server next : Server} {action : ServerAction}

/-! ## Orderly runs -/

inductive Removes (server : Server) : ServerAction → UInt16 → Prop
  | app {ref : LinkRef} {input : Input} {linkId own : UInt16} {writer : ConnectionRef}
      (task : server.app ref = .exchanging own writer (.removing (.link linkId))) :
      Removes server (.app ref input) linkId
  | gateway {ref : ConnectionRef} {input : Input} {linkId : UInt16} {addr : SocketAddr}
      {sessionId : Uuid}
      (task : server.gateway ref = .exchanging addr sessionId (.removing (.link linkId))) :
      Removes server (.gateway ref input) linkId
  | cleanup {ref : ConnectionRef} {linkId : UInt16} {addr : SocketAddr} {sessionId : Uuid}
      {remaining : Finset UInt16}
      (task : server.gateway ref = .exchanging addr sessionId (.cleanup (.links remaining))) :
      Removes server (.gateway ref (.link linkId)) linkId
  | shutdown {linkId : UInt16} (task : server.shutdown = .closeAllLinks) :
      Removes server (.shutdown .go) linkId

/-- The step leaves this address without a session and without an attempt to
authenticate. -/
inductive Forgets (server : Server) : ServerAction → SocketAddr → Prop
  | cleanup {ref : ConnectionRef} {addr : SocketAddr} {sessionId : Uuid}
      {session : ClientSession}
      (task : server.gateway ref = .exchanging addr sessionId (.cleanup .session))
      (found : server.shared.clientSessions.lookup addr = some session)
      (current : session.sessionId = sessionId)
      (alone : ∀ other, ¬ (server.gateway other).Handshaking addr) :
      Forgets server (.gateway ref .go) addr
  | deny {ref : ConnectionRef} {addr : SocketAddr}
      (task : server.gateway ref = .handling addr .authenticate)
      (absent : server.shared.clientSessions.lookup addr = none)
      (alone : ∀ other, other ≠ ref → ¬ (server.gateway other).Handshaking addr) :
      Forgets server (.gateway ref (.verdict false)) addr
  | shutdown {addr : SocketAddr} {session : ClientSession}
      (task : server.shutdown = .closeSession)
      (found : server.shared.clientSessions.lookup addr = some session)
      (alone : ∀ other, ¬ (server.gateway other).Handshaking addr) :
      Forgets server (.shutdown (.client addr)) addr

def Inserting (server : Server) (linkId : UInt16) : Prop :=
  ∃ ref, (server.app ref).Inserting linkId

def Routed (server : Server) (addr : SocketAddr) : Prop :=
  ∃ linkId, server.shared.linkClients.lookup linkId = some addr

def Picked (server : Server) (addr : SocketAddr) : Prop :=
  ∃ ref, (server.app ref).Picked addr

/-- A cleanup is about to remove all routes that lead to this address. -/
def Sweeping (server : Server) (addr : SocketAddr) : Prop :=
  ∃ ref sessionId, server.gateway ref = .exchanging addr sessionId (.cleanup .routes)

/-- The address has a session, or a client of it authenticates. -/
def Available (server : Server) (addr : SocketAddr) : Prop :=
  server.shared.clientSessions.lookup addr ≠ none ∨
    ∃ ref, (server.gateway ref).Handshaking addr

/-- No step removes a registered link that has a route or is about to get one, and
no step takes away the last session of an address that was picked for a route
or that a route leads to which no cleanup is about to remove. -/
structure Orderly (server : Server) (action : ServerAction) : Prop where
  link : ∀ linkId, server.Removes action linkId → server.shared.HasLink linkId →
    ¬ server.shared.HasRoute linkId ∧ ¬ server.Inserting linkId
  session : ∀ addr, server.Forgets action addr →
    ¬ server.Picked addr ∧ (server.Routed addr → server.Sweeping addr)

theorem removes_of_step (stepped : step zstd server action = some next) {linkId : UInt16}
    (before : server.shared.HasLink linkId) (missing : ¬ next.shared.HasLink linkId) :
    server.Removes action linkId := by
  cases transition_of_step stepped with
  | app moved =>
      rcases moved.removes before missing with ⟨own, writer, task⟩
      exact .app task
  | gateway moved =>
      rcases moved.removes before missing with ⟨addr, sessionId, task | cleaning⟩
      · exact .gateway task
      · rcases cleaning with ⟨remaining, task, equal⟩
        subst equal
        exact .cleanup task
  | shutdown moved =>
      generalize point : server.shutdown = task at moved
      cases moved with
      | closeAllLinks => exact .shutdown point
      | _ => exact absurd before missing
  | _ => exact absurd before missing

/-- A link that has a route, or is about to get one, is registered. -/
def RoutesLinked (server : Server) : Prop :=
  ∀ linkId, server.shared.HasRoute linkId ∨ server.Inserting linkId →
    server.shared.HasLink linkId

theorem inserting_update {ref : LinkRef} {task : AppTask} {linkId : UInt16}
    (inserting : ∃ other, ((Function.update server.app ref task) other).Inserting linkId) :
    task.Inserting linkId ∨ server.Inserting linkId := by
  rcases inserting with ⟨other, inserting⟩
  by_cases equal : other = ref
  · subst equal
    rw [Function.update_self] at inserting
    exact .inl inserting
  · rw [Function.update_of_ne equal] at inserting
    exact .inr ⟨other, inserting⟩

theorem routed_of_step (stepped : step zstd server action = some next) {linkId : UInt16}
    (routed : next.shared.HasRoute linkId ∨ next.Inserting linkId) :
    (server.shared.HasRoute linkId ∨ server.Inserting linkId) ∨
      next.shared.HasLink linkId := by
  cases transition_of_step stepped with
  | acceptApp =>
      rcases routed with routed | inserting
      · exact .inl (.inl routed)
      · rcases inserting_update inserting with none | before
        · exact none.elim
        · exact .inl (.inr before)
  | @app ref input shared task moved =>
      rcases routed with routed | inserting
      · rcases moved.hasRoute linkId routed with before | before
        · exact .inl (.inl before)
        · exact .inl (.inr ⟨ref, before⟩)
      · rcases inserting_update inserting with mine | before
        · exact .inr (moved.inserting linkId mine)
        · exact .inl (.inr before)
  | gateway moved =>
      rcases routed with routed | inserting
      · exact .inl (.inl (moved.routesShrink.hasRoute linkId routed))
      · exact .inl (.inr inserting)
  | shutdown moved =>
      generalize server.shutdown = task at moved
      cases moved <;> exact .inl routed
  | _ => exact .inl routed

theorem RoutesLinked.step (linked : RoutesLinked server) (orderly : Orderly server action)
    (stepped : step zstd server action = some next) : RoutesLinked next := by
  intro linkId routed
  rcases routed_of_step stepped routed with before | present
  · have registered := linked linkId before
    by_contra missing
    have free := orderly.link linkId (removes_of_step stepped registered missing) registered
    exact before.elim free.1 free.2
  · exact present

theorem available_of_step (slots : SlotsInOrder server)
    (stepped : step zstd server action = some next) {addr : SocketAddr}
    (available : server.Available addr) :
    next.Available addr ∨ server.Forgets action addr := by
  cases transition_of_step stepped with
  | acceptGateway =>
      left
      rcases available with found | ⟨ref, handshaking⟩
      · exact .inl found
      · have different : ref ≠ server.gatewayCount := by
          intro equal
          rw [equal, slots.gateway _ (Nat.le_refl _)] at handshaking
          exact handshaking
        exact .inr ⟨ref, by simpa [different] using handshaking⟩
  | app moved =>
      left
      unfold Available at available ⊢
      rw [moved.sameSessions.clientSessions]
      exact available
  | @gateway ref input shared task moved =>
      by_cases elsewhere : ∃ other, other ≠ ref ∧ (server.gateway other).Handshaking addr
      · rcases elsewhere with ⟨other, different, handshaking⟩
        exact .inl (.inr ⟨other, by simpa [different] using handshaking⟩)
      have alone : ∀ other, other ≠ ref → ¬ (server.gateway other).Handshaking addr :=
        fun other different held => elsewhere ⟨other, different, held⟩
      have present : server.shared.clientSessions.lookup addr ≠ none ∨
          (server.gateway ref).Handshaking addr := by
        rcases available with found | ⟨other, handshaking⟩
        · exact .inl found
        · by_cases equal : other = ref
          · exact .inr (equal ▸ handshaking)
          · exact absurd handshaking (alone other equal)
      rcases moved.available present with kept | cleaning | denied
      · left
        rcases kept with found | handshaking
        · exact .inl found
        · exact .inr ⟨ref, by simpa using handshaking⟩
      · rcases cleaning with ⟨sessionId, session, point, taken, found, current⟩
        subst taken
        refine .inr (.cleanup point found current ?_)
        intro other held
        by_cases equal : other = ref
        · rw [equal, point] at held
          exact held
        · exact alone other equal held
      · rcases denied with ⟨point, taken, absent⟩
        subst taken
        exact .inr (.deny point absent alone)
  | shutdown moved =>
      generalize point : server.shutdown = task at moved
      cases moved with
      | @closeSession forgotten session found =>
          by_cases handshaking : ∃ other, (server.gateway other).Handshaking addr
          · exact .inl (.inr handshaking)
          · by_cases own : addr = forgotten
            · subst own
              exact .inr (.shutdown point found fun other held => handshaking ⟨other, held⟩)
            · refine .inl (.inl ?_)
              simpa [FiniteMap.lookup_erase, own] using available.resolve_right handshaking
      | _ => exact .inl available
  | _ => exact .inl available

theorem picked_update {ref : LinkRef} {task : AppTask} {addr : SocketAddr}
    (picked : ∃ other, ((Function.update server.app ref task) other).Picked addr) :
    task.Picked addr ∨ ∃ other, (server.app other).Picked addr := by
  rcases picked with ⟨other, picked⟩
  by_cases equal : other = ref
  · subst equal
    rw [Function.update_self] at picked
    exact .inl picked
  · rw [Function.update_of_ne equal] at picked
    exact .inr ⟨other, picked⟩

theorem picked_of_step (keyed : server.shared.SessionsKeyed)
    (stepped : step zstd server action = some next) {addr : SocketAddr}
    (picked : next.Picked addr) : server.Picked addr ∨ next.Available addr := by
  cases transition_of_step stepped with
  | acceptApp =>
      rcases picked_update picked with none | before
      · exact none.elim
      · exact .inl before
  | @app ref input shared task moved =>
      rcases picked_update picked with mine | before
      · rcases moved.picked keyed mine with before | found
        · exact .inl ⟨ref, before⟩
        · refine .inr (.inl ?_)
          change shared.clientSessions.lookup addr ≠ none
          rw [moved.sameSessions.clientSessions]
          exact found
      · exact .inl before
  | _ => exact .inl picked

theorem routed_or_picked_of_step (stepped : step zstd server action = some next)
    {addr : SocketAddr} (routed : next.Routed addr) :
    server.Routed addr ∨ server.Picked addr := by
  rcases routed with ⟨linkId, found⟩
  cases transition_of_step stepped with
  | @app ref input shared task moved =>
      rcases moved.route found with before | before
      · exact .inl ⟨linkId, before⟩
      · exact .inr ⟨ref, before⟩
  | gateway moved => exact .inl ⟨linkId, moved.routesShrink linkId addr found⟩
  | shutdown moved =>
      generalize server.shutdown = task at moved
      cases moved <;> exact .inl ⟨linkId, found⟩
  | _ => exact .inl ⟨linkId, found⟩

/-- A cleanup lets go of the routes only when it has removed them. -/
theorem sweeping_of_step (slots : SlotsInOrder server)
    (stepped : step zstd server action = some next) {addr : SocketAddr}
    (sweeping : server.Sweeping addr) (routed : next.Routed addr) : next.Sweeping addr := by
  rcases sweeping with ⟨ref, sessionId, point⟩
  cases transition_of_step stepped with
  | acceptGateway =>
      have different : ref ≠ server.gatewayCount := by
        intro equal
        rw [equal, slots.gateway _ (Nat.le_refl _)] at point
        cases point
      exact ⟨ref, sessionId, by simpa [different] using point⟩
  | @gateway slot input shared task moved =>
      by_cases equal : ref = slot
      · subst equal
        rcases routed with ⟨linkId, found⟩
        rw [point] at moved
        cases moved with
        | exchanging moved =>
            cases moved with
            | cleanup cleaning =>
                cases cleaning with
                | routes =>
                    have kept := ((FiniteMap.lookup_filter_eq_some _ _ _ _).mp found).2
                    simp at kept
            | cleaned cleaning => cases cleaning
      · exact ⟨ref, sessionId, by simpa [equal] using point⟩
  | _ => exact ⟨ref, sessionId, point⟩

theorem sessionsKeyed_of_step (keyed : server.shared.SessionsKeyed)
    (stepped : step zstd server action = some next) : next.shared.SessionsKeyed := by
  cases transition_of_step stepped with
  | app moved =>
      intro addr session found
      change (_ : GatewayServer).clientSessions.lookup addr = some session at found
      rw [moved.sameSessions.clientSessions] at found
      exact keyed addr session found
  | gateway moved => exact moved.sessionsKeyed keyed
  | shutdown moved =>
      generalize server.shutdown = task at moved
      cases moved with
      | closeSession => exact fun _ _ found => keyed _ _ (FiniteMap.lookup_of_erase found).2
      | _ => exact keyed
  | _ => exact keyed

theorem sessionsKeyed_of_reachable (reachable : (system zstd).Reachable server) :
    server.shared.SessionsKeyed := by
  induction reachable with
  | refl =>
      intro addr session found
      cases found
  | step _ _ stepped keyed => exact sessionsKeyed_of_step keyed stepped

structure NeededAvailable (server : Server) : Prop where
  picked : ∀ addr, server.Picked addr → server.Available addr
  routed : ∀ addr, server.Routed addr → server.Available addr ∨ server.Sweeping addr

theorem NeededAvailable.step (available : NeededAvailable server)
    (keyed : server.shared.SessionsKeyed) (slots : SlotsInOrder server)
    (orderly : Orderly server action) (stepped : step zstd server action = some next) :
    NeededAvailable next := by
  constructor
  · intro addr picked
    rcases picked_of_step keyed stepped picked with before | after
    · rcases available_of_step slots stepped (available.picked addr before) with kept | lost
      · exact kept
      · exact absurd before (orderly.session addr lost).1
    · exact after
  · intro addr routed
    rcases routed_or_picked_of_step stepped routed with before | picked
    · rcases available.routed addr before with present | sweeping
      · rcases available_of_step slots stepped present with kept | lost
        · exact .inl kept
        · have sweeping := (orderly.session addr lost).2 before
          exact .inr (sweeping_of_step slots stepped sweeping routed)
      · exact .inr (sweeping_of_step slots stepped sweeping routed)
    · rcases available_of_step slots stepped (available.picked addr picked) with kept | lost
      · exact .inl kept
      · exact absurd picked (orderly.session addr lost).1

end Server

/-! ## Consistency -/

/-- The task is in none of the calls that change the tables. -/
def AppTask.settled : AppTask → Bool
  | .handling _ => false
  | .exchanging _ _ (.removing _) => false
  | _ => true

def GatewayTask.settled : GatewayTask → Bool
  | .handling _ _ => false
  | .exchanging _ _ (.removing _) => false
  | .exchanging _ _ (.cleanup _) => false
  | _ => true

namespace Server

variable {zstd : Zstd} {server next : Server} {action : ServerAction}

/-- No call of `handle_gateway_connection`, `handle_app_connection`, `remove_link`
or `cleanup_client` is in progress. -/
structure Settled (server : Server) : Prop where
  app : ∀ ref, (server.app ref).settled = true
  gateway : ∀ ref, (server.gateway ref).settled = true

/-- The registry and the routing table have the same keys, and every route leads
to a session. -/
structure RoutingConsistent (server : GatewayServer) : Prop where
  keys : server.base.links.keys = server.linkClients.keys
  sessions : ∀ linkId addr, server.linkClients.lookup linkId = some addr →
    addr ∈ server.clientSessions.keys

theorem not_holdsBare_of_settled (settled : Settled server) (slot : LinkRef ⊕ ConnectionRef)
    (key : UInt16) : ¬ HoldsBare (server.tasks slot) key := by
  intro held
  cases slot with
  | inl ref =>
      have quiet := settled.app ref
      simp only [tasks, Sum.elim_inl, Function.comp_apply] at held
      generalize server.app ref = task at held quiet
      unfold HoldsBare at held
      split at held <;> simp_all [AppTask.settled]
  | inr ref =>
      have quiet := settled.gateway ref
      simp only [tasks, Sum.elim_inr, Function.comp_apply] at held
      generalize server.gateway ref = task at held quiet
      unfold HoldsBare at held
      split at held <;> simp_all [GatewayTask.settled]

theorem mem_keys_iff_hasLink {server : GatewayServer} {linkId : UInt16} :
    linkId ∈ server.base.links.keys ↔ server.HasLink linkId := by
  rw [Finmap.mem_keys, ← Finmap.lookup_isSome, Option.isSome_iff_ne_none]
  rfl

theorem mem_keys_iff_hasRoute {server : GatewayServer} {linkId : UInt16} :
    linkId ∈ server.linkClients.keys ↔ server.HasRoute linkId := by
  rw [Finmap.mem_keys, ← Finmap.lookup_isSome, Option.isSome_iff_ne_none]
  rfl

/-- In every orderly run the tables are consistent whenever none of the calls that
change them is in progress. -/
theorem routing_consistent_of_orderly (zstd : Zstd) (server : Server)
    (reachable : (system zstd).ReachableUnder Orderly server) (settled : server.Settled) :
    RoutingConsistent server.shared := by
  have linked : RoutesLinked server :=
    reachable.invariant (fun _ routed => by
      rcases routed with routed | ⟨ref, inserting⟩
      · exact absurd rfl routed
      · exact inserting.elim) fun _ _ _ _ linked orderly stepped => linked.step orderly stepped
  have available : NeededAvailable server :=
    reachable.invariant ⟨fun _ ⟨_, picked⟩ => picked.elim, fun _ ⟨_, found⟩ => by cases found⟩
      fun _ _ _ earlier available orderly stepped =>
        available.step (sessionsKeyed_of_reachable earlier.always)
          (slotsInOrder_of_reachable earlier.always) orderly stepped
  constructor
  · ext linkId
    rw [mem_keys_iff_hasLink, mem_keys_iff_hasRoute]
    constructor
    · intro registered
      by_contra bare
      exact (bareOwned_of_reachable reachable.always).not_entry
        (not_holdsBare_of_settled settled) linkId ⟨registered, bare⟩
    · intro routed
      exact linked linkId (.inl routed)
  · intro linkId addr found
    rw [Finmap.mem_keys, ← Finmap.lookup_isSome, Option.isSome_iff_ne_none]
    rcases available.routed addr ⟨linkId, found⟩ with present | ⟨ref, sessionId, point⟩
    · rcases present with stored | ⟨ref, handshaking⟩
      · exact stored
      · have quiet := settled.gateway ref
        generalize server.gateway ref = task at handshaking quiet
        cases task with
        | handling => cases quiet
        | _ => exact handshaking.elim
    · have quiet := settled.gateway ref
      rw [point] at quiet
      cases quiet

theorem SlotsInOrder.settled (slots : SlotsInOrder server)
    (app : ∀ ref < server.appCount, (server.app ref).settled = true)
    (gateway : ∀ ref < server.gatewayCount, (server.gateway ref).settled = true) :
    server.Settled where
  app := by
    intro ref
    by_cases used : ref < server.appCount
    · exact app ref used
    · rw [slots.app ref (Nat.le_of_not_lt used)]
      rfl
  gateway := by
    intro ref
    by_cases used : ref < server.gatewayCount
    · exact gateway ref used
    · rw [slots.gateway ref (Nat.le_of_not_lt used)]
      rfl

/-- The step neither removes a link nor takes away a session. -/
def undisturbed (server : Server) : ServerAction → Bool
  | .app ref _ =>
      match server.app ref with
      | .exchanging _ _ (.removing _) => false
      | _ => true
  | .gateway ref input =>
      match server.gateway ref with
      | .exchanging _ _ _ => false
      | .handling _ .authenticate => input ≠ .verdict false
      | _ => true
  | .shutdown _ => false
  | _ => true

theorem orderly_of_undisturbed (undisturbed : server.undisturbed action = true) :
    Orderly server action := by
  constructor
  · intro linkId removes
    cases removes with
    | app task => simp [Server.undisturbed, task] at undisturbed
    | gateway task => simp [Server.undisturbed, task] at undisturbed
    | cleanup task => simp [Server.undisturbed, task] at undisturbed
    | shutdown => cases undisturbed
  · intro addr forgets
    cases forgets with
    | cleanup task => simp [Server.undisturbed, task] at undisturbed
    | deny task => simp [Server.undisturbed, task] at undisturbed
    | shutdown => cases undisturbed

theorem routing_consistent_of_orderly_oneOpenLink :
    ∃ server : Server, server.shared.linkClients.lookup 1 = some localClient ∧
      RoutingConsistent server.shared := by
  have executed : ((system .runLength).runChecked undisturbed .new oneOpenLink).any
      (fun server => server.shared.linkClients.lookup 1 = some localClient ∧
        (∀ ref < server.appCount, (server.app ref).settled = true) ∧
        ∀ ref < server.gatewayCount, (server.gateway ref).settled = true) = true := by
    decide +kernel
  rcases TransitionSystem.exists_reaches_of_runChecked executed with ⟨server, reaches, found⟩
  have reachable : (system .runLength).ReachableUnder Orderly server :=
    reaches.mono fun _ _ passed => orderly_of_undisturbed passed
  rcases of_decide_eq_true found with ⟨route, app, gateway⟩
  have slots := slotsInOrder_of_reachable reachable.always
  exact ⟨server, route,
    routing_consistent_of_orderly .runLength server reachable (slots.settled app gateway)⟩

/-- An application is accepted, and the client it is assigned to disconnects before
the link is registered. -/
def clientLeavesEarly : List ServerAction :=
  [.acceptGateway localClient, .gateway 0 .go, .gateway 0 .go, .gateway 0 (.verdict true),
    .gateway 0 .go, .gateway 0 (.session 7), .gateway 0 .go,
    .acceptApp, .app 0 .go, .app 0 (.client localClient),
    .gateway 0 .ended, .gateway 0 .go, .gateway 0 .go, .gateway 0 .go, .gateway 0 .go,
    .gateway 0 .go, .gateway 0 .go,
    .app 0 .go, .app 0 .go, .app 0 .go, .app 0 (.write (.failed 0)), .app 0 .go]

theorem routing_inconsistent_of_clientLeavesEarly :
    ¬ ∀ server, (system .runLength).Reachable server → server.Settled →
      RoutingConsistent server.shared := by
  intro consistent
  have executed : ((system .runLength).runChecked (fun _ _ => true) .new clientLeavesEarly).any
      (fun server => (server.shared.linkClients.lookup 1 = some localClient ∧
        localClient ∉ server.shared.clientSessions.keys) ∧
        (∀ ref < server.appCount, (server.app ref).settled = true) ∧
        ∀ ref < server.gatewayCount, (server.gateway ref).settled = true) = true := by
    decide +kernel
  rcases TransitionSystem.exists_reaches_of_runChecked executed with ⟨server, reaches, found⟩
  rcases of_decide_eq_true found with ⟨⟨route, missing⟩, app, gateway⟩
  have slots := slotsInOrder_of_reachable reaches.always
  have settled := slots.settled app gateway
  exact missing ((consistent server reaches.always settled).sessions 1 localClient route)

end Server

end IoGateway

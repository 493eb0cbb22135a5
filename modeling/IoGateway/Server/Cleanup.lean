import IoGateway.Server.Opening
import IoGateway.Server.Routing
import IoGateway.Server.Shutdown

/-! # The cleanup after a session

`cleanup_client` takes the links to remove from the routes of the session's address.
A session is told from another one of its address by its identifier, and a link by the
connection that its forwarding task is bound to.
-/

namespace IoGateway

def CleanupClient.toRemove : CleanupClient → Finset UInt16
  | .links remaining => remaining
  | .close _ remaining => remaining
  | _ => ∅

def GatewayTask.toRemove : GatewayTask → Finset UInt16
  | .exchanging _ _ (.cleanup point) => point.toRemove
  | _ => ∅

def GatewayTask.cleans : GatewayTask → Bool
  | .exchanging _ _ (.cleanup _) => true
  | _ => false

def ServerAction.IsGateway (client : ConnectionRef) : ServerAction → Bool
  | .gateway other _ => other == client
  | _ => false

namespace Server

/-- The application was given to the session of this connection. -/
def BoundTo (server : Server) (ref : LinkRef) (client : ConnectionRef) : Prop :=
  (server.app ref).connection? = some client

def Cleans (client : ConnectionRef) (server : Server) (_ : ServerAction) : Prop :=
  (server.gateway client).cleans = true

/-! ## Scoped to a session -/

/-- What is not of this session stays in the tables, and its links stay open. -/
structure Spared (client : ConnectionRef) (sessionId : Uuid) (before after : Server) :
    Prop where
  links : ∀ linkId ref, before.shared.base.links.lookup linkId = some ref →
    ¬ before.BoundTo ref client →
    after.shared.base.links.lookup linkId = some ref ∧
      after.shared.base.link ref = before.shared.base.link ref
  routes : ∀ linkId ref addr, before.shared.linkClients.lookup linkId = some addr →
    (before.app ref).HoldsRoute linkId → ¬ before.BoundTo ref client →
    after.shared.linkClients.lookup linkId = some addr
  sessions : ∀ addr session, before.shared.clientSessions.lookup addr = some session →
    session.sessionId ≠ sessionId → after.shared.clientSessions.lookup addr = some session

/-- The cleanup that begins in one state with the collection of the routes and returns in
another removes what is of its session and spares the rest. -/
structure ScopedCleanup (client : ConnectionRef) (addr : SocketAddr) (sessionId : Uuid)
    (before collected : Server) (steps : List Step) (after : Server) : Prop where
  collecting : Spared client sessionId before collected
  spared : ∀ step ∈ steps, step.action.IsGateway client = true →
    Spared client sessionId step.before step.after
  links : ∀ linkId ref, before.shared.base.links.lookup linkId = some ref →
    before.BoundTo ref client → after.shared.base.links.lookup linkId ≠ some ref
  routes : ∀ linkId ref, before.shared.linkClients.lookup linkId = some addr →
    (before.app ref).HoldsRoute linkId → before.BoundTo ref client →
    collected.shared.linkClients.lookup linkId = none

/-- The routes to the address are those of the registered links of this session. -/
structure OwnRoutes (server : Server) (client : ConnectionRef) (addr : SocketAddr) :
    Prop where
  bound : ∀ linkId ref, server.shared.linkClients.lookup linkId = some addr →
    (server.app ref).HoldsLink linkId ∨ (server.app ref).HoldsRoute linkId →
    server.BoundTo ref client
  routed : ∀ linkId ref, server.shared.base.links.lookup linkId = some ref →
    server.BoundTo ref client → server.shared.linkClients.lookup linkId = some addr

/-- The step registers no link of another session under an identifier that the cleanup is
still to remove. -/
def Undisturbed (client : ConnectionRef) (step : Step) : Prop :=
  ∀ ref linkId writer addr, step.before.app ref = .handling (.addLink linkId writer addr) →
    step.after.app ref = .handling (.insertRoute linkId writer addr) →
    linkId ∈ (step.before.gateway client).toRemove → writer = client

/-- Another session of the address has a link. -/
def AddressShared (server : Server) (client : ConnectionRef) (addr : SocketAddr) : Prop :=
  ∃ linkId ref, server.shared.linkClients.lookup linkId = some addr ∧
    (server.app ref).HoldsRoute linkId ∧ ¬ server.BoundTo ref client

end Server

/-! ## The binding of a link -/

theorem AppTask.not_unregistered_of_holdsLink {task : AppTask} {linkId : UInt16}
    (held : task.HoldsLink linkId) :
    ¬ task.Unregistered := by
  intro unregistered
  cases task with
  | handling point => cases point <;> first | exact held | exact unregistered
  | _ => first | exact held | exact unregistered

namespace GatewayServer

variable {zstd : Zstd} {server after : GatewayServer} {input : Input}

theorem AppStep.connection_kept {ref : LinkRef} {task next : AppTask} {client : ConnectionRef}
    {linkId : UInt16} (stepped : server.AppStep zstd ref task input after next)
    (bound : task.connection? = some client) (held : next.HoldsLink linkId) :
    next.connection? = some client := by
  cases stepped with
  | handling stepped =>
      cases stepped with
      | nextLinkId => cases bound
      | pickClient => cases bound
      | noClient => cases bound
      | reject => cases bound
      | _ => exact bound
  | exchanging stepped =>
      cases stepped with
      | removed => exact held.elim
      | _ => exact bound

end GatewayServer

namespace Server

variable {zstd : Zstd} {server next : Server} {action : ServerAction} {ref : LinkRef}
  {linkId : UInt16} {client : ConnectionRef} {addr : SocketAddr} {sessionId : Uuid}
  {input : Input}

theorem BoundTo.step (bound : server.BoundTo ref client) (slots : SlotsInOrder server)
    (stepped : step zstd server action = some next) (held : (next.app ref).HoldsLink linkId) :
    next.BoundTo ref client := by
  cases transition_of_step stepped with
  | acceptApp =>
      have different : ref ≠ server.appCount := by
        intro equal
        rw [BoundTo, equal, slots.app _ (Nat.le_refl _)] at bound
        cases bound
      change (Function.update server.app server.appCount _ ref).connection? = some client
      rwa [Function.update_of_ne different]
  | @app slot input shared task moved =>
      change (Function.update server.app slot task ref).connection? = some client
      change (Function.update server.app slot task ref).HoldsLink linkId at held
      by_cases equal : ref = slot
      · subst equal
        rw [Function.update_self] at held ⊢
        exact moved.connection_kept bound held
      · rwa [Function.update_of_ne equal]
  | _ => exact bound

theorem registered_of_step (stepped : step zstd server action = some next)
    (found : next.shared.base.links.lookup linkId = some ref) :
    server.shared.base.links.lookup linkId = some ref ∨
      ∃ writer addr, server.app ref = .handling (.addLink linkId writer addr) ∧
        next.app ref = .handling (.insertRoute linkId writer addr) := by
  cases registryStep_of_step stepped with
  | accept same => exact .inl (by rwa [same] at found)
  | draw _ _ _ _ shared =>
      rw [shared] at found
      exact .inl found
  | register slot key writer addr registering shared app =>
      rw [shared] at found
      simp only [GatewayServer.updateBase, FiniteMap.lookup_insert] at found
      split at found
      · rename_i equal
        cases found
        subst equal
        exact .inr ⟨writer, addr, registering, by rw [app, Function.update_self]⟩
      · exact .inl found
  | keep _ shrink => exact .inl (shrink linkId ref found)

/-- A link whose task is past `add_link` is not registered again. -/
theorem registered_of_past (past : ¬ (server.app ref).Unregistered)
    (stepped : step zstd server action = some next)
    (found : next.shared.base.links.lookup linkId = some ref) :
    server.shared.base.links.lookup linkId = some ref := by
  rcases registered_of_step stepped found with earlier | ⟨writer, addr, registering, -⟩
  · exact earlier
  · rw [registering] at past
    exact absurd trivial past

/-! ## What is known during the cleanup -/

/-- The links that were registered when the cleanup began and are of its session. -/
def OwnLink (before : Server) (client : ConnectionRef) (linkId : UInt16) (ref : LinkRef) :
    Prop :=
  before.shared.base.links.lookup linkId = some ref ∧ before.BoundTo ref client

def NoForeign (server : Server) (client : ConnectionRef) (ref : LinkRef) : Prop :=
  ∀ linkId, server.shared.base.links.lookup linkId = some ref → server.BoundTo ref client

def CleanupClient.closing? : CleanupClient → Option LinkRef
  | .close ref _ => some ref
  | _ => none

structure Cleaning (before : Server) (client : ConnectionRef) (server : Server)
    (point : CleanupClient) : Prop where
  collected : point ≠ .routes
  pending : ∀ linkId ∈ point.toRemove, ∀ ref,
    server.shared.base.links.lookup linkId = some ref → server.BoundTo ref client
  closing : ∀ ref, CleanupClient.closing? point = some ref →
    ¬ (server.app ref).Unregistered ∧ NoForeign server client ref
  past : ∀ linkId ref, OwnLink before client linkId ref → ¬ (server.app ref).Unregistered
  removed : ∀ linkId ref, OwnLink before client linkId ref →
    linkId ∈ point.toRemove ∨ server.shared.base.links.lookup linkId ≠ some ref

variable {before : Server} {point : CleanupClient}

theorem NoForeign.step (foreign : NoForeign server client ref)
    (past : ¬ (server.app ref).Unregistered) (slots : SlotsInOrder server)
    (held : LinksHeld next) (stepped : step zstd server action = some next) :
    NoForeign next client ref := by
  intro linkId found
  have earlier := registered_of_past past stepped found
  exact (foreign linkId earlier).step slots stepped (held linkId ref found)

/-- Other tasks leave what is known untouched, as long as they do not register a link under
one of the identifiers. -/
theorem Cleaning.otherStep (cleaning : Cleaning before client server point)
    (at_ : (server.gateway client).toRemove = point.toRemove)
    (slots : SlotsInOrder server) (held : LinksHeld next)
    (stepped : step zstd server action = some next)
    (undisturbed : Undisturbed client ⟨server, action, next⟩) :
    Cleaning before client next point where
  collected := cleaning.collected
  pending := by
    intro linkId member ref found
    rcases registered_of_step stepped found with earlier | ⟨writer, addr, registering, after⟩
    · exact (cleaning.pending linkId member ref earlier).step slots stepped (held linkId ref found)
    · have own : writer = client :=
        undisturbed ref linkId writer addr registering after (by rw [at_]; exact member)
      rw [BoundTo, after, own]
      rfl
  closing := by
    intro ref closing
    rcases cleaning.closing ref closing with ⟨past, foreign⟩
    exact ⟨past_of_step slots past stepped, foreign.step past slots held stepped⟩
  past := fun linkId ref own => past_of_step slots (cleaning.past linkId ref own) stepped
  removed := by
    intro linkId ref own
    rcases cleaning.removed linkId ref own with waiting | gone
    · exact .inl waiting
    · right
      intro found
      exact gone (registered_of_past (cleaning.past linkId ref own) stepped found)

/-! ## The steps of the cleanup -/

variable {shared : GatewayServer} {result : Option CleanupClient}

theorem Spared.of_same (after : next.shared = shared)
    (links : shared.base.links = server.shared.base.links)
    (link : shared.base.link = server.shared.base.link)
    (linkClients : shared.linkClients = server.shared.linkClients)
    (clientSessions : shared.clientSessions = server.shared.clientSessions) :
    Spared client sessionId server next where
  links := fun linkId ref found _ => by
    rw [after, links, link]
    exact ⟨found, rfl⟩
  routes := fun linkId ref addr found _ _ => by rwa [after, linkClients]
  sessions := fun addr session found _ => by rwa [after, clientSessions]

/-- Taking a link of the session out of the registry spares the others. -/
theorem spared_removeLink (own : ∀ ref, server.shared.base.links.lookup linkId = some ref →
      server.BoundTo ref client)
    (after : next.shared = server.shared.updateBase
      { server.shared.base with links := server.shared.base.links.erase linkId }) :
    Spared client sessionId server next where
  links := by
    intro other ref found foreign
    have different : other ≠ linkId := by
      intro equal
      subst equal
      exact foreign (own ref found)
    rw [after]
    exact ⟨by simpa [different] using found, rfl⟩
  routes := fun linkId ref addr found _ _ => by rwa [after]
  sessions := fun addr session found _ => by rwa [after]

theorem Cleaning.spared (cleaning : Cleaning before client server point)
    (cleaned : server.shared.CleanupStep addr sessionId point input shared result)
    (after : next.shared = shared) : Spared client sessionId server next := by
  cases cleaned with
  | routes => exact absurd rfl cleaning.collected
  | link member => exact spared_removeLink (cleaning.pending _ member) after
  | noLink member => exact spared_removeLink (cleaning.pending _ member) after
  | @close taken remaining =>
      refine ⟨?_, fun linkId ref addr found _ _ => by rwa [after],
        fun addr session found _ => by rwa [after]⟩
      intro linkId ref found foreign
      have different : ref ≠ taken := by
        intro equal
        subst equal
        exact foreign ((cleaning.closing ref rfl).2 linkId found)
      rw [after]
      exact ⟨found, by simp [Gateway.updateLink, different]⟩
  | @session current found same =>
      refine ⟨fun linkId ref found _ => by rw [after]; exact ⟨found, rfl⟩,
        fun linkId ref addr found _ _ => by rwa [after], ?_⟩
      intro other session present foreign
      have different : other ≠ addr := by
        intro equal
        subst equal
        cases found.symm.trans present
        exact foreign same
      rw [after]
      simpa [different] using present
  | _ => exact .of_same after rfl rfl rfl rfl

theorem Cleaning.remove {remaining : Finset UInt16}
    (cleaning : Cleaning before client server (.links remaining))
    (app : next.app = server.app)
    (after : next.shared = server.shared.updateBase
      { server.shared.base with links := server.shared.base.links.erase linkId })
    {later : CleanupClient} (rest : later.toRemove = remaining.erase linkId)
    (collected : later ≠ .routes)
    (closing : ∀ ref, CleanupClient.closing? later = some ref →
      server.shared.base.links.lookup linkId = some ref ∧ linkId ∈ remaining)
    (held : LinksHeld server) : Cleaning before client next later := by
  have shrink : ∀ other ref, next.shared.base.links.lookup other = some ref →
      other ≠ linkId ∧ server.shared.base.links.lookup other = some ref := by
    intro other ref found
    rw [after] at found
    exact FiniteMap.lookup_of_erase found
  refine ⟨collected, ?_, ?_, ?_, ?_⟩
  · intro other member ref found
    rw [rest] at member
    rw [BoundTo, app]
    exact cleaning.pending other (Finset.mem_of_mem_erase member) ref (shrink other ref found).2
  · intro ref taken
    rcases closing ref taken with ⟨found, member⟩
    refine ⟨?_, ?_⟩
    · rw [app]
      exact AppTask.not_unregistered_of_holdsLink (held linkId ref found)
    · intro other _
      rw [BoundTo, app]
      exact cleaning.pending linkId member ref found
  · rw [app]
    exact cleaning.past
  · intro other ref own
    rw [rest]
    by_cases equal : other = linkId
    · right
      intro found
      exact (shrink other ref found).1 equal
    · rcases cleaning.removed other ref own with waiting | gone
      · exact .inl (Finset.mem_erase.mpr ⟨equal, waiting⟩)
      · exact .inr fun found => gone (shrink other ref found).2

theorem Cleaning.keep (cleaning : Cleaning before client server point)
    (app : next.app = server.app) (after : next.shared = shared)
    (links : shared.base.links = server.shared.base.links)
    {later : CleanupClient} (rest : later.toRemove = point.toRemove) (collected : later ≠ .routes)
    (closing : CleanupClient.closing? later = none) : Cleaning before client next later where
  collected := collected
  pending := by
    rw [rest, after, links]
    intro linkId member ref found
    rw [BoundTo, app]
    exact cleaning.pending linkId member ref found
  closing := by
    intro ref taken
    rw [closing] at taken
    cases taken
  past := by
    rw [app]
    exact cleaning.past
  removed := by
    rw [rest, after, links]
    exact cleaning.removed

theorem Cleaning.ownStep {later : CleanupClient} (cleaning : Cleaning before client server point)
    (cleaned : server.shared.CleanupStep addr sessionId point input shared (some later))
    (app : next.app = server.app) (after : next.shared = shared) (held : LinksHeld server) :
    Cleaning before client next later := by
  cases cleaned with
  | routes => exact absurd rfl cleaning.collected
  | link member found =>
      apply cleaning.remove app after rfl (by simp) _ held
      intro ref taken
      cases taken
      exact ⟨found, member⟩
  | noLink member absent =>
      apply cleaning.remove app after rfl (by simp) _ held
      intro ref taken
      cases taken
  | _ => exact cleaning.keep app after rfl rfl (by simp) rfl

theorem Cleaning.returned (cleaning : Cleaning before client server point)
    (cleaned : server.shared.CleanupStep addr sessionId point input shared none)
    (after : next.shared = shared) (own : OwnLink before client linkId ref) :
    next.shared.base.links.lookup linkId ≠ some ref := by
  have nothing : point.toRemove = ∅ ∧ shared.base.links = server.shared.base.links := by
    cases cleaned <;> exact ⟨rfl, rfl⟩
  rcases cleaning.removed linkId ref own with waiting | gone
  · rw [nothing.1] at waiting
    exact absurd waiting (Finset.notMem_empty _)
  · rwa [after, nothing.2]

/-! ## A run of the cleanup -/

theorem Cleaning.start (own : OwnRoutes before client addr) (held : LinksHeld before)
    (app : next.app = before.app) (links : next.shared.base.links = before.shared.base.links) :
    Cleaning before client next (.links (before.shared.ownedLinks addr)) where
  collected := by simp
  pending := by
    intro linkId member ref found
    rw [links] at found
    rw [BoundTo, app]
    exact own.bound linkId ref (GatewayServer.mem_ownedLinks.mp member)
      (.inl (held linkId ref found))
  closing := by
    intro ref taken
    cases taken
  past := by
    rintro linkId ref ⟨found, -⟩
    rw [app]
    exact AppTask.not_unregistered_of_holdsLink (held linkId ref found)
  removed := by
    rintro linkId ref ⟨found, bound⟩
    exact .inl (GatewayServer.mem_ownedLinks.mpr (own.routed linkId ref found bound))

theorem OwnRoutes.spared (own : OwnRoutes before client addr)
    (base : next.shared.base = before.shared.base)
    (clientSessions : next.shared.clientSessions = before.shared.clientSessions)
    (linkClients : next.shared.linkClients =
      FiniteMap.filter (fun _ owner => owner ≠ addr) before.shared.linkClients) :
    Spared client sessionId before next where
  links := fun linkId ref found _ => by
    rw [base]
    exact ⟨found, rfl⟩
  routes := by
    intro linkId ref owner found held foreign
    have different : owner ≠ addr := by
      intro equal
      subst equal
      exact foreign (own.bound linkId ref found (.inr held))
    rw [linkClients]
    exact (FiniteMap.lookup_filter_eq_some ..).mpr ⟨found, by simpa using different⟩
  sessions := fun addr session found _ => by rwa [clientSessions]

inductive Stage (before : Server) (client : ConnectionRef) (addr : SocketAddr)
    (sessionId : Uuid) (server : Server) : Prop
  | cleaning (point : CleanupClient)
      (task : server.gateway client = .exchanging addr sessionId (.cleanup point))
      (known : Cleaning before client server point)
  | returned (finished : server.gateway client = .finished)
      (removed : ∀ linkId ref, OwnLink before client linkId ref →
        server.shared.base.links.lookup linkId ≠ some ref)

theorem gateway_eq_of_other (slots : SlotsInOrder server)
    (present : server.gateway client ≠ .absent)
    (transition : Transition zstd server action next)
    (other : action.IsGateway client = false) : next.gateway client = server.gateway client := by
  cases transition with
  | acceptGateway => exact Function.update_of_ne (Nat.ne_of_lt (slots.gateway_lt present)) ..
  | gateway stepped =>
      apply Function.update_of_ne
      intro equal
      simp [ServerAction.IsGateway, equal] at other
  | _ => rfl

theorem Stage.otherStep (known : Cleaning before client server point)
    (task : server.gateway client = .exchanging addr sessionId (.cleanup point))
    (reachable : (system zstd).Reachable server)
    (stepped : step zstd server action = some next)
    (undisturbed : Undisturbed client ⟨server, action, next⟩)
    (other : action.IsGateway client = false) : Stage before client addr sessionId next := by
  have slots := slotsInOrder_of_reachable reachable
  have held := linksHeld_of_reachable (.step reachable trivial stepped)
  refine .cleaning point ?_ (known.otherStep ?_ slots held stepped undisturbed)
  · rw [gateway_eq_of_other slots (by simp [task]) (transition_of_step stepped) other]
    exact task
  · rw [task]
    rfl

theorem Stage.ownStep {taskAfter : GatewayTask}
    (known : Cleaning before client server point)
    (task : server.gateway client = .exchanging addr sessionId (.cleanup point))
    (held : LinksHeld server)
    (moved : server.shared.GatewayStep zstd client (server.gateway client) input shared taskAfter)
    (app : next.app = server.app) (after : next.shared = shared)
    (gateway : next.gateway client = taskAfter) :
    Stage before client addr sessionId next ∧ Spared client sessionId server next := by
  rw [task] at moved
  cases moved with
  | exchanging moved =>
      cases moved with
      | cleanup cleaned =>
          exact ⟨.cleaning _ gateway (known.ownStep cleaned app after held),
            known.spared cleaned after⟩
      | cleaned cleaned =>
          exact ⟨.returned gateway fun _ _ own => known.returned cleaned after own,
            known.spared cleaned after⟩

theorem Stage.step (stage : Stage before client addr sessionId server)
    (cleans : (server.gateway client).cleans = true)
    (reachable : (system zstd).Reachable server)
    (stepped : step zstd server action = some next)
    (undisturbed : Undisturbed client ⟨server, action, next⟩) :
    Stage before client addr sessionId next ∧
      (action.IsGateway client = true → Spared client sessionId server next) := by
  cases stage with
  | returned finished =>
      rw [finished] at cleans
      cases cleans
  | cleaning point task known =>
      cases other : action.IsGateway client with
      | false =>
          refine ⟨Stage.otherStep known task reachable stepped undisturbed other, ?_⟩
          intro own
          cases own
      | true =>
          cases transition_of_step stepped with
          | gateway moved =>
              cases eq_of_beq other
              have held := linksHeld_of_reachable reachable
              refine And.imp_right (fun spared _ => spared) ?_
              exact Stage.ownStep known task held moved rfl rfl (Function.update_self ..)
          | _ => cases other

theorem stage_of_history {collected : Server} {steps : List Step}
    (reachable : (system zstd).Reachable collected)
    (start : Stage before client addr sessionId collected)
    (history : (system zstd).History (Cleans client) collected steps server)
    (undisturbed : ∀ step ∈ steps, Undisturbed client step) :
    Stage before client addr sessionId server ∧
      ∀ step ∈ steps, step.action.IsGateway client = true →
        Spared client sessionId step.before step.after := by
  induction history with
  | start => exact ⟨start, fun _ member => absurd member (List.not_mem_nil)⟩
  | @step steps server next action earlier cleans stepped induction =>
      rcases induction fun step member => undisturbed step (List.mem_append_left _ member) with
        ⟨stage, spared⟩
      rcases stage.step cleans (reachable.trans earlier.reaches.always) stepped
        (undisturbed _ List.mem_concat_self) with ⟨stage, last⟩
      refine ⟨stage, ?_⟩
      intro step member
      rcases List.mem_append.mp member with before | now
      · exact spared step before
      · cases List.mem_singleton.mp now
        exact last

theorem lookup_filter_ne_eq_none {linkClients : FiniteMap UInt16 SocketAddr}
    (found : linkClients.lookup linkId = some addr) :
    (FiniteMap.filter (fun _ owner => owner ≠ addr) linkClients).lookup linkId = none := by
  apply Option.eq_none_iff_forall_ne_some.mpr
  intro owner kept
  rcases (FiniteMap.lookup_filter_eq_some ..).mp kept with ⟨same, different⟩
  rw [found] at same
  cases same
  simp at different

theorem collected_of_step {collected : Server}
    (begins : before.gateway client = .exchanging addr sessionId (.cleanup .routes))
    (first : step zstd before (.gateway client .go) = some collected) :
    collected.app = before.app ∧ collected.shared.base = before.shared.base ∧
      collected.shared.clientSessions = before.shared.clientSessions ∧
      collected.shared.linkClients =
        FiniteMap.filter (fun _ owner => owner ≠ addr) before.shared.linkClients ∧
      collected.gateway client = .exchanging addr sessionId
        (.cleanup (.links (before.shared.ownedLinks addr))) := by
  simp only [step, begins, GatewayTask.usesSessions, Bool.and_false, Bool.false_eq_true,
    if_false] at first
  cases first
  exact ⟨rfl, rfl, rfl, rfl, Function.update_self ..⟩

variable {collected after : Server} {steps : List Step}

theorem scopedCleanup_of_ownRoutes (reachable : (system zstd).Reachable before)
    (begins : before.gateway client = .exchanging addr sessionId (.cleanup .routes))
    (first : (system zstd).step before (.gateway client .go) = some collected)
    (history : (system zstd).History (Cleans client) collected steps after)
    (returned : after.gateway client = .finished) (own : OwnRoutes before client addr)
    (undisturbed : ∀ step ∈ steps, Undisturbed client step) :
    ScopedCleanup client addr sessionId before collected steps after := by
  rcases collected_of_step begins first with ⟨app, base, clientSessions, linkClients, task⟩
  have known : Cleaning before client collected (.links (before.shared.ownedLinks addr)) :=
    .start own (linksHeld_of_reachable reachable) app (congrArg Gateway.links base)
  rcases stage_of_history (.step reachable trivial first) (.cleaning _ task known) history
    undisturbed with ⟨stage, spared⟩
  refine ⟨own.spared base clientSessions linkClients, spared, ?_, ?_⟩
  · intro linkId ref found bound
    cases stage with
    | cleaning point running =>
        rw [running] at returned
        cases returned
    | returned _ removed => exact removed linkId ref ⟨found, bound⟩
  · intro linkId ref found _ _
    rw [linkClients]
    exact lookup_filter_ne_eq_none found

theorem not_scopedCleanup_of_addressShared
    (begins : before.gateway client = .exchanging addr sessionId (.cleanup .routes))
    (first : (system zstd).step before (.gateway client .go) = some collected)
    (shared : AddressShared before client addr) :
    ¬ ScopedCleanup client addr sessionId before collected steps after := by
  rcases shared with ⟨linkId, ref, found, held, foreign⟩
  intro cleaned
  have kept := cleaned.collecting.routes linkId ref addr found held foreign
  rcases collected_of_step begins first with ⟨-, -, -, linkClients, -⟩
  rw [linkClients, lookup_filter_ne_eq_none found] at kept
  cases kept

/-- The cleanup is scoped to its session as long as the routes to the address are the
session's own, and never when another session of the address has a link. -/
theorem cleanup_scoped (reachable : (system zstd).Reachable before)
    (begins : before.gateway client = .exchanging addr sessionId (.cleanup .routes))
    (first : (system zstd).step before (.gateway client .go) = some collected)
    (history : (system zstd).History (Cleans client) collected steps after)
    (returned : after.gateway client = .finished) :
    (OwnRoutes before client addr ∧ (∀ step ∈ steps, Undisturbed client step) →
      ScopedCleanup client addr sessionId before collected steps after) ∧
    (AddressShared before client addr →
      ¬ ScopedCleanup client addr sessionId before collected steps after) :=
  ⟨fun condition => scopedCleanup_of_ownRoutes reachable begins first history returned
      condition.1 condition.2,
    not_scopedCleanup_of_addressShared begins first⟩

/-! ## One client, and one that has reconnected -/

/-- The only client has gone, and its link is still open. -/
def clientGone : Server :=
  ((system Zstd.runLength).run (system Zstd.runLength).start
    (oneOpenLink ++ [.gateway 0 .ended])).getD .new

theorem reachable_clientGone : (system Zstd.runLength).Reachable clientGone := by
  have executed : (system Zstd.runLength).run (system Zstd.runLength).start
      (oneOpenLink ++ [.gateway 0 .ended]) = some clientGone := rfl
  exact TransitionSystem.reaches_of_run executed

theorem ownRoutes_clientGone : OwnRoutes clientGone 0 localClient := by
  have others : ∀ ref, ref ≠ 0 → clientGone.app ref = .absent := by
    intro ref different
    apply (slotsInOrder_of_reachable reachable_clientGone).app
    change 1 ≤ ref
    exact Nat.one_le_iff_ne_zero.mpr different
  refine ⟨?_, ?_⟩
  · intro linkId ref _ held
    by_cases equal : ref = 0
    · subst equal
      rfl
    · rw [others ref equal] at held
      exact held.elim False.elim False.elim
  · intro linkId ref found bound
    by_cases equal : ref = 0
    · subst equal
      cases linksHeld_of_reachable reachable_clientGone linkId 0 found
      rfl
    · rw [BoundTo, others ref equal] at bound
      cases bound

def cleanupOfLink : List ServerAction :=
  [.gateway 0 (.link 1), .gateway 0 .go, .gateway 0 .go, .gateway 0 .go, .gateway 0 .go,
    .gateway 0 .go, .gateway 0 .go]

theorem app_eq_of_isGateway {other : ConnectionRef}
    (transition : Transition zstd server action next)
    (own : action.IsGateway other = true) : next.app = server.app := by
  cases transition with
  | gateway => rfl
  | _ => cases own

/-- The steps of clients register no link. -/
theorem undisturbed_of_isGateway {step : Step} {other : ConnectionRef}
    (stepped : Server.step zstd step.before step.action = some step.after)
    (own : step.action.IsGateway other = true) : Undisturbed client step := by
  intro ref linkId writer addr registering after
  rw [app_eq_of_isGateway (transition_of_step stepped) own] at after
  cases registering.symm.trans after

theorem exists_cleaned {before : Server} {actions : List ServerAction}
    (executed : (((system Zstd.runLength).step before (.gateway 0 .go)).bind fun collected =>
      (system Zstd.runLength).runChecked (fun server _ => (server.gateway 0).cleans) collected
        actions).any (fun after => after.gateway 0 == .finished) = true) :
    ∃ collected steps after,
      (system Zstd.runLength).step before (.gateway 0 .go) = some collected ∧
      (system Zstd.runLength).History (Cleans 0) collected steps after ∧
      after.gateway 0 = .finished ∧
      steps.map TransitionSystem.Occurrence.action = actions := by
  cases first : (system Zstd.runLength).step before (.gateway 0 .go) with
  | none =>
      rw [first] at executed
      cases executed
  | some collected =>
      rw [first] at executed
      rcases TransitionSystem.exists_history_of_runChecked executed with
        ⟨steps, after, history, taken, returned⟩
      exact ⟨collected, steps, after, rfl, history, eq_of_beq returned, taken⟩

theorem cleanup_scoped_clientGone : ∃ collected steps after,
    (system Zstd.runLength).step clientGone (.gateway 0 .go) = some collected ∧
    (system Zstd.runLength).History (Cleans 0) collected steps after ∧
    ScopedCleanup 0 localClient 7 clientGone collected steps after := by
  rcases @exists_cleaned clientGone cleanupOfLink (by decide +kernel) with
    ⟨collected, steps, after, first, history, returned, taken⟩
  refine ⟨collected, steps, after, first, history,
    (cleanup_scoped reachable_clientGone rfl first history returned).1
      ⟨ownRoutes_clientGone, ?_⟩⟩
  intro step member
  apply undisturbed_of_isGateway (history.stepped step member)
  have listed : step.action ∈ cleanupOfLink := by
    rw [← taken]
    exact List.mem_map_of_mem member
  have own : ∀ action ∈ cleanupOfLink, action.IsGateway 0 = true := by decide
  exact own step.action listed

def Replaced (server : Server) (client : ConnectionRef) (addr : SocketAddr) : Prop :=
  ∃ session linkId ref, server.shared.clientSessions.lookup addr = some session ∧
    session.writer ≠ client ∧ server.shared.base.links.lookup linkId = some ref ∧
    server.BoundTo ref session.writer

/-- A client connects twice from one address, an application is given to the second
session, and the task of the first connection comes to its cleanup. -/
def reconnection : List ServerAction :=
  [.acceptGateway localClient, .gateway 0 .go, .gateway 0 .go, .gateway 0 (.verdict true),
    .gateway 0 .go, .gateway 0 (.session 7), .gateway 0 .go,
    .acceptGateway localClient, .gateway 1 .go, .gateway 1 .go, .gateway 1 (.verdict true),
    .gateway 1 .go, .gateway 1 (.session 8), .gateway 1 .go,
    .acceptApp, .app 0 .go, .app 0 (.client localClient), .app 0 .go, .app 0 .go, .app 0 .go,
    .app 0 (.write .ok), .app 0 .go, .gateway 0 .ended]

def clientReplaced : Server :=
  ((system Zstd.runLength).run (system Zstd.runLength).start reconnection).getD .new

theorem reachable_clientReplaced : (system Zstd.runLength).Reachable clientReplaced := by
  have executed : (system Zstd.runLength).run (system Zstd.runLength).start reconnection =
      some clientReplaced := rfl
  exact TransitionSystem.reaches_of_run executed

theorem cleanup_unscoped :
    ¬ ∀ (zstd : Zstd) (client : ConnectionRef) (addr : SocketAddr) (sessionId : Uuid)
      (before collected after : Server) (steps : List Step),
      (system zstd).Reachable before →
      before.gateway client = .exchanging addr sessionId (.cleanup .routes) →
      (system zstd).step before (.gateway client .go) = some collected →
      (system zstd).History (Cleans client) collected steps after →
      after.gateway client = .finished → Replaced before client addr →
      ScopedCleanup client addr sessionId before collected steps after := by
  intro claim
  rcases @exists_cleaned clientReplaced cleanupOfLink.dropLast (by decide +kernel) with
    ⟨collected, steps, after, first, history, returned, -⟩
  have replaced : Replaced clientReplaced 0 localClient :=
    ⟨⟨1, localClient, 8⟩, 1, 0, rfl, by decide, rfl, rfl⟩
  have shared : AddressShared clientReplaced 0 localClient :=
    ⟨1, 0, rfl, rfl, by
      intro bound
      cases bound⟩
  exact not_scopedCleanup_of_addressShared rfl first shared
    (claim _ 0 localClient 7 _ _ after steps reachable_clientReplaced rfl first history returned
      replaced)

end Server

end IoGateway

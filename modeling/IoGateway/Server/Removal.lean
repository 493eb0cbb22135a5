import IoGateway.Server.Abandoned
import IoGateway.Server.Closing

/-! # Why links are removed

Before its own task has sent its `Close`, a link is taken out of the registry because its
client has closed or refused it, or because the exchange loop of its client has ended: the
cleanup of a session removes the links of no other one, as long as no two connections that
are being served have the same address. A link that its client has closed is removed.
-/

namespace IoGateway

def GatewayTask.addr? : GatewayTask → Option SocketAddr
  | .handling addr _ => some addr
  | .exchanging addr _ _ => some addr
  | _ => none

def GatewayTask.HasServed (addr : SocketAddr) : GatewayTask → Prop
  | .exchanging own _ _ => own = addr
  | .finished => True
  | _ => False

def GatewayTask.HasLeft : GatewayTask → Prop
  | .exchanging _ _ (.cleanup _) => True
  | .finished => True
  | _ => False

def GatewayTask.Removing (linkId : UInt16) : GatewayTask → Prop
  | .exchanging _ _ (.removing (.route key)) => key = linkId
  | .exchanging _ _ (.removing (.link key)) => key = linkId
  | _ => False

def AppTask.Removing (linkId : UInt16) : AppTask → Prop
  | .exchanging _ _ (.removing (.route key)) => key = linkId
  | .exchanging _ _ (.removing (.link key)) => key = linkId
  | _ => False

/-- The session that the task has picked for its link, before its route is inserted. -/
def AppTask.choice? : AppTask → Option (ConnectionRef × SocketAddr)
  | .handling (.addLink _ writer addr) => some (writer, addr)
  | .handling (.insertRoute _ writer addr) => some (writer, addr)
  | _ => none

/-- The client has closed the link or has refused to open it. -/
def Retired (linkId : UInt16) (frames : List Frame) : Prop :=
  Has .close linkId frames ∨ Has .openFail linkId frames

theorem Retired.mono {linkId : UInt16} {earlier frames : List Frame}
    (retired : Retired linkId earlier) (grown : earlier <+: frames) : Retired linkId frames :=
  retired.imp (·.mono grown) (·.mono grown)

theorem retired_concat {linkId : UInt16} {frames : List Frame} {frame : Frame} :
    Retired linkId (frames ++ [frame]) ↔
      Retired linkId frames ∨ Frame.Is .close linkId frame ∨ Frame.Is .openFail linkId frame := by
  unfold Retired
  rw [has_concat, has_concat, or_or_or_comm]

namespace GatewayTask

variable {task : GatewayTask} {addr : SocketAddr} {linkId : UInt16}

theorem HasServed.serving_or_left (served : task.HasServed addr) :
    task.addr? = some addr ∨ task.HasLeft := by
  cases task with
  | exchanging => exact .inl (congrArg some served)
  | finished => exact .inr trivial
  | _ => exact served.elim

end GatewayTask

namespace GatewayServer

variable {zstd : Zstd} {server after : GatewayServer} {input : Input} {ref : ConnectionRef}
  {task next : GatewayTask} {addr : SocketAddr} {linkId : UInt16}

theorem GatewayStep.addr_before (stepped : server.GatewayStep zstd ref task input after next)
    (found : next.addr? = some addr) : task.addr? = some addr := by
  cases stepped with
  | handling stepped => cases stepped <;> first | exact found | cases found
  | exchanging stepped => cases stepped <;> first | exact found | cases found

theorem GatewayStep.hasServed (stepped : server.GatewayStep zstd ref task input after next)
    (served : task.HasServed addr) : next.HasServed addr := by
  cases stepped with
  | handling => exact served.elim
  | exchanging stepped => cases stepped <;> first | exact served | trivial

theorem GatewayStep.hasLeft (stepped : server.GatewayStep zstd ref task input after next)
    (left : task.HasLeft) : next.HasLeft := by
  cases stepped with
  | handling => exact left.elim
  | exchanging stepped =>
      cases stepped with
      | cleanup => trivial
      | cleaned => trivial
      | _ => exact left.elim

/-- What a cleanup is to remove are routes to the address of its session. -/
theorem GatewayStep.toRemove (stepped : server.GatewayStep zstd ref task input after next)
    (pending : linkId ∈ next.toRemove) :
    linkId ∈ task.toRemove ∨ ∃ sessionId addr,
      task = .exchanging addr sessionId (.cleanup .routes) ∧
        server.linkClients.lookup linkId = some addr := by
  cases stepped with
  | handling stepped => cases stepped <;> cases pending
  | exchanging stepped =>
      cases stepped with
      | @receive packet data =>
          unfold dispatch at pending
          cases type : packet.packetType <;> simp only [type] at pending
          case regular => cases data <;> cases pending
          all_goals cases pending
      | cleanup cleaning =>
          cases cleaning with
          | routes => exact .inr ⟨_, _, rfl, mem_ownedLinks.mp pending⟩
          | link => exact .inl (Finset.mem_of_mem_erase pending)
          | noLink => exact .inl (Finset.mem_of_mem_erase pending)
          | close => exact .inl pending
          | _ => cases pending
      | _ => cases pending

/-- An exchange loop comes to the removal of a link by a frame of it. -/
theorem GatewayStep.removing_asked (stepped : server.GatewayStep zstd ref task input after next)
    (removing : next.Removing linkId) : task.Removing linkId ∨
      ∃ packet data, input = .frame packet data ∧
        (Frame.Is .close linkId (Frame.of (packet, data)) ∨
          Frame.Is .openFail linkId (Frame.of (packet, data))) := by
  cases stepped with
  | handling stepped => cases stepped <;> exact removing.elim
  | exchanging stepped =>
      cases stepped with
      | @receive packet data =>
          refine .inr ⟨packet, data, rfl, ?_⟩
          unfold dispatch at removing
          cases type : packet.packetType <;> simp only [type] at removing
          case regular => cases data <;> exact removing.elim
          case close => exact .inl ⟨type, removing⟩
          case openFail => exact .inr ⟨type, removing⟩
          all_goals exact removing.elim
      | removing removal =>
          cases removal with
          | route => exact .inl removing
          | found => exact removing.elim
      | _ => exact removing.elim

/-- An exchange loop ends the removal of a link by taking it out of the registry. -/
theorem GatewayStep.removing_kept (stepped : server.GatewayStep zstd ref task input after next)
    (removing : task.Removing linkId) :
    next.Removing linkId ∨ after.base.links.lookup linkId = none := by
  cases stepped with
  | handling => exact removing.elim
  | exchanging stepped =>
      cases stepped with
      | removing removal =>
          cases removal with
          | route => exact .inl removing
          | found =>
              cases removing
              exact .inr (by simp)
      | removed removal =>
          cases removal with
          | absent =>
              cases removing
              exact .inr (by simp)
          | close => exact removing.elim
      | _ => exact removing.elim

section

variable {slot : LinkRef} {task next : AppTask}

/-- A session that a task has picked has been registered. -/
theorem AppStep.choice (stepped : server.AppStep zstd slot task input after next)
    {writer : ConnectionRef} (chosen : next.choice? = some (writer, addr)) :
    task.choice? = some (writer, addr) ∨ ∃ key session,
      server.clientSessions.lookup key = some session ∧ session.writer = writer ∧
        session.addr = addr := by
  cases stepped with
  | handling stepped =>
      cases stepped with
      | pickClient found =>
          cases chosen
          exact .inr ⟨_, _, found, rfl, rfl⟩
      | addLink => exact .inl chosen
      | _ => cases chosen
  | exchanging stepped => cases stepped <;> cases chosen

/-- The task of a link stays bound to one client. -/
theorem AppStep.connection_before (stepped : server.AppStep zstd slot task input after next)
    (past : ¬ task.Unregistered) {client : ConnectionRef}
    (bound : next.connection? = some client) : task.connection? = some client := by
  cases stepped with
  | handling stepped =>
      cases stepped with
      | nextLinkId => cases bound
      | pickClient => exact absurd trivial past
      | noClient => cases bound
      | reject => cases bound
      | _ => exact bound
  | exchanging stepped =>
      cases stepped with
      | removed => cases bound
      | _ => exact bound

theorem AppStep.willClose_before (stepped : server.AppStep zstd slot task input after next)
    {client : ConnectionRef} (will : next.WillClose linkId client) :
    task.WillClose linkId client ∨ after.base.links.lookup linkId = some slot := by
  rcases will with ⟨held, bound, before⟩
  cases stepped with
  | handling stepped =>
      cases stepped with
      | nextLinkId => exact held.elim
      | pickClient => exact held.elim
      | noClient => exact held.elim
      | reject => exact held.elim
      | addLink =>
          cases held
          exact .inr (by simp)
      | _ => exact .inl ⟨held, bound, before⟩
  | exchanging stepped =>
      cases stepped with
      | sendClose => cases before
      | removing => cases before
      | removed => cases before
      | _ => exact .inl ⟨held, bound, before⟩

/-- The task of a link removes its own link. -/
theorem AppStep.removing_own (stepped : server.AppStep zstd slot task input after next)
    (before : task.Removing linkId → task.linkId? = some linkId)
    (removing : next.Removing linkId) : next.linkId? = some linkId := by
  cases stepped with
  | handling stepped => cases stepped <;> exact removing.elim
  | exchanging stepped =>
      cases stepped with
      | sendClose => exact congrArg some removing
      | removing removal =>
          cases removal with
          | route => exact before removing
          | found => exact removing.elim
      | _ => exact removing.elim

end

end GatewayServer

theorem AppTask.WillClose.linkId? {task : AppTask} {linkId : UInt16} {client : ConnectionRef}
    (will : task.WillClose linkId client) : task.linkId? = some linkId := by
  rcases will with ⟨held, bound, before⟩
  cases task with
  | handling point => cases point <;> first | exact held.elim | exact congrArg some held
  | exchanging own writer point =>
      cases point with
      | removing => cases before
      | _ => exact congrArg some held
  | _ => exact held.elim

namespace Server

variable {zstd : Zstd} {server next : Server} {action : ServerAction} {ref : LinkRef}
  {client connection : ConnectionRef} {linkId : UInt16} {addr : SocketAddr}

/-! ## Addresses -/

/-- A connection is accepted from an address that no connection being served has. -/
def FreshAddress (server : Server) : ServerAction → Prop
  | .acceptGateway addr => ∀ ref < server.gatewayCount, (server.gateway ref).addr? ≠ some addr
  | _ => True

instance (server : Server) : (action : ServerAction) → Decidable (server.FreshAddress action)
  | .acceptGateway addr => inferInstanceAs
      (Decidable (∀ ref < server.gatewayCount, (server.gateway ref).addr? ≠ some addr))
  | .acceptApp | .app _ _ | .gateway _ _ | .resetGateway _ | .beginShutdown | .shutdown _ =>
      .isTrue trivial

structure Steady (server : Server) (action : ServerAction) : Prop where
  left : server.LinkIdsLeft action
  fresh : server.FreshAddress action
  running : server.NoShutdown action

instance (server : Server) (action : ServerAction) : Decidable (server.Steady action) :=
  decidable_of_iff
    (server.LinkIdsLeft action ∧ server.FreshAddress action ∧ server.NoShutdown action)
    ⟨fun holds => ⟨holds.1, holds.2.1, holds.2.2⟩,
      fun steady => ⟨steady.left, steady.fresh, steady.running⟩⟩

theorem hasServed_of_step (slots : SlotsInOrder server)
    (stepped : step zstd server action = some next)
    (served : (server.gateway connection).HasServed addr) :
    (next.gateway connection).HasServed addr := by
  have move := gatewayMove_of_step stepped connection
  generalize next.gateway connection = after at move ⊢
  cases move with
  | kept => exact served
  | accepted free =>
      rw [free, slots.gateway _ (Nat.le_refl _)] at served
      exact served.elim
  | moved moved => exact moved.hasServed served

theorem hasLeft_of_step (slots : SlotsInOrder server)
    (stepped : step zstd server action = some next)
    (left : (server.gateway connection).HasLeft) : (next.gateway connection).HasLeft := by
  have move := gatewayMove_of_step stepped connection
  generalize next.gateway connection = after at move ⊢
  cases move with
  | kept => exact left
  | accepted free =>
      rw [free, slots.gateway _ (Nat.le_refl _)] at left
      exact left.elim
  | moved moved => exact moved.hasLeft left

inductive AppMove (zstd : Zstd) (server next : Server) (ref : LinkRef) :
    ServerAction → AppTask → Prop
  | kept {action : ServerAction} : AppMove zstd server next ref action (server.app ref)
  | accepted (free : ref = server.appCount) :
      AppMove zstd server next ref .acceptApp (.handling .nextLinkId)
  | moved {input : Input} {task : AppTask}
      (stepped : server.shared.AppStep zstd ref (server.app ref) input next.shared task) :
      AppMove zstd server next ref (.app ref input) task

theorem appMove_of_step (stepped : step zstd server action = some next) (ref : LinkRef) :
    AppMove zstd server next ref action (next.app ref) := by
  cases transition_of_step stepped with
  | acceptApp =>
      change AppMove zstd server _ ref _ (Function.update server.app _ _ ref)
      by_cases own : ref = server.appCount
      · rw [own, Function.update_self, ← own]
        exact .accepted own
      · rw [Function.update_of_ne own]
        exact .kept
  | @app moving input shared task moved =>
      change AppMove zstd server _ ref _ (Function.update server.app moving task ref)
      by_cases own : ref = moving
      · subst own
        rw [Function.update_self]
        exact .moved moved
      · rw [Function.update_of_ne own]
        exact .kept
  | _ => exact .kept

theorem boundTo_of_step (stepped : step zstd server action = some next)
    (created : server.Created ref) (bound : next.BoundTo ref client) :
    server.BoundTo ref client := by
  unfold BoundTo at bound ⊢
  have move := appMove_of_step stepped ref
  generalize next.app ref = after at move bound
  cases move with
  | kept => exact bound
  | accepted => cases bound
  | moved moved => exact moved.connection_before created bound

/-- The identifier is that of a link, and the task of its client is as described. -/
def Attached (server : Server) (linkId : UInt16) (described : GatewayTask → Prop) : Prop :=
  ∃ ref, server.Created ref ∧ (server.shared.base.link ref).connectionId = linkId ∧
    ∀ client, server.BoundTo ref client → described (server.gateway client)

theorem Attached.step {described after : GatewayTask → Prop}
    (attached : server.Attached linkId described) (slots : SlotsInOrder server)
    (stepped : step zstd server action = some next)
    (stays : ∀ client, described (server.gateway client) → after (next.gateway client)) :
    next.Attached linkId after := by
  rcases attached with ⟨ref, created, same, bound⟩
  exact ⟨ref, created_of_step slots stepped created,
    (connectionId_of_step stepped created).trans same,
    fun client later => stays client (bound client (boundTo_of_step stepped created later))⟩

theorem Attached.of_identified {described : GatewayTask → Prop}
    (attached : server.Attached linkId described) (identified : Identified server)
    (named : (server.app ref).linkId? = some linkId) (bound : server.BoundTo ref client) :
    described (server.gateway client) := by
  rcases attached with ⟨other, _, same, holds⟩
  have own := identified.sole ref other linkId named same
  subst own
  exact holds client bound

/-- The sessions, the routes and what is to be removed belong to clients of the address
that they are stored under. -/
structure Attributed (server : Server) : Prop where
  distinct : ∀ ref other addr, (server.gateway ref).addr? = some addr →
    (server.gateway other).addr? = some addr → ref = other
  chosen : ∀ ref writer addr, (server.app ref).choice? = some (writer, addr) →
    (server.gateway writer).HasServed addr
  routed : ∀ linkId addr, server.shared.linkClients.lookup linkId = some addr →
    server.Attached linkId (GatewayTask.HasServed addr)
  cleaned : ∀ connection linkId, linkId ∈ (server.gateway connection).toRemove →
    server.Attached linkId GatewayTask.HasLeft

theorem attributed_new : Attributed Server.new where
  distinct := fun _ _ _ found => by cases found
  chosen := fun _ _ _ found => by cases found
  routed := fun _ _ found => by cases found
  cleaned := fun _ _ pending => by cases pending

theorem Attributed.distinct_step (attributed : server.Attributed) (slots : SlotsInOrder server)
    (fresh : server.FreshAddress action) (stepped : step zstd server action = some next)
    (ref other : ConnectionRef) (addr : SocketAddr) (found : (next.gateway ref).addr? = some addr)
    (also : (next.gateway other).addr? = some addr) : ref = other := by
  have before : ∀ slot, (next.gateway slot).addr? = some addr →
      (server.gateway slot).addr? = some addr ∨
        action = .acceptGateway addr ∧ slot = server.gatewayCount := by
    intro slot held
    have move := gatewayMove_of_step stepped slot
    generalize next.gateway slot = after at move held
    cases move with
    | kept => exact .inl held
    | accepted free =>
        cases held
        exact .inr ⟨rfl, free⟩
    | moved moved => exact .inl (moved.addr_before held)
  have apart : action = .acceptGateway addr → ∀ slot, (server.gateway slot).addr? ≠ some addr := by
    intro accepting slot held
    subst accepting
    refine fresh slot (slots.gateway_lt fun absent => ?_) held
    rw [absent] at held
    cases held
  rcases before ref found with earlier | ⟨accepting, new⟩
  · rcases before other also with earlierOther | ⟨accepting, _⟩
    · exact attributed.distinct ref other addr earlier earlierOther
    · exact absurd earlier (apart accepting ref)
  · rcases before other also with earlierOther | ⟨_, newOther⟩
    · exact absurd earlierOther (apart accepting other)
    · rw [new, newOther]

theorem Attributed.chosen_step (attributed : server.Attributed) (slots : SlotsInOrder server)
    (sessions : SessionsHeld server) (keyed : server.shared.SessionsKeyed)
    (stepped : step zstd server action = some next) (ref : LinkRef) (writer : ConnectionRef)
    (addr : SocketAddr) (chosen : (next.app ref).choice? = some (writer, addr)) :
    (next.gateway writer).HasServed addr := by
  refine hasServed_of_step slots stepped ?_
  have move := appMove_of_step stepped ref
  generalize next.app ref = after at move chosen
  cases move with
  | kept => exact attributed.chosen ref writer addr chosen
  | accepted => cases chosen
  | moved moved =>
      rcases moved.choice chosen with before | ⟨key, session, found, rfl, rfl⟩
      · exact attributed.chosen ref writer addr before
      · have held := sessions key session found
        rw [keyed key session found]
        generalize server.gateway session.writer = task at held
        cases task with
        | exchanging own sessionId point =>
            cases point with
            | cleanup point =>
                cases point <;> first | exact held.elim | exact congrArg Prod.fst held
            | _ => exact congrArg Prod.fst held
        | _ => exact held.elim

theorem Attributed.routed_step (attributed : server.Attributed) (slots : SlotsInOrder server)
    (identified : Identified server) (stepped : step zstd server action = some next)
    (linkId : UInt16) (addr : SocketAddr)
    (found : next.shared.linkClients.lookup linkId = some addr) :
    next.Attached linkId (GatewayTask.HasServed addr) := by
  have kept : server.shared.linkClients.lookup linkId = some addr →
      next.Attached linkId (GatewayTask.HasServed addr) := fun before =>
    (attributed.routed linkId addr before).step slots stepped
      fun _ served => hasServed_of_step slots stepped served
  cases transition_of_step stepped with
  | @app slot input shared task moved =>
      rcases moved.route_found found with before | ⟨writer, inserting, _⟩
      · exact kept before
      · have created : server.Created slot := by
          rw [Created, inserting]
          exact id
        have own := identified.created slot linkId (by rw [inserting]; rfl) created
        have attached : server.Attached linkId (GatewayTask.HasServed addr) := by
          refine ⟨slot, created, own, fun client bound => ?_⟩
          rw [BoundTo, inserting] at bound
          cases bound
          exact attributed.chosen slot writer addr (by rw [inserting]; rfl)
        exact attached.step slots stepped fun _ served => hasServed_of_step slots stepped served
  | gateway moved => exact kept (moved.routesShrink linkId addr found)
  | shutdown moved =>
      generalize server.shutdown = task at moved
      cases moved <;> exact kept found
  | _ => exact kept found

theorem Attributed.cleaned_step (attributed : server.Attributed) (slots : SlotsInOrder server)
    (stepped : step zstd server action = some next) (connection : ConnectionRef) (linkId : UInt16)
    (pending : linkId ∈ (next.gateway connection).toRemove) :
    next.Attached linkId GatewayTask.HasLeft := by
  have kept : linkId ∈ (server.gateway connection).toRemove →
      next.Attached linkId GatewayTask.HasLeft := fun before =>
    (attributed.cleaned connection linkId before).step slots stepped
      fun _ left => hasLeft_of_step slots stepped left
  have move := gatewayMove_of_step stepped connection
  generalize next.gateway connection = after at move pending
  cases move with
  | kept => exact kept pending
  | accepted => cases pending
  | moved moved =>
      rcases moved.toRemove pending with before | ⟨sessionId, addr, run, found⟩
      · exact kept before
      · refine (attributed.routed linkId addr found).step slots stepped fun client served => ?_
        refine hasLeft_of_step slots stepped ?_
        -- The only connection of this address that is being served is the one that leaves.
        rcases served.serving_or_left with serving | left
        · have own := attributed.distinct client connection addr serving (by rw [run]; rfl)
          rw [own, run]
          trivial
        · exact left

theorem attributed_of_reachable (reachable : (system zstd).ReachableUnder Steady server) :
    server.Attributed := by
  refine reachable.invariant attributed_new
    fun _ _ _ earlier attributed steady stepped => ?_
  have always := earlier.always
  have slots := slotsInOrder_of_reachable always
  have identified := identified_of_reachable (earlier.mono fun _ _ steady => steady.left)
  exact {
    distinct := attributed.distinct_step slots steady.fresh stepped
    chosen := attributed.chosen_step slots (sessionsHeld_of_reachable always)
      (sessionsKeyed_of_reachable always) stepped
    routed := attributed.routed_step slots identified stepped
    cleaned := attributed.cleaned_step slots stepped }

/-! ## Reasons -/

theorem shutdown_absent_of_reachable
    (reachable : (system zstd).ReachableUnder NoShutdown server) : server.shutdown = .absent := by
  induction reachable with
  | refl => rfl
  | step _ permitted stepped absent =>
      cases transition_of_step stepped with
      | beginShutdown => exact permitted.elim
      | shutdown => exact permitted.elim
      | _ => exact absent

/-- A link leaves the registry before its own `Close` only because its client has retired it
or has left. -/
structure Explained (server : Server) : Prop where
  asked : ∀ connection linkId, (server.gateway connection).Removing linkId →
    Retired linkId (server.shared.heard connection)
  own : ∀ ref linkId, (server.app ref).Removing linkId → (server.app ref).linkId? = some linkId
  registered : ∀ ref linkId client, (server.app ref).WillClose linkId client →
    server.shared.base.links.lookup linkId = some ref ∨
      (∃ connection, Retired linkId (server.shared.heard connection)) ∨
      (server.gateway client).HasLeft

theorem explained_new : Explained Server.new where
  asked := fun _ _ removing => removing.elim
  own := fun _ _ removing => removing.elim
  registered := fun _ _ _ will => will.1.elim

/-- What brings an exchange loop to a removal has been read by then. -/
theorem Explained.asked_step (explained : server.Explained)
    (stepped : step zstd server action = some next) (connection : ConnectionRef) (linkId : UInt16)
    (removing : (next.gateway connection).Removing linkId) :
    Retired linkId (next.shared.heard connection) := by
  have grown := (heard_prefix_of_step stepped connection).1
  have move := gatewayMove_of_step stepped connection
  generalize next.gateway connection = after at move removing
  cases move with
  | kept => exact (explained.asked connection linkId removing).mono grown
  | accepted => exact removing.elim
  | moved moved =>
      rcases moved.removing_asked removing with before | ⟨packet, data, rfl, is⟩
      · exact (explained.asked connection linkId before).mono grown
      · have heard : next.shared.heard connection =
            server.shared.heard connection ++ [Frame.of (packet, data)] := by
          simp [GatewayServer.heard, received_of_frame stepped]
        rw [heard, retired_concat]
        exact .inr is

theorem Explained.own_step (explained : server.Explained)
    (stepped : step zstd server action = some next) (ref : LinkRef) (linkId : UInt16)
    (removing : (next.app ref).Removing linkId) : (next.app ref).linkId? = some linkId := by
  have move := appMove_of_step stepped ref
  generalize next.app ref = after at move removing ⊢
  cases move with
  | kept => exact explained.own ref linkId removing
  | accepted => exact removing.elim
  | moved moved => exact moved.removing_own (explained.own ref linkId) removing

/-- When a link whose `Close` is yet to come is taken out of the registry, there is a
reason. -/
theorem Explained.of_removes (explained : server.Explained) (attributed : server.Attributed)
    (identified : Identified server) (numbered : Numbered server)
    (running : server.shutdown = .absent) (stepped : step zstd server action = some next)
    (removes : server.Removes action linkId) (will : (server.app ref).WillClose linkId client) :
    (∃ connection, Retired linkId (server.shared.heard connection)) ∨
      (server.gateway client).HasLeft := by
  cases removes with
  | @app slot _ _ own writer task =>
      have named := explained.own slot linkId (by rw [task]; rfl)
      have same := numbered.distinct slot ref linkId named will.linkId?
      subst same
      rw [task] at will
      cases will.2.2
  | @gateway slot _ _ addr sessionId task =>
      exact .inl ⟨slot, explained.asked slot linkId (by rw [task]; rfl)⟩
  | @cleanup slot _ addr sessionId remaining task =>
      have pending : linkId ∈ (server.gateway slot).toRemove := by
        rw [task]
        cases transition_of_step stepped with
        | gateway moved =>
            rw [task] at moved
            cases moved with
            | exchanging moved =>
                cases moved with
                | cleanup cleaning => cases cleaning <;> assumption
                | cleaned cleaning => cases cleaning
      exact .inr ((attributed.cleaned slot linkId pending).of_identified identified will.linkId?
        will.2.1)
  | shutdown task => cases running.symm.trans task

theorem willClose_before (stepped : step zstd server action = some next)
    (will : (next.app ref).WillClose linkId client) :
    (server.app ref).WillClose linkId client ∨
      next.shared.base.links.lookup linkId = some ref := by
  have move := appMove_of_step stepped ref
  generalize next.app ref = after at move will
  cases move with
  | kept => exact .inl will
  | accepted => exact will.1.elim
  | moved moved => exact moved.willClose_before will

theorem Explained.registered_step (explained : server.Explained) (attributed : server.Attributed)
    (identified : Identified server) (numbered : Numbered server) (slots : SlotsInOrder server)
    (running : server.shutdown = .absent) (stepped : step zstd server action = some next)
    (ref : LinkRef) (linkId : UInt16) (client : ConnectionRef)
    (will : (next.app ref).WillClose linkId client) :
    next.shared.base.links.lookup linkId = some ref ∨
      (∃ connection, Retired linkId (next.shared.heard connection)) ∨
      (next.gateway client).HasLeft := by
  have later : (∃ connection, Retired linkId (server.shared.heard connection)) ∨
      (server.gateway client).HasLeft →
      (∃ connection, Retired linkId (next.shared.heard connection)) ∨
        (next.gateway client).HasLeft := by
    intro reason
    rcases reason with ⟨connection, retired⟩ | left
    · exact .inl ⟨connection, retired.mono (heard_prefix_of_step stepped connection).1⟩
    · exact .inr (hasLeft_of_step slots stepped left)
  rcases willClose_before stepped will with before | found
  · rcases explained.registered ref linkId client before with found | reason
    · cases present : next.shared.base.links.lookup linkId with
      | none =>
          refine .inr (later (explained.of_removes attributed identified numbered running
            stepped ?_ before))
          refine removes_of_step stepped (by simp [GatewayServer.HasLink, found]) ?_
          simp [GatewayServer.HasLink, present]
      | some other =>
          rcases registered_of_step stepped present with earlier | ⟨writer, addr, adding, _⟩
          · cases found.symm.trans earlier
            exact .inl rfl
          · have same := numbered.distinct other ref linkId (by rw [adding]; rfl) before.linkId?
            subst same
            rw [adding] at before
            exact before.1.elim
    · exact .inr (later reason)
  · exact .inl found

theorem explained_of_reachable (reachable : (system zstd).ReachableUnder Steady server) :
    server.Explained := by
  refine reachable.invariant explained_new fun _ _ _ earlier explained _ stepped => ?_
  have left := earlier.mono fun _ _ steady => Steady.left steady
  exact {
    asked := explained.asked_step stepped
    own := explained.own_step stepped
    registered := explained.registered_step (attributed_of_reachable earlier)
      (identified_of_reachable left) (numbered_of_reachable left)
      (slotsInOrder_of_reachable earlier.always)
      (shutdown_absent_of_reachable (earlier.mono fun _ _ steady => Steady.running steady))
      stepped }

/-! ## Links that a client has retired -/

/-- A link that its client has retired is not registered, or the exchange loop that has read
so is about to remove it. -/
def RetiredTaken (server : Server) : Prop :=
  ∀ connection linkId, linkId ≠ 0 → Retired linkId (server.shared.heard connection) →
    server.shared.base.links.lookup linkId = none ∨
      (server.gateway connection).Removing linkId

theorem retiredTaken_new : RetiredTaken Server.new := fun _ _ _ _ => .inl rfl

theorem removing_of_heard (stepped : step zstd server action = some next)
    (retired : Retired linkId (next.shared.heard connection)) :
    Retired linkId (server.shared.heard connection) ∨
      (next.gateway connection).Removing linkId := by
  cases receivedStep_of_step stepped with
  | kept same =>
      rw [GatewayServer.heard_congr same] at retired
      exact .inl retired
  | @received reading addr sessionId packet data _ run sockets =>
      by_cases own : connection = reading
      · subst own
        have grown : next.shared.heard connection =
            server.shared.heard connection ++ [Frame.of (packet, data)] := by
          simp [GatewayServer.heard, sockets, GatewaySockets.receive]
        rw [grown, retired_concat] at retired
        refine retired.imp_right fun is => ?_
        cases transition_of_step stepped with
        | gateway moved =>
            rw [run] at moved
            cases moved with
            | exchanging moved =>
                cases moved with
                | receive =>
                    change (Function.update server.gateway connection _ connection).Removing linkId
                    rw [Function.update_self]
                    rcases is with ⟨type, own⟩ | ⟨type, own⟩
                    · have closes : packet.packetType = .close := type
                      simp only [GatewayServer.dispatch, closes]
                      exact own
                    · have refuses : packet.packetType = .openFail := type
                      simp only [GatewayServer.dispatch, refuses]
                      exact own
      · have same := (heard_prefix_of_step stepped connection).2 reading _ rfl (Ne.symm own)
        rw [same] at retired
        exact .inl retired

theorem RetiredTaken.step (taken : server.RetiredTaken) (slots : SlotsInOrder server)
    (identified : Identified server)
    (announced : ∀ connection linkId, linkId ≠ 0 →
      Retired linkId (server.shared.heard connection) →
        ∃ link, server.Created link ∧ (server.shared.base.link link).connectionId = linkId)
    (stepped : step zstd server action = some next) : next.RetiredTaken := by
  intro connection linkId positive retired
  rcases removing_of_heard stepped retired with before | removing
  · rcases taken connection linkId positive before with absent | removing
    · cases found : next.shared.base.links.lookup linkId with
      | none => exact .inl rfl
      | some ref =>
          rcases registered_of_step stepped found with earlier | ⟨writer, addr, adding, _⟩
          · cases absent.symm.trans earlier
          · rcases announced connection linkId positive before with ⟨link, created, same⟩
            have own := identified.sole ref link linkId (by rw [adding]; rfl) same
            subst own
            exact absurd (by rw [adding]; trivial) created
    · have move := gatewayMove_of_step stepped connection
      generalize next.gateway connection = after at move ⊢
      cases move with
      | kept => exact .inr removing
      | accepted free =>
          rw [free, slots.gateway _ (Nat.le_refl _)] at removing
          exact removing.elim
      | moved moved => exact (moved.removing_kept removing).symm
  · exact .inr removing

end Server

end IoGateway

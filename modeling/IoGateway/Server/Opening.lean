import IoGateway.Server.Slots

/-! # Opening a link as a whole

`handle_app_connection` registers a link before it sends `Open`. A run of the handler,
with the steps of all other tasks in between, is judged by what the handler's own steps
did to the tables and by what is left of it at the end.
-/

namespace IoGateway

def ServerAction.IsApp (ref : LinkRef) : ServerAction → Bool
  | .app other _ => other == ref
  | _ => false

def AppTask.forwards : AppTask → Bool
  | .exchanging _ _ _ => true
  | _ => false

def AppTask.handles : AppTask → Bool
  | .handling _ => true
  | _ => false

namespace Server

abbrev Step : Type := TransitionSystem.Occurrence Server ServerAction

def Handles (ref : LinkRef) (server : Server) (_ : ServerAction) : Prop :=
  (server.app ref).handles = true

structure SameTables (before after : Server) : Prop where
  links : after.shared.base.links = before.shared.base.links
  linkClients : after.shared.linkClients = before.shared.linkClients
  loops : ∀ ref, (after.app ref).forwards = (before.app ref).forwards

/-! ## What the steps of the handler did -/

def ownSteps (ref : LinkRef) (steps : List Step) : List Step :=
  steps.filter fun step => step.action.IsApp ref

/-- It found this session registered when it picked one. -/
def PickedSession (own : List Step) (writer : ConnectionRef) (addr : SocketAddr) : Prop :=
  ∃ step ∈ own, ∃ key session, step.before.shared.clientSessions.lookup key = some session ∧
    session.writer = writer ∧ session.addr = addr

def NoClient (ref : LinkRef) (own : List Step) : Prop :=
  ∃ step ∈ own, (∃ linkId, step.before.app ref = .handling (.pickClient linkId)) ∧
    step.before.shared.clientSessions = ∅

def SentOpen (own : List Step) (linkId : UInt16) (writer : ConnectionRef) : Prop :=
  ∃ step ∈ own, ∃ packetId, (step.after.shared.sockets.writer writer).frames =
    (step.before.shared.sockets.writer writer).frames ++
      [(PacketGW.new .open_ packetId linkId 0, none)]

def SendFailed (ref : LinkRef) (steps : List Step) : Prop :=
  ∃ step ∈ steps, ∃ accepted, step.action = .app ref (.write (.failed accepted))

def Untouched (own : List Step) : Prop := ∀ step ∈ own, SameTables step.before step.after

/-- It holds, or the step of another task has ended it. -/
abbrev Remains (ref : LinkRef) : (Server → Prop) → List Step → Server → Prop :=
  TransitionSystem.Stands fun action => action.IsApp ref = true

/-- The link is registered and routed to the session that was picked. -/
structure RegisteredLink (ref : LinkRef) (steps : List Step) (server : Server) (linkId : UInt16)
    (writer : ConnectionRef) (addr : SocketAddr) : Prop where
  picked : PickedSession (ownSteps ref steps) writer addr
  linked : Remains ref (fun server => server.shared.base.links.lookup linkId = some ref) steps
    server
  routed : Remains ref (fun server => server.shared.linkClients.lookup linkId = some addr) steps
    server

/-! ## All or nothing -/

/-- The client has been told of the link, which is registered and routed to it unless
another task has removed it meanwhile, and its forwarding loop begins. -/
structure OpenedWhole (ref : LinkRef) (steps : List Step) (after : Server) (linkId : UInt16)
    (writer : ConnectionRef) (addr : SocketAddr) : Prop where
  registered : RegisteredLink ref steps after linkId writer addr
  announced : SentOpen (ownSteps ref steps) linkId writer
  forwarding : after.app ref = .exchanging linkId writer .read

/-- The application is disconnected, and the handler has left the tables alone. -/
structure Undone (ref : LinkRef) (steps : List Step) (after : Server) : Prop where
  cause : NoClient ref (ownSteps ref steps) ∨ SendFailed ref steps
  shut : (after.shared.base.link ref).writer.shut = true
  tables : Untouched (ownSteps ref steps)

/-! ## The progress of the handler -/

structure Unsent (ref : LinkRef) (own : List Step) : Prop where
  failed : ¬ SendFailed ref own
  announced : ∀ linkId writer, ¬ SentOpen own linkId writer

def SendTried (ref : LinkRef) (own : List Step) (linkId : UInt16) (writer : ConnectionRef) :
    Prop :=
  (¬ SendFailed ref own ∧ SentOpen own linkId writer) ∨
    (SendFailed ref own ∧ ∀ linkId writer, ¬ SentOpen own linkId writer)

/-- What the handler has done in its own steps when it comes to a point. -/
def HandlerProgress (ref : LinkRef) (steps : List Step) (server : Server) (own : List Step) :
    HandleAppConnection → Prop
  | .nextLinkId | .pickClient _ => Untouched own ∧ Unsent ref own
  | .reject _ => Untouched own ∧ Unsent ref own ∧ NoClient ref own
  | .addLink _ writer addr => Unsent ref own ∧ PickedSession own writer addr
  | .insertRoute linkId writer addr =>
      Unsent ref own ∧ PickedSession own writer addr ∧
        Remains ref (fun server => server.shared.base.links.lookup linkId = some ref) steps server
  | .openId linkId writer | .sendOpen linkId writer _ =>
      Unsent ref own ∧ ∃ addr, RegisteredLink ref steps server linkId writer addr
  | .setWaiting linkId writer =>
      SendTried ref own linkId writer ∧
        ∃ addr, RegisteredLink ref steps server linkId writer addr

def Progress (ref : LinkRef) (steps : List Step) (server : Server) : AppTask → Prop
  | .handling point => HandlerProgress ref steps server (ownSteps ref steps) point
  | .exchanging linkId writer .read =>
      SendTried ref (ownSteps ref steps) linkId writer ∧ ¬ Untouched (ownSteps ref steps) ∧
        ∃ addr, RegisteredLink ref steps server linkId writer addr
  | .finished =>
      Untouched (ownSteps ref steps) ∧ Unsent ref (ownSteps ref steps) ∧
        NoClient ref (ownSteps ref steps) ∧ (server.shared.base.link ref).writer.shut = true
  | _ => False

variable {zstd : Zstd} {ref : LinkRef} {server next : Server} {steps : List Step} {input : Input}
  {own : List Step} {step : Step} {linkId : UInt16} {writer : ConnectionRef} {addr : SocketAddr}
  {action : ServerAction}

theorem Untouched.concat (untouched : Untouched own)
    (same : SameTables step.before step.after) : Untouched (own ++ [step]) :=
  List.forall_mem_append.mpr ⟨untouched, List.forall_mem_singleton.mpr same⟩

theorem PickedSession.concat (picked : PickedSession own writer addr) :
    PickedSession (own ++ [step]) writer addr := by
  rcases picked with ⟨earlier, member, found⟩
  exact ⟨earlier, List.mem_append_left _ member, found⟩

theorem NoClient.concat (none : NoClient ref own) : NoClient ref (own ++ [step]) := by
  rcases none with ⟨earlier, member, found⟩
  exact ⟨earlier, List.mem_append_left _ member, found⟩

theorem not_announced_concat (unsent : ¬ SentOpen own linkId writer)
    (same : (step.after.shared.sockets.writer writer).frames =
      (step.before.shared.sockets.writer writer).frames) :
    ¬ SentOpen (own ++ [step]) linkId writer := by
  rintro ⟨other, member, packetId, frames⟩
  rcases List.mem_append.mp member with earlier | last
  · exact unsent ⟨other, earlier, packetId, frames⟩
  · cases List.mem_singleton.mp last
    rw [same] at frames
    simp at frames

theorem not_sendFailed_concat (unfailed : ¬ SendFailed ref own)
    (other : ∀ accepted, step.action ≠ .app ref (.write (.failed accepted))) :
    ¬ SendFailed ref (own ++ [step]) := by
  rintro ⟨found, member, accepted, equal⟩
  rcases List.mem_append.mp member with earlier | last
  · exact unfailed ⟨found, earlier, accepted, equal⟩
  · cases List.mem_singleton.mp last
    exact other accepted equal

theorem Unsent.concat (unsent : Unsent ref own)
    (sockets : step.after.shared.sockets = step.before.shared.sockets)
    (other : ∀ accepted, step.action ≠ .app ref (.write (.failed accepted))) :
    Unsent ref (own ++ [step]) where
  failed := not_sendFailed_concat unsent.failed other
  announced := fun linkId writer =>
    not_announced_concat (unsent.announced linkId writer) (by rw [sockets])

theorem SendTried.concat (tried : SendTried ref own linkId writer)
    (sockets : step.after.shared.sockets = step.before.shared.sockets)
    (other : ∀ accepted, step.action ≠ .app ref (.write (.failed accepted))) :
    SendTried ref (own ++ [step]) linkId writer := by
  rcases tried with ⟨unfailed, earlier, member, sent⟩ | ⟨⟨earlier, member, failed⟩, unsent⟩
  · exact .inl ⟨not_sendFailed_concat unfailed other,
      earlier, List.mem_append_left _ member, sent⟩
  · refine .inr ⟨⟨earlier, List.mem_append_left _ member, failed⟩, ?_⟩
    intro linkId writer
    exact not_announced_concat (unsent linkId writer) (by rw [sockets])

theorem RegisteredLink.concat (registered : RegisteredLink ref steps server linkId writer addr)
    (linked : action.IsApp ref = true →
      next.shared.base.links = server.shared.base.links)
    (routed : action.IsApp ref = true →
      next.shared.linkClients = server.shared.linkClients) :
    RegisteredLink ref (steps ++ [⟨server, action, next⟩]) next linkId writer addr where
  picked := by
    rw [ownSteps, List.filter_append]
    rcases registered.picked with ⟨earlier, member, found⟩
    exact ⟨earlier, List.mem_append_left _ member, found⟩
  linked := registered.linked.concat fun own found => by
    rw [linked own]
    exact found
  routed := registered.routed.concat fun own found => by
    rw [routed own]
    exact found

theorem ownSteps_concat_own {server next : Server} :
    ownSteps ref (steps ++ [⟨server, .app ref input, next⟩]) =
      ownSteps ref steps ++ [⟨server, .app ref input, next⟩] := by
  simp [ownSteps, ServerAction.IsApp]

theorem ownSteps_concat_other (other : action.IsApp ref = false) :
    ownSteps ref (steps ++ [⟨server, action, next⟩]) = ownSteps ref steps := by
  simp [ownSteps, other]

def moved (server : Server) (ref : LinkRef) (shared : GatewayServer) (task : AppTask) : Server :=
  { server with shared := shared, app := Function.update server.app ref task }

variable {shared : GatewayServer} {task : AppTask}

@[simp] theorem moved_shared : (server.moved ref shared task).shared = shared := rfl

@[simp] theorem moved_app : (server.moved ref shared task).app ref = task :=
  Function.update_self ..

theorem sameTables_moved (links : shared.base.links = server.shared.base.links)
    (linkClients : shared.linkClients = server.shared.linkClients)
    (loops : task.forwards = (server.app ref).forwards) :
    SameTables server (server.moved ref shared task) where
  links := links
  linkClients := linkClients
  loops := by
    intro other
    by_cases equal : other = ref
    · subst equal
      simpa [moved] using loops
    · simp [moved, Function.update_of_ne equal]

theorem not_sameTables_moved (starts : task.forwards = true)
    (handling : (server.app ref).forwards = false) :
    ¬ SameTables server (server.moved ref shared task) := by
  intro same
  have loop := same.loops ref
  rw [handling] at loop
  simp [moved, starts] at loop

theorem sendTried_of_sent {packetId : UInt64} {outcome : WriteOutcome}
    (unsent : Unsent ref own)
    (sent : server.shared.Sent zstd writer (PacketGW.new .open_ packetId linkId 0, none) outcome
      shared) :
    SendTried ref (own ++ [⟨server, .app ref (.write outcome), server.moved ref shared task⟩])
      linkId writer := by
  rcases sent with ⟨sockets, sending, rfl⟩
  rcases Option.map_eq_some_iff.mp sending with ⟨half, wrote, rfl⟩
  rcases Option.map_eq_some_iff.mp wrote with ⟨written, -, rfl⟩
  cases outcome with
  | ok =>
      refine .inl ⟨not_sendFailed_concat unsent.failed (by simp),
        ⟨_, List.mem_concat_self, packetId, ?_⟩⟩
      simp [GatewaySockets.updateWriter]
  | failed accepted =>
      refine .inr ⟨⟨_, List.mem_concat_self, accepted, rfl⟩, ?_⟩
      intro otherId other
      apply not_announced_concat (unsent.announced otherId other)
      by_cases equal : other = writer
      · subst equal
        simp [GatewaySockets.updateWriter]
      · simp [GatewaySockets.updateWriter, Function.update_of_ne equal]

theorem progress_handling {point : HandleAppConnection} :
    Progress ref steps server (.handling point) ↔
      HandlerProgress ref steps server (ownSteps ref steps) point := Iff.rfl

theorem Progress.ownStep {point : HandleAppConnection}
    (progress : Progress ref steps server (.handling point))
    (handling : server.app ref = .handling point)
    (stepped : server.shared.HandleAppStep zstd ref point input shared task) :
    Progress ref (steps ++ [⟨server, .app ref input, server.moved ref shared task⟩])
      (server.moved ref shared task) task := by
  have loops : (server.app ref).forwards = false := by rw [handling]; rfl
  cases stepped with
  | nextLinkId =>
      rcases progress with ⟨untouched, unsent⟩
      rw [progress_handling, ownSteps_concat_own]
      exact ⟨untouched.concat (sameTables_moved rfl rfl loops.symm), unsent.concat rfl (by simp)⟩
  | @pickClient _ key session found =>
      rcases progress with ⟨-, unsent⟩
      rw [progress_handling, ownSteps_concat_own]
      exact ⟨unsent.concat rfl (by simp),
        ⟨_, List.mem_concat_self, key, session, found, rfl, rfl⟩⟩
  | noClient none =>
      rcases progress with ⟨untouched, unsent⟩
      rw [progress_handling, ownSteps_concat_own]
      exact ⟨untouched.concat (sameTables_moved rfl rfl loops.symm), unsent.concat rfl (by simp),
        ⟨_, List.mem_concat_self, ⟨_, handling⟩, none⟩⟩
  | reject =>
      rcases progress with ⟨untouched, unsent, none⟩
      change Untouched _ ∧ Unsent ref _ ∧ NoClient ref _ ∧ _
      rw [ownSteps_concat_own]
      exact ⟨untouched.concat (sameTables_moved rfl rfl loops.symm), unsent.concat rfl (by simp),
        none.concat, by simp [Gateway.updateLink, WriteHalf.shutdown]⟩
  | addLink =>
      rcases progress with ⟨unsent, picked⟩
      rw [progress_handling, ownSteps_concat_own]
      exact ⟨unsent.concat rfl (by simp), picked.concat, .inl (by simp)⟩
  | @insertRoute _ _ addr =>
      rcases progress with ⟨unsent, picked, linked⟩
      rw [progress_handling, ownSteps_concat_own]
      refine ⟨unsent.concat rfl (by simp), addr, ?_, linked.concat ?_, .inl (by simp)⟩
      · rw [ownSteps_concat_own]
        exact picked.concat
      · intro _ found
        exact found
  | openId =>
      rcases progress with ⟨unsent, addr, registered⟩
      rw [progress_handling, ownSteps_concat_own]
      exact ⟨unsent.concat rfl (by simp), addr,
        registered.concat (fun _ => rfl) (fun _ => rfl)⟩
  | sendOpen sent =>
      rcases progress with ⟨unsent, addr, registered⟩
      rw [progress_handling, ownSteps_concat_own]
      exact ⟨sendTried_of_sent unsent sent, addr,
        registered.concat (fun _ => congrArg Gateway.links sent.base) (fun _ => sent.linkClients)⟩
  | setWaiting =>
      rcases progress with ⟨tried, addr, registered⟩
      change SendTried ref _ _ _ ∧ ¬ Untouched _ ∧ _
      rw [ownSteps_concat_own]
      refine ⟨?_, ?_, addr, registered.concat (fun _ => rfl) (fun _ => rfl)⟩
      · exact tried.concat rfl (by simp)
      · intro untouched
        exact not_sameTables_moved rfl loops (untouched _ List.mem_concat_self)

theorem Progress.otherStep {point : HandleAppConnection}
    (progress : Progress ref steps server (.handling point)) (other : action.IsApp ref = false) :
    Progress ref (steps ++ [⟨server, action, next⟩]) next (.handling point) := by
  have registered : ∀ {linkId writer addr}, RegisteredLink ref steps server linkId writer addr →
      RegisteredLink ref (steps ++ [⟨server, action, next⟩]) next linkId writer addr := by
    intro linkId writer addr registered
    apply registered.concat <;> intro own <;> rw [other] at own <;> cases own
  rw [progress_handling, ownSteps_concat_other other]
  cases point with
  | insertRoute linkId writer addr =>
      rcases progress with ⟨unsent, picked, linked⟩
      refine ⟨unsent, picked, linked.concat ?_⟩
      intro own
      rw [other] at own
      cases own
  | openId linkId writer | sendOpen linkId writer packetId | setWaiting linkId writer =>
      exact ⟨progress.1, progress.2.imp fun _ => registered⟩
  | _ => exact progress

theorem app_eq_of_other (slots : SlotsInOrder server) (present : server.app ref ≠ .absent)
    (transition : Transition zstd server action next) (other : action.IsApp ref = false) :
    next.app ref = server.app ref := by
  cases transition with
  | acceptApp => exact Function.update_of_ne (Nat.ne_of_lt (slots.app_lt present)) ..
  | app stepped =>
      apply Function.update_of_ne
      intro equal
      simp [ServerAction.IsApp, equal] at other
  | _ => rfl

theorem AppTask.exists_of_handles {task : AppTask} (handles : task.handles = true) :
    ∃ point, task = .handling point := by
  cases task with
  | handling point => exact ⟨point, rfl⟩
  | _ => cases handles

theorem progress_of_history {before : Server} (reachable : (system zstd).Reachable before)
    (accepted : before.app ref = .handling .nextLinkId)
    (history : (system zstd).History (Handles ref) before steps server) :
    Progress ref steps server (server.app ref) := by
  induction history with
  | start =>
      rw [accepted]
      refine ⟨?_, ?_, ?_⟩
      · intro step member
        cases member
      · rintro ⟨step, member, -⟩
        cases member
      · rintro linkId writer ⟨step, member, -⟩
        cases member
  | @step steps server next action earlier handles stepped progress =>
      rcases AppTask.exists_of_handles handles with ⟨point, handling⟩
      rw [handling] at progress
      have transition := transition_of_step stepped
      cases other : action.IsApp ref with
      | false =>
          have slots := slotsInOrder_of_reachable (reachable.trans earlier.reaches.always)
          rw [app_eq_of_other slots (by simp [handling]) transition other, handling]
          exact progress.otherStep other
      | true =>
          cases transition with
          | @app slot input shared task moved =>
              cases eq_of_beq other
              rw [handling] at moved
              cases moved with
              | handling moved =>
                  change Progress ref _ _ ((server.moved ref shared task).app ref)
                  rw [moved_app]
                  exact progress.ownStep handling moved
          | _ => cases other

theorem not_sendFailed_ownSteps_iff : ¬ SendFailed ref (ownSteps ref steps) ↔
    ∀ step ∈ steps, ∀ accepted, step.action ≠ .app ref (.write (.failed accepted)) := by
  constructor
  · intro unfailed step member accepted equal
    refine unfailed ⟨step, List.mem_filter.mpr ⟨member, ?_⟩, accepted, equal⟩
    simp [equal, ServerAction.IsApp]
  · rintro unfailed ⟨step, member, accepted, equal⟩
    exact unfailed step (List.mem_filter.mp member).1 accepted equal

theorem Progress.all_or_nothing_iff {after : Server}
    (progress : Progress ref steps after (after.app ref))
    (returned : (after.app ref).handles = false) :
    (∃ linkId writer addr, OpenedWhole ref steps after linkId writer addr) ∨
        Undone ref steps after ↔
      ¬ SendFailed ref (ownSteps ref steps) := by
  cases task : after.app ref with
  | absent =>
      rw [task] at progress
      exact progress.elim
  | handling point =>
      rw [task] at returned
      cases returned
  | exchanging linkId writer point =>
      rw [task] at progress
      cases point with
      | read =>
          rcases progress with ⟨tried, touched, addr, registered⟩
          rcases tried with ⟨unfailed, announced⟩ | ⟨failed, unannounced⟩
          · exact iff_of_true (.inl ⟨linkId, writer, addr, registered, announced, task⟩) unfailed
          · refine iff_of_false ?_ (not_not_intro failed)
            rintro (⟨linkId, writer, addr, opened⟩ | undone)
            · exact unannounced linkId writer opened.announced
            · exact touched undone.tables
      | _ => exact progress.elim
  | finished =>
      rw [task] at progress
      rcases progress with ⟨untouched, unsent, none, shut⟩
      exact iff_of_true (.inr ⟨.inl none, shut, untouched⟩) unsent.failed

/-- A link is opened as a whole or not at all exactly if sending `Open` does not fail. -/
theorem open_all_or_nothing_iff {before after : Server}
    (reachable : (system zstd).Reachable before)
    (accepted : before.app ref = .handling .nextLinkId)
    (history : (system zstd).History (Handles ref) before steps after)
    (returned : (after.app ref).handles = false) :
    (∃ linkId writer addr, OpenedWhole ref steps after linkId writer addr) ∨
        Undone ref steps after ↔
      ∀ step ∈ steps, ∀ accepted, step.action ≠ .app ref (.write (.failed accepted)) := by
  rw [← not_sendFailed_ownSteps_iff]
  exact (progress_of_history reachable accepted history).all_or_nothing_iff returned

def acceptedApp : Server :=
  ((system Zstd.runLength).run (system Zstd.runLength).start (oneOpenLink.take 8)).getD .new

theorem reachable_acceptedApp : (system Zstd.runLength).Reachable acceptedApp := by
  have executed : (system Zstd.runLength).run (system Zstd.runLength).start
      (oneOpenLink.take 8) = some acceptedApp := rfl
  exact TransitionSystem.reaches_of_run executed

/-- `Open` is sent, and another connection is accepted meanwhile. -/
def openSent : List ServerAction :=
  [.app 0 .go, .app 0 (.client localClient), .acceptApp, .app 0 .go, .app 0 .go, .app 0 .go,
    .app 0 (.write .ok), .app 0 .go]

/-- The connection to the client breaks before anything of `Open` is written. -/
def openUnsent : List ServerAction :=
  [.app 0 .go, .app 0 (.client localClient), .app 0 .go, .app 0 .go, .app 0 .go,
    .app 0 (.write (.failed 0)), .app 0 .go]

theorem exists_returned {actions : List ServerAction}
    (executed : (((system Zstd.runLength).runChecked (fun server _ => (server.app 0).handles)
      acceptedApp actions).any fun after => !(after.app 0).handles) = true) :
    ∃ steps after, (system Zstd.runLength).History (Handles 0) acceptedApp steps after ∧
      (after.app 0).handles = false ∧ steps.map TransitionSystem.Occurrence.action = actions := by
  rcases TransitionSystem.exists_history_of_runChecked executed with
    ⟨steps, after, history, taken, returned⟩
  exact ⟨steps, after, history, by simpa using returned, taken⟩

theorem open_all_or_nothing_iff_sent : ∃ steps after,
    (system Zstd.runLength).History (Handles 0) acceptedApp steps after ∧
    ((∃ linkId writer addr, OpenedWhole 0 steps after linkId writer addr) ∨ Undone 0 steps after ↔
      ∀ step ∈ steps, ∀ accepted, step.action ≠ .app 0 (.write (.failed accepted))) := by
  rcases @exists_returned openSent (by decide +kernel) with ⟨steps, after, history, returned, -⟩
  exact ⟨steps, after, history,
    open_all_or_nothing_iff reachable_acceptedApp rfl history returned⟩

theorem open_half_done :
    ¬ ∀ (zstd : Zstd) (ref : LinkRef) (before after : Server) (steps : List Step),
      (system zstd).Reachable before → before.app ref = .handling .nextLinkId →
      (system zstd).History (Handles ref) before steps after →
      (after.app ref).handles = false →
      (∃ linkId writer addr, OpenedWhole ref steps after linkId writer addr) ∨
        Undone ref steps after := by
  intro claim
  rcases @exists_returned openUnsent (by decide +kernel) with
    ⟨steps, after, history, returned, taken⟩
  have outcome := claim _ 0 _ after steps reachable_acceptedApp rfl history returned
  have progress := progress_of_history reachable_acceptedApp rfl history
  have unfailed := not_sendFailed_ownSteps_iff.mp
    ((progress.all_or_nothing_iff returned).mp outcome)
  have member : ServerAction.app 0 (.write (.failed 0)) ∈
      steps.map TransitionSystem.Occurrence.action := by
    rw [taken]
    decide
  rcases List.mem_map.mp member with ⟨step, member, equal⟩
  exact unfailed step member 0 equal

end Server

end IoGateway

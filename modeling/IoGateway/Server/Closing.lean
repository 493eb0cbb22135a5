import IoGateway.Server.Cleanup
import IoGateway.Server.Identity
import IoGateway.Server.Receiver

/-! # The closing of a link

A link is closed only after it has been taken out of the registry, for good: its socket
is open as long as it is registered. And an `Opened` has taken effect before the exchange
loop that has read it comes to a later frame.
-/

namespace IoGateway

def GatewayTask.Opening (linkId : UInt16) (ref : LinkRef) : GatewayTask → Prop
  | .exchanging _ _ (.openedLookup looked) => looked = linkId
  | .exchanging _ _ (.openedSet found) => found = ref
  | _ => False

namespace GatewayServer

variable {zstd : Zstd} {server after : GatewayServer} {input : Input} {ref : LinkRef}

structure TakenOut (server after : GatewayServer) (linkId : UInt16) (ref : LinkRef) : Prop where
  found : server.base.links.lookup linkId = some ref
  links : after.base.links = server.base.links.erase linkId

theorem RemoveLinkStep.takenOut {point : RemoveLink} {next : Option RemoveLink}
    (removal : RemoveLinkStep server point after next) (closing : next = some (.close ref)) :
    ∃ linkId, server.TakenOut after linkId ref := by
  cases removal with
  | found found =>
      cases closing
      exact ⟨_, found, rfl⟩
  | _ => cases closing

/-- A task comes to the closing of a link by taking it out of the registry. -/
theorem AppStep.takenOut {slot : LinkRef} {task next : AppTask}
    (stepped : server.AppStep zstd slot task input after next) (closing : next.Closing ref) :
    ∃ linkId, server.TakenOut after linkId ref := by
  cases stepped with
  | handling stepped => cases stepped <;> exact closing.elim
  | exchanging stepped =>
      cases stepped with
      | removing removal =>
          exact removal.takenOut (congrArg some (AppTask.closing_removing.mp closing))
      | _ => exact closing.elim

theorem GatewayStep.takenOut {slot : ConnectionRef} {task next : GatewayTask}
    (stepped : server.GatewayStep zstd slot task input after next) (closing : next.Closing ref) :
    ∃ linkId, server.TakenOut after linkId ref := by
  cases stepped with
  | handling stepped => cases stepped <;> exact closing.elim
  | exchanging stepped =>
      cases stepped with
      | @receive packet data =>
          unfold dispatch at closing
          cases type : packet.packetType <;> simp only [type] at closing
          case regular => cases data <;> exact closing.elim
          all_goals exact closing.elim
      | removing removal =>
          exact removal.takenOut (congrArg some (GatewayTask.closing_removing.mp closing))
      | cleanup cleaning =>
          cases cleaning with
          | link _ found =>
              cases closing
              exact ⟨_, found, rfl⟩
          | _ => exact closing.elim
      | _ => exact closing.elim

theorem shut_updateLink {slot : LinkRef} {update : Link → Link}
    (open_ : (server.base.link ref).writer.shut = false)
    (own : ref = slot → (update (server.base.link slot)).writer.shut = false) :
    ((server.updateLink slot update).base.link ref).writer.shut = false := by
  by_cases equal : ref = slot
  · subst equal
    simpa [Gateway.updateLink] using own rfl
  · simpa [Gateway.updateLink, equal] using open_

theorem RemoveLinkStep.shut_kept {point : RemoveLink} {next : Option RemoveLink}
    (removal : RemoveLinkStep server point after next)
    (open_ : (server.base.link ref).writer.shut = false) (apart : point ≠ .close ref) :
    (after.base.link ref).writer.shut = false := by
  cases removal with
  | close =>
      refine shut_updateLink open_ fun equal => ?_
      subst equal
      exact absurd rfl apart
  | _ => exact open_

/-- Only the task at the closing of a link shuts it down, or a handler that rejects its
own application. -/
theorem AppStep.shut_kept {slot : LinkRef} {task next : AppTask}
    (stepped : server.AppStep zstd slot task input after next)
    (open_ : (server.base.link ref).writer.shut = false) (apart : ¬ task.Closing ref)
    (past : slot = ref → ¬ task.Unregistered) : (after.base.link ref).writer.shut = false := by
  cases stepped with
  | handling stepped =>
      cases stepped with
      | reject => exact shut_updateLink open_ fun equal => absurd trivial (past equal.symm)
      | addLink =>
          have different : ref ≠ slot := fun equal => past equal.symm trivial
          simpa [different] using open_
      | sendOpen sent => rwa [sent.base]
      | setWaiting => exact shut_updateLink open_ fun equal => equal ▸ open_
      | _ => exact open_
  | exchanging stepped =>
      cases stepped with
      | read => exact shut_updateLink open_ fun equal => equal ▸ open_
      | addIncoming => exact shut_updateLink open_ fun equal => equal ▸ open_
      | sendRegular sent => rwa [sent.base]
      | sendFailed sent => rwa [sent.base]
      | sendClose sent => rwa [sent.base]
      | removing removal =>
          exact removal.shut_kept open_ fun closing => apart (AppTask.closing_removing.mpr closing)
      | removed removal =>
          exact removal.shut_kept open_ fun closing => apart (AppTask.closing_removing.mpr closing)
      | _ => exact open_

theorem GatewayStep.shut_kept {slot : ConnectionRef} {task next : GatewayTask}
    (stepped : server.GatewayStep zstd slot task input after next)
    (open_ : (server.base.link ref).writer.shut = false) (apart : ¬ task.Closing ref) :
    (after.base.link ref).writer.shut = false := by
  cases stepped with
  | handling stepped => cases stepped <;> exact open_
  | exchanging stepped =>
      cases stepped with
      | sendPong sent => rwa [sent.base]
      | regularWrite sent =>
          refine shut_updateLink open_ fun equal => ?_
          subst equal
          cases Link.sendPacketStep_of_eq sent <;> exact open_
      | openedSet => exact shut_updateLink open_ fun equal => equal ▸ open_
      | removing removal =>
          exact removal.shut_kept open_ fun closing =>
            apart (GatewayTask.closing_removing.mpr closing)
      | removed removal =>
          exact removal.shut_kept open_ fun closing =>
            apart (GatewayTask.closing_removing.mpr closing)
      | cleanup cleaning =>
          cases cleaning with
          | close =>
              refine shut_updateLink open_ fun equal => ?_
              exact absurd equal.symm apart
          | _ => exact open_
      | cleaned cleaning => cases cleaning <;> exact open_
      | _ => exact open_

end GatewayServer

namespace Server

variable {zstd : Zstd} {server next : Server} {action : ServerAction} {input : Input}
  {link ref : LinkRef} {connection : ConnectionRef} {linkId : UInt16}

/-- The link has been taken out of the registry for good. -/
structure Gone (server : Server) (ref : LinkRef) : Prop where
  past : ¬ (server.app ref).Unregistered
  absent : ∀ linkId, server.shared.base.links.lookup linkId ≠ some ref

theorem Gone.step (gone : server.Gone ref) (slots : SlotsInOrder server)
    (stepped : step zstd server action = some next) : next.Gone ref where
  past := past_of_step slots gone.past stepped
  absent := fun linkId found => gone.absent linkId (registered_of_past gone.past stepped found)

theorem gone_of_takenOut (registered : Registered server)
    (taken : server.shared.TakenOut next.shared linkId ref)
    (past : ¬ (next.app ref).Unregistered) : next.Gone ref where
  past := past
  absent := by
    intro other found
    rw [taken.links, FiniteMap.lookup_erase] at found
    split at found
    · cases found
    · rename_i different
      exact different ((registered.key other ref found).symm.trans
        (registered.key linkId ref taken.found))

/-- A registered link is open, and whatever is being closed is out of the registry. -/
structure Live (server : Server) : Prop where
  open_ : ∀ linkId ref, server.shared.base.links.lookup linkId = some ref →
    (server.shared.base.link ref).writer.shut = false
  app : ∀ slot ref, (server.app slot).Closing ref → server.Gone ref
  gateway : ∀ slot ref, (server.gateway slot).Closing ref → server.Gone ref

theorem live_new : Live Server.new where
  open_ := fun _ _ found => by cases found
  app := fun _ _ closing => closing.elim
  gateway := fun _ _ closing => closing.elim

theorem Live.apart_app (live : server.Live) {slot : LinkRef}
    (found : server.shared.base.links.lookup linkId = some ref) :
    ¬ (server.app slot).Closing ref :=
  fun closing => (live.app slot ref closing).absent linkId found

theorem Live.apart_gateway (live : server.Live) {slot : ConnectionRef}
    (found : server.shared.base.links.lookup linkId = some ref) :
    ¬ (server.gateway slot).Closing ref :=
  fun closing => (live.gateway slot ref closing).absent linkId found

theorem Live.open_of_step (live : server.Live) (registered : Registered server)
    (stepped : step zstd server action = some next)
    (found : next.shared.base.links.lookup linkId = some ref) :
    (next.shared.base.link ref).writer.shut = false := by
  cases registryStep_of_step stepped with
  | accept same =>
      rw [same] at found ⊢
      exact live.open_ linkId ref found
  | draw _ _ _ _ shared =>
      rw [shared] at found ⊢
      exact live.open_ linkId ref found
  | register slot key _ _ _ shared =>
      rw [shared] at found ⊢
      simp only [GatewayServer.updateBase, FiniteMap.lookup_insert] at found ⊢
      by_cases own : ref = slot
      · rw [own, Function.update_self]
        rfl
      · rw [Function.update_of_ne own]
        split at found
        · exact absurd (Option.some.inj found).symm own
        · exact live.open_ linkId ref found
  | keep _ shrink =>
      have earlier := shrink linkId ref found
      have open_ := live.open_ linkId ref earlier
      have past := registered.task linkId ref earlier
      cases transition_of_step stepped with
      | app moved => exact moved.shut_kept open_ (live.apart_app earlier) fun equal => equal ▸ past
      | gateway moved => exact moved.shut_kept open_ (live.apart_gateway earlier)
      | shutdown moved =>
          generalize server.shutdown = task at moved
          cases moved with
          | closeAllLinks => cases found
          | _ => exact open_
      | _ => exact open_

theorem Live.step (live : server.Live) (registered : Registered server)
    (slots : SlotsInOrder server) (stepped : step zstd server action = some next) :
    next.Live where
  open_ := fun _ _ found => live.open_of_step registered stepped found
  app := by
    intro slot ref closing
    have kept : (server.app slot).Closing ref → next.Gone ref :=
      fun closing => (live.app slot ref closing).step slots stepped
    cases transition_of_step stepped with
    | acceptApp =>
        change (Function.update server.app server.appCount _ slot).Closing ref at closing
        by_cases own : slot = server.appCount
        · subst own
          rw [Function.update_self] at closing
          exact closing.elim
        · rw [Function.update_of_ne own] at closing
          exact kept closing
    | @app moving input shared task moved =>
        change (Function.update server.app moving task slot).Closing ref at closing
        by_cases own : slot = moving
        · subst own
          rw [Function.update_self] at closing
          rcases moved.takenOut closing with ⟨linkId, taken⟩
          exact gone_of_takenOut registered taken
            (past_of_step slots (registered.task linkId ref taken.found) stepped)
        · rw [Function.update_of_ne own] at closing
          exact kept closing
    | _ => exact kept closing
  gateway := by
    intro slot ref closing
    have move := gatewayMove_of_step stepped slot
    generalize next.gateway slot = after at move closing
    cases move with
    | kept => exact (live.gateway slot ref closing).step slots stepped
    | accepted => exact closing.elim
    | moved moved =>
        rcases moved.takenOut closing with ⟨linkId, taken⟩
        exact gone_of_takenOut registered taken
          (past_of_step slots (registered.task linkId ref taken.found) stepped)

theorem live_of_reachable (reachable : (system zstd).Reachable server) : server.Live :=
  reachable.invariant live_new fun _ _ _ earlier live _ stepped =>
    live.step (registered_of_reachable earlier) (slotsInOrder_of_reachable earlier) stepped

/-! ## Links whose `Opened` has been read -/

/-- A registered link whose `Opened` has been read is opened, or the exchange loop that
has read it is about to open it. -/
def OpenedTaken (server : Server) : Prop :=
  ∀ connection linkId ref, linkId ≠ 0 → Has .opened linkId (server.shared.heard connection) →
    server.shared.base.links.lookup linkId = some ref →
      Opened ref server ∨ (server.gateway connection).Opening linkId ref

theorem openedTaken_new : OpenedTaken Server.new :=
  fun _ _ _ _ _ found => by cases found

theorem opening_of_gateway {shared : GatewayServer} {task : GatewayTask}
    (moved : server.shared.GatewayStep zstd connection (server.gateway connection) input shared
      task)
    (stepped : step zstd server (.gateway connection input) = some next)
    (inTime : server.waitingWritten (.gateway connection input) = true)
    (found : server.shared.base.links.lookup linkId = some ref)
    (opening : (server.gateway connection).Opening linkId ref) :
    Opened ref next ∨ task.Opening linkId ref := by
  generalize run : server.gateway connection = before at moved opening
  cases moved with
  | handling => exact opening.elim
  | exchanging moved =>
      cases moved with
      | openedFound looked =>
          cases opening
          cases looked.symm.trans found
          exact .inr rfl
      | openedAbsent absent =>
          cases opening
          cases absent.symm.trans found
      | openedSet =>
          cases opening
          exact .inl (opened_of_openedSet run inTime stepped)
      | _ => exact opening.elim

theorem opening_of_heard (stepped : step zstd server action = some next)
    (opened : Has .opened linkId (next.shared.heard connection)) :
    Has .opened linkId (server.shared.heard connection) ∨
      ∀ ref, (next.gateway connection).Opening linkId ref := by
  cases receivedStep_of_step stepped with
  | kept same =>
      rw [GatewayServer.heard_congr same] at opened
      exact .inl opened
  | @received reading addr sessionId packet data _ run sockets =>
      by_cases own : connection = reading
      · subst own
        have grown : next.shared.heard connection =
            server.shared.heard connection ++ [Frame.of (packet, data)] := by
          simp [GatewayServer.heard, sockets, GatewaySockets.receive]
        rw [grown, has_concat] at opened
        refine opened.imp_right fun is ref => ?_
        have type : packet.packetType = .opened := is.1
        cases transition_of_step stepped with
        | gateway moved =>
            rw [run] at moved
            cases moved with
            | exchanging moved =>
                cases moved with
                | receive =>
                    simp only [Function.update_self, GatewayServer.dispatch, type]
                    exact is.2
      · have same := (heard_prefix_of_step stepped connection).2 reading _ rfl (Ne.symm own)
        rw [same] at opened
        exact .inl opened

theorem OpenedTaken.step (taken : server.OpenedTaken) (slots : SlotsInOrder server)
    (identified : Identified server)
    (announced : ∀ connection linkId, linkId ≠ 0 →
      Has .opened linkId (server.shared.heard connection) →
        ∃ link, server.Created link ∧ (server.shared.base.link link).connectionId = linkId)
    (inTime : server.waitingWritten action = true)
    (stepped : step zstd server action = some next) : next.OpenedTaken := by
  intro connection linkId ref positive opened found
  rcases opening_of_heard stepped opened with before | opening
  · rcases registered_of_step stepped found with earlier | ⟨writer, addr, registering, _⟩
    · rcases taken connection linkId ref positive before earlier with already | opening
      · exact .inl (already.step slots stepped)
      · cases transition_of_step stepped with
        | acceptGateway =>
            have different : connection ≠ server.gatewayCount := by
              intro equal
              rw [equal, slots.gateway _ (Nat.le_refl _)] at opening
              exact opening.elim
            exact .inr (by simpa [different] using opening)
        | @gateway moving input shared task moved =>
            by_cases own : connection = moving
            · subst own
              have later := opening_of_gateway moved stepped inTime earlier opening
              exact later.imp_right fun opening => by simpa using opening
            · exact .inr (by simpa [own] using opening)
        | _ => exact .inr opening
    · rcases announced connection linkId positive before with ⟨link, created, same⟩
      have own := identified.sole ref link linkId (by rw [registering]; rfl) same
      subst own
      exact absurd (by rw [registering]; trivial) created
  · exact .inr (opening ref)

theorem waitingWritten_of_frame {packet : PacketGW} {data : Option Bytes}
    (stepped : step zstd server (.gateway connection (.frame packet data)) = some next) :
    server.waitingWritten (.gateway connection (.frame packet data)) = true := by
  cases transition_of_step stepped with
  | gateway moved =>
      generalize run : server.gateway connection = task at moved
      cases moved with
      | handling => simp [waitingWritten, run]
      | exchanging moved =>
          cases moved with
          | receive => simp [waitingWritten, run]
          | cleanup cleaning => cases cleaning
          | cleaned cleaning => cases cleaning

theorem written_prefix_of_step (stepped : step zstd server action = some next)
    (created : server.Created link) : (server.shared.base.link link).writer.written <+:
      (next.shared.base.link link).writer.written := by
  cases transition_of_step stepped with
  | app moved =>
      rcases moved.data.held link with ⟨held, _⟩ | ⟨rfl, unregistered, _⟩
      · rw [held.written]
      · exact absurd unregistered created
  | @gateway serving input shared task moved =>
      have data := moved.data
      generalize server.gateway serving = before at data
      cases data with
      | quiet quiet => rw [(quiet.quiet link).written]
      | @written _ _ target _ _ _ sent =>
          by_cases equal : link = target
          · subst equal
            rcases (Link.sendPacketStep_of_eq sent).data.2.2 with ⟨accepted, _, grown⟩
            simp [Gateway.updateLink, grown]
          · simp [Gateway.updateLink, equal]
      | @connected _ _ target =>
          by_cases equal : link = target
          · subst equal
            simp [Gateway.updateLink, Link.setState]
          · simp [Gateway.updateLink, equal]
  | shutdown moved => rw [(moved.linksQuiet.quiet link).written]
  | _ => exact List.prefix_refl _

/-- At its `Close` a link whose writes have not failed has been written all data that
have come for it. -/
theorem written_of_removing {addr : SocketAddr} {sessionId : Uuid} (live : server.Live)
    (taken : server.OpenedTaken) (registered : Registered server) (receiving : server.Receiving)
    (run : server.gateway connection = .exchanging addr sessionId (.removing (.link linkId)))
    (found : server.shared.base.links.lookup linkId = some ref) (positive : linkId ≠ 0)
    (sole : server.Sole connection linkId)
    (opened : Has .opened linkId (server.shared.heard connection))
    (healthy : (server.shared.base.link ref).writer.failed = false) :
    (server.shared.base.link ref).writer.written =
      payloads linkId (server.shared.heard connection) := by
  have key := registered.key linkId ref found
  have connected : (server.shared.base.link ref).state = .connected := by
    rcases taken connection linkId ref positive opened found with already | opening
    · exact already.connected (live.open_ linkId ref found)
    · rw [run] at opening
      exact opening.elim
  have written := receiving.written connection ref (key.symm ▸ sole)
  have whole := written.whole ⟨connected, .inl (key.symm ▸ found)⟩ healthy
  rw [run, key] at whole
  simpa [GatewayTask.held] using whole

end Server

end IoGateway

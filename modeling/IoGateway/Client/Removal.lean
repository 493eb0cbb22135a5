import IoGateway.Client.Answering
import IoGateway.Client.Receiver
import IoGateway.Client.Registry
import IoGateway.Client.Sender

/-! # Why the client removes its links

On its only gateway connection a client keeps each link registered until the server has
closed it, its own task has ended, or the connection has. A link that the server has closed is
removed, and what has been answered with `Opened` is a link of the client.
-/

namespace IoGateway

def RunTask.Removing (linkId : UInt16) : RunTask → Prop
  | .onConnection _ (.exchanging (.removeLink key)) => key = linkId
  | _ => False

/-- The exchange loop does one thing at a time. -/
theorem RunTask.Removing.announces {task : RunTask} {linkId key : UInt16}
    (removing : task.Removing linkId) : task.announces? ≠ some key := by
  intro announces
  unfold announces? at announces
  split at announces
  · exact removing
  · cases announces

theorem RunTask.announces?_of_addsLink? {task : RunTask} {linkId : UInt16}
    (adds : task.addsLink? = some linkId) : task.announces? = some linkId := by
  unfold addsLink? at adds
  split at adds
  · exact adds
  · cases adds

namespace Client

variable {zstd : Zstd} {client next : Client} {action : ClientAction} {input : Input}
  {linkId : UInt16} {link : LinkRef} {connection : ConnectionRef}

/-! ## Opened links -/

def OpenedLinked (client : Client) : Prop :=
  ∀ linkId, Has .opened linkId (client.shared.sockets.writer 0).sent →
    ∃ link < client.linkCount, (client.shared.base.link link).connectionId = linkId

theorem OpenedLinked.step (opened : OpenedLinked client) (linked : Linked client)
    (stepped : step zstd client action = some next) : OpenedLinked next := by
  have later : ∀ {linkId}, (∃ link < client.linkCount,
      (client.shared.base.link link).connectionId = linkId) →
      ∃ link < next.linkCount, (next.shared.base.link link).connectionId = linkId := by
    intro linkId found
    rcases found with ⟨link, exists_, same⟩
    exact ⟨link, Nat.lt_of_lt_of_le exists_ (linkCount_le_of_step stepped),
      (connectionId_of_step exists_ stepped).trans same⟩
  intro linkId has
  cases writerStep_of_step stepped 0 with
  | silent silent => exact later (opened linkId (silent.sent ▸ has))
  | sent sending wrote =>
      rcases GatewayWriter.sent_of_send wrote with same | grown
      · exact later (opened linkId (same ▸ has))
      · rw [grown, has_concat] at has
        rcases has with before | is
        · exact later (opened linkId before)
        · cases sending with
          | @opened _ key link packetId _ run =>
              cases is.2
              have created := linked.opening key link (by rw [run]; rfl)
              exact later ⟨link, created.1, created.2.1⟩
          | openFail => cases is.1
          | pong => cases is.1
          | regular => cases is.1
          | close => cases is.1
          | ping => cases is.1
          | command => cases is.1

/-- A client that answers nothing else has answered each `Open` that it has read. -/
theorem answered_of_heard (reachable : (system zstd).Reachable client)
    (idle : client.run.pending 0 = none)
    (healthy : (client.shared.sockets.writer 0).half.failed = false)
    (opened : Has .open_ linkId client.heard) :
    Has .opened linkId (client.shared.sockets.writer 0).sent ∨
      Has .openFail linkId (client.shared.sockets.writer 0).sent := by
  rcases opened with ⟨frame, heard, type, own⟩
  have asked : Request.open_ linkId ∈ (client.answering 0).asked :=
    List.mem_filterMap.mpr ⟨frame, heard, by simp [Frame.request?, type, own]⟩
  rcases (answersInOrder_of_reachable reachable 0).answered idle healthy asked with
    ⟨answer, answered, matching⟩
  rcases List.mem_filterMap.mp answered with ⟨frame, sent, given⟩
  unfold Frame.answer? at given
  cases matching with
  | opened =>
      left
      refine ⟨frame, sent, ?_⟩
      split at given <;> cases given
      exact ⟨by assumption, rfl⟩
  | openFail =>
      right
      refine ⟨frame, sent, ?_⟩
      split at given <;> cases given
      exact ⟨by assumption, rfl⟩

/-! ## Registered links -/

structure Left (client : Client) : Prop where
  connected : 0 < client.connectionCount
  away : ∀ connection point, client.run ≠ .onConnection connection point

theorem Left.step (left : Left client) (single : next.SingleConnection)
    (stepped : step zstd client action = some next) : Left next := by
  refine ⟨Nat.lt_of_lt_of_le left.connected (connectionCount_le_of_step stepped), ?_⟩
  have away := left.away
  intro connection point run
  cases transition_of_step stepped with
  | run moved =>
      generalize before : client.run = task at moved
      cases moved with
      | connected =>
          have count : client.connectionCount + 1 ≤ 1 := single
          exact absurd left.connected (by omega)
      | onConnection => exact away _ _ before
      | onDisconnection moved => cases moved <;> cases run
      | _ => cases run
  | shutdown moved =>
      generalize client.shutdown = task at moved
      cases moved <;> exact away connection point run
  | _ => exact away connection point run

/-- How a registered link fares in a step. -/
inductive Fares (client next : Client) (linkId : UInt16) (link : LinkRef) : Prop
  | kept (found : next.shared.base.links.lookup linkId = some link)
  | removing (removing : client.run.Removing linkId)
  | replaced (adds : client.run.addsLink? = some linkId)
  | ended {slot : LinkRef} {writer : ConnectionRef}
      (running : client.app slot = .running linkId writer .removeLink)
      (finished : next.app slot = .finished)
  | disconnected (away : ∀ connection point, next.run ≠ .onConnection connection point)
  | shutDown (began : client.shutdown ≠ .absent)

theorem lookup_erase_or {links : FiniteMap UInt16 LinkRef} (key : UInt16)
    (found : links.lookup linkId = some link) :
    linkId = key ∨ (links.erase key).lookup linkId = some link := by
  by_cases equal : linkId = key
  · exact .inl equal
  · exact .inr (by simpa [equal] using found)

theorem ConnectStep.fares {point : ConnectClient}
    (stepped : ConnectStep zstd connection client point input next)
    (run : client.run = .onConnection connection (.exchanging (.connecting point)))
    (found : client.shared.base.links.lookup linkId = some link) :
    Fares client next linkId link := by
  cases stepped with
  | @addLink key =>
      by_cases equal : linkId = key
      · exact .replaced (by rw [run, equal]; rfl)
      · exact .kept (by simpa [equal] using found)
  | sendOpened sent => exact .kept (sent.base ▸ found)
  | sendOpenFail sent => exact .kept (sent.base ▸ found)
  | _ => exact .kept found

theorem ExchangeStep.fares {point : GatewayExchange}
    (stepped : ExchangeStep zstd connection client point input next)
    (run : client.run = .onConnection connection (.exchanging point))
    (found : client.shared.base.links.lookup linkId = some link) :
    Fares client next linkId link := by
  cases stepped with
  | connecting stepped => exact stepped.fares run found
  | sendPong sent => exact .kept (sent.base ▸ found)
  | @removeFound key =>
      rcases lookup_erase_or key found with equal | still
      · exact .removing (by rw [run]; exact equal.symm)
      · exact .kept still
  | @removeAbsent key =>
      rcases lookup_erase_or key found with equal | still
      · exact .removing (by rw [run]; exact equal.symm)
      · exact .kept still
  | _ => exact .kept found

theorem RunStep.fares (stepped : RunStep zstd client client.run input next)
    (found : client.shared.base.links.lookup linkId = some link) :
    Fares client next linkId link := by
  generalize run : client.run = task at stepped
  cases stepped with
  | onConnection stepped =>
      cases stepped with
      | exchanging stepped => exact stepped.fares run found
      | _ => exact .kept found
  | onDisconnection stepped =>
      cases stepped with
      | closeAllLinks => exact .disconnected fun _ _ => RunTask.noConfusion
      | _ => exact .kept found
  | _ => exact .kept found

theorem fares_of_step (stepped : step zstd client action = some next)
    (found : client.shared.base.links.lookup linkId = some link) :
    Fares client next linkId link := by
  cases transition_of_step stepped with
  | run moved => exact moved.fares found
  | @app slot input shared task moved =>
      generalize running : client.app slot = before at moved
      cases moved with
      | @removeLink key writer =>
          rcases lookup_erase_or key found with rfl | still
          · exact .ended running (Function.update_self ..)
          · exact .kept still
      | sendRegular sent => exact .kept (sent.base ▸ found)
      | sendFailed sent => exact .kept (sent.base ▸ found)
      | sendClose sent => exact .kept (sent.base ▸ found)
      | _ => exact .kept found
  | ping moved =>
      generalize client.ping _ = before at moved
      cases moved with
      | sendPing sent => exact .kept (sent.base ▸ found)
      | sendFailed sent => exact .kept (sent.base ▸ found)
      | _ => exact .kept found
  | command moved =>
      generalize client.command = before at moved
      cases moved with
      | sendPing sent => exact .kept (sent.base ▸ found)
      | _ => exact .kept found
  | shutdown moved =>
      generalize began : client.shutdown = task at moved
      cases moved with
      | closeAllLinks => exact .shutDown (by rw [began]; exact ClientShutdown.noConfusion)
      | _ => exact .kept found
  | _ => exact .kept found

theorem finished_of_step (linked : Linked client) (stepped : step zstd client action = some next)
    (finished : client.app link = .finished) : next.app link = .finished := by
  cases openingStep_of_step stepped with
  | spawned run _ app =>
      have opening := linked.opening _ _ (by rw [run]; rfl)
      have different : link ≠ _ := fun equal => by
        rw [equal, opening.2.2] at finished
        cases finished
      rw [app, Function.update_of_ne different]
      exact finished
  | @app slot input shared task moved =>
      have different : link ≠ slot := by
        intro equal
        rw [← equal, finished] at moved
        cases moved
      exact (Function.update_of_ne different ..).trans finished
  | kept _ app => rw [app, finished]
  | announced _ _ _ app => rw [app, finished]
  | created _ _ app => rw [app, finished]
  | opened _ _ app => rw [app, finished]
  | refused _ _ app => rw [app, finished]

theorem RunStep.shutdown (stepped : RunStep zstd client client.run input next) :
    next.shutdown = client.shutdown := by
  generalize client.run = task at stepped
  cases stepped with
  | onConnection stepped =>
      cases stepped with
      | exchanging stepped =>
          cases stepped with
          | connecting stepped => cases stepped <;> rfl
          | _ => rfl
      | _ => rfl
  | onDisconnection stepped => cases stepped <;> rfl
  | _ => rfl

theorem shutdown_absent_of_step (absent : client.shutdown = .absent)
    (lasting : action ≠ .beginShutdown) (stepped : step zstd client action = some next) :
    next.shutdown = .absent := by
  cases transition_of_step stepped with
  | run moved => rw [moved.shutdown, absent]
  | beginShutdown => exact absurd rfl lasting
  | shutdown moved =>
      rw [absent] at moved
      cases moved
  | _ => exact absent

/-- What is known of a link of the only connection: it is registered, or the server has
closed it, its task has ended, or the connection has. -/
structure Retained (client : Client) : Prop where
  asked : ∀ linkId, client.run.Removing linkId → Has .close linkId client.heard
  links : ∀ link < client.linkCount,
    client.shared.base.links.lookup (client.shared.base.link link).connectionId = some link ∨
      Has .close (client.shared.base.link link).connectionId client.heard ∨
      client.app link = .finished ∨ client.Left

theorem retained_new : Retained Client.new where
  asked := fun _ removing => removing.elim
  links := fun link exists_ => absurd exists_ (Nat.not_lt_zero link)

theorem removing_of_step (stepped : step zstd client action = some next)
    (removing : next.run.Removing linkId) : client.run.Removing linkId ∨
      ∃ packet data, action = .run (.frame packet data) ∧
        Frame.Is .close linkId (Frame.of (packet, data)) := by
  cases transition_of_step stepped with
  | run moved =>
      generalize client.run = task at moved
      cases moved with
      | onConnection moved =>
          cases moved with
          | exchanging moved =>
              cases moved with
              | @receive packet data point dispatched =>
                  refine .inr ⟨packet, data, rfl, ?_⟩
                  unfold GatewayClient.dispatch at dispatched
                  cases type : packet.packetType <;> simp only [type] at dispatched
                  case regular =>
                    cases data <;> cases dispatched <;> exact removing.elim
                  case close =>
                    cases dispatched
                    exact ⟨type, removing⟩
                  all_goals cases dispatched <;> exact removing.elim
              | connecting moved => cases moved <;> exact removing.elim
              | _ => exact removing.elim
          | _ => exact removing.elim
      | onDisconnection moved => cases moved <;> exact removing.elim
      | _ => exact removing.elim
  | shutdown moved =>
      generalize client.shutdown = task at moved
      cases moved <;> exact .inl removing
  | _ => exact .inl removing

theorem Retained.step (retained : Retained client) (linked : Linked client)
    (epochs : Epochs client) (running : client.shutdown = .absent)
    (single : client.SingleConnection) (nextSingle : next.SingleConnection)
    (stepped : step zstd client action = some next) : Retained next := by
  have grown := heard_prefix_of_step stepped
  constructor
  · intro linkId removing
    rcases removing_of_step stepped removing with before | ⟨packet, data, rfl, is⟩
    · exact (retained.asked linkId before).mono grown
    · have heard : next.heard = client.heard ++ [Frame.of (packet, data)] := by
        simp [heard, received_of_frame single epochs stepped]
      rw [heard, has_concat]
      exact .inr is
  · intro link exists_
    by_cases before : link < client.linkCount
    · rw [connectionId_of_step before stepped]
      rcases retained.links link before with found | closed | finished | left
      · cases fares_of_step stepped found with
        | kept found => exact .inl found
        | removing removing => exact .inr (.inl ((retained.asked _ removing).mono grown))
        | replaced adds =>
            have fresh := linked.announced _ (RunTask.announces?_of_addsLink? adds)
            exact absurd rfl (fresh.2 link before)
        | @ended slot writer running finished =>
            have same := linked.task slot _ writer _ running
            have below := (epochs.tasks slot _ writer _ running).2
            cases linked.distinct slot link below before same
            exact .inr (.inr (.inl finished))
        | disconnected away =>
            have serving := (epochs.links _ link found).1.2
            have connected := Nat.lt_of_lt_of_eq (Nat.succ_pos _) serving
            exact .inr (.inr (.inr
              ⟨Nat.lt_of_lt_of_le connected (connectionCount_le_of_step stepped), away⟩))
        | shutDown began => exact absurd running began
      · exact .inr (.inl (closed.mono grown))
      · exact .inr (.inr (.inl (finished_of_step linked stepped finished)))
      · exact .inr (.inr (.inr (left.step nextSingle stepped)))
    · cases dataStep_of_step stepped with
      | created run links created openedOn linkCount =>
          have new : link = client.linkCount := by
            rw [linkCount] at exists_
            exact Nat.le_antisymm (Nat.le_of_lt_succ exists_) (Nat.le_of_not_lt before)
          subst new
          left
          rw [links, created, Function.update_self]
          simp [Link.new]
      | quiet quiet => exact absurd (quiet.linkCount ▸ exists_) before
      | forwarded _ _ _ _ linkCount => exact absurd (linkCount ▸ exists_) before
      | read _ _ linkCount => exact absurd (linkCount ▸ exists_) before

/-! ## Links that the server has closed -/

/-- A link that the server has closed is not registered, or the exchange loop is about to
remove it; a link that is being opened has not been closed. -/
structure ClosedTaken (client : Client) : Prop where
  closed : ∀ linkId, linkId ≠ 0 → Has .close linkId client.heard →
    client.shared.base.links.lookup linkId = none ∨ client.run.Removing linkId
  announced : ∀ linkId, linkId ≠ 0 → client.run.announces? = some linkId →
    ¬ Has .close linkId client.heard

theorem closedTaken_new : ClosedTaken Client.new where
  closed := fun _ _ has => absurd has not_has_nil
  announced := fun _ _ announces => by cases announces

/-- A `Close` has been read before, or the exchange loop has just read it. -/
theorem removing_of_heard (epochs : Epochs client) (single : client.SingleConnection)
    (stepped : step zstd client action = some next) (has : Has .close linkId next.heard) :
    Has .close linkId client.heard ∨ next.run.Removing linkId := by
  cases receivedStep_of_step stepped with
  | kept same =>
      rw [heard_congr same] at has
      exact .inl has
  | @received serving packet data _ run sockets =>
      cases epochs.first_connection single run
      have grown : next.heard = client.heard ++ [Frame.of (packet, data)] := by
        simp [heard, sockets, GatewaySockets.receive]
      rw [grown, has_concat] at has
      refine has.imp_right fun is => ?_
      have closes : packet.packetType = .close := is.1
      cases transition_of_step stepped with
      | run moved =>
          rw [run] at moved
          cases moved with
          | onConnection moved =>
              cases moved with
              | exchanging moved =>
                  cases moved with
                  | receive dispatched =>
                      simp only [GatewayClient.dispatch, closes] at dispatched
                      cases dispatched
                      exact is.2
                  | denied dispatched =>
                      simp only [GatewayClient.dispatch, closes] at dispatched
                      cases dispatched

theorem removing_kept (stepped : step zstd client action = some next)
    (removing : client.run.Removing linkId) : next.run.Removing linkId ∨
      next.shared.base.links.lookup linkId = none := by
  cases transition_of_step stepped with
  | run moved =>
      generalize client.run = task at moved removing
      cases moved with
      | onConnection moved =>
          cases moved with
          | exchanging moved =>
              cases moved with
              | removeFound =>
                  cases removing
                  exact .inr (by simp)
              | removeAbsent =>
                  cases removing
                  exact .inr (by simp)
              | _ => exact removing.elim
          | _ => exact removing.elim
      | _ => exact removing.elim
  | shutdown moved =>
      generalize client.shutdown = task at moved
      cases moved <;> exact .inl removing
  | _ => exact .inl removing

theorem announces_of_step (stepped : step zstd client action = some next)
    (announces : next.run.announces? = some linkId) :
    client.run.announces? = some linkId ∨ ∃ packet data, action = .run (.frame packet data) ∧
      Frame.Is .open_ linkId (Frame.of (packet, data)) := by
  cases openingStep_of_step stepped with
  | kept opening => exact .inl (opening.announces ▸ announces)
  | @announced _ packet data _ type _ nextRun =>
      rw [nextRun] at announces
      cases announces
      exact .inr ⟨packet, data, rfl, type, rfl⟩
  | created _ nextRun => rw [nextRun] at announces; cases announces
  | opened _ nextRun => rw [nextRun] at announces; cases announces
  | spawned _ nextRun => rw [nextRun] at announces; cases announces
  | refused _ nextRun => rw [nextRun] at announces; cases announces
  | app => exact .inl announces

theorem ClosedTaken.step (taken : ClosedTaken client) (epochs : Epochs client)
    (single : client.SingleConnection)
    (introduced : ∀ linkId, Introduced .open_ linkId next.heard)
    (opened : ∀ linkId, linkId ≠ 0 → Has .close linkId client.heard →
      Has .open_ linkId client.heard)
    (stepped : step zstd client action = some next) : ClosedTaken next := by
  constructor
  · intro linkId positive has
    rcases removing_of_heard epochs single stepped has with before | removing
    · rcases taken.closed linkId positive before with absent | removing
      · cases found : next.shared.base.links.lookup linkId with
        | none => exact .inl rfl
        | some link =>
            rcases lookup_of_step stepped found with earlier | ⟨_, _, adds⟩
            · cases absent.symm.trans earlier
            · have announces := RunTask.announces?_of_addsLink? adds
              exact absurd before (taken.announced linkId positive announces)
      · exact (removing_kept stepped removing).symm
    · exact .inr removing
  · intro linkId positive announces
    rcases announces_of_step stepped announces with before | ⟨packet, data, rfl, is⟩
    · intro has
      rcases removing_of_heard epochs single stepped has with earlier | removing
      · exact taken.announced linkId positive before earlier
      · exact removing.announces announces
    · have grown : next.heard = client.heard ++ [Frame.of (packet, data)] := by
        simp [heard, received_of_frame single epochs stepped]
      rw [grown, has_concat]
      rintro (closed | closes)
      · exact (introduced linkId).once client.heard _ (grown ▸ List.prefix_refl _) is
          (opened linkId positive closed)
      · cases is.1.symm.trans closes.1

end Client

end IoGateway

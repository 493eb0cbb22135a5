import IoGateway.Foundation.Draining
import IoGateway.Server.Release

/-! # The server winds down

Once nothing more comes from outside (no connection, no data, no frame), each step of a
task leaves it less to do, whatever its writes do and whatever order the tasks take. A
shutdown that has begun can always go on, and any other task when none is under way.
-/

namespace IoGateway

/-- The steps of the accepted connections from the moment their sockets have no more, and
those of a shutdown that has begun. -/
def ServerAction.ends : ServerAction → Bool
  | .app _ (.chunk _) => false
  | .app _ _ => true
  | .gateway _ (.frame _ _) => false
  | .gateway _ _ => true
  | .shutdown _ => true
  | _ => false

/-! ## Work -/

def RemoveLink.work : RemoveLink → Nat
  | .route _ => 3
  | .link _ => 2
  | .close _ => 1

def HandleAppConnection.work : HandleAppConnection → Nat
  | .nextLinkId => 18
  | .pickClient _ => 17
  | .addLink _ _ _ => 16
  | .insertRoute _ _ _ => 15
  | .openId _ _ => 14
  | .sendOpen _ _ _ => 13
  | .setWaiting _ _ => 12
  | .reject _ => 1

def AppExchange.work : AppExchange → Nat
  | .addIncoming _ => 11
  | .regularId _ => 10
  | .sendRegular _ _ => 9
  | .read => 8
  | .closeId => 7
  | .sendClose _ => 6
  | .removing point => point.work

def AppTask.work : AppTask → Nat
  | .handling point => point.work
  | .exchanging _ _ point => point.work
  | _ => 0

/-- As many links as there are identifiers may have to be removed. -/
def CleanupClient.work : CleanupClient → Nat
  | .routes => 2 * UInt16.size + 8
  | .links remaining => 2 * remaining.card + 5
  | .close _ remaining => 2 * remaining.card + 6
  | .session => 4
  | .store => 3
  | .check => 2
  | .setWaiting => 1

def ClientExchange.work : ClientExchange → Nat
  | .pongId => 2 * UInt16.size + 11
  | .sendPong _ => 2 * UInt16.size + 10
  | .regularLookup _ _ => 2 * UInt16.size + 11
  | .regularWrite _ _ => 2 * UInt16.size + 10
  | .openedLookup _ => 2 * UInt16.size + 11
  | .openedSet _ => 2 * UInt16.size + 10
  | .removing point => 2 * UInt16.size + 9 + point.work
  | .receive => 2 * UInt16.size + 9
  | .cleanup point => point.work

def HandleGatewayConnection.work : HandleGatewayConnection → Nat
  | .evict => 2 * UInt16.size + 15
  | .challengeId => 2 * UInt16.size + 14
  | .authenticate => 2 * UInt16.size + 13
  | .setConnected => 2 * UInt16.size + 12
  | .saveSession => 2 * UInt16.size + 11
  | .insertSession _ => 2 * UInt16.size + 10

def GatewayTask.work : GatewayTask → Nat
  | .handling _ point => point.work
  | .exchanging _ _ point => point.work
  | _ => 0

def ShutdownTask.work : ShutdownTask → Nat
  | .closeAllLinks => 4
  | .sleep => 3
  | .lockSessions => 2
  | .removeSession _ => 2
  | .closeSession => 1
  | .absent => 0
  | .finished => 0

/-- There are no more sets of identifiers than identifiers. -/
theorem card_linkIds_le (linkIds : Finset UInt16) : linkIds.card ≤ UInt16.size := by
  have bounded : linkIds.image UInt16.toNat ⊆ Finset.range UInt16.size := by
    intro id member
    rcases Finset.mem_image.mp member with ⟨linkId, _, rfl⟩
    exact Finset.mem_range.mpr linkId.toNat_lt_size
  have card := Finset.card_le_card bounded
  rwa [Finset.card_image_of_injective _ fun _ _ => UInt16.toNat_inj.mp, Finset.card_range] at card

theorem RemoveLink.work_pos (point : RemoveLink) : 0 < point.work := by
  cases point <;> simp [RemoveLink.work]

theorem CleanupClient.work_pos (point : CleanupClient) : 0 < point.work := by
  cases point <;> simp [CleanupClient.work]

namespace GatewayServer

variable {zstd : Zstd} {server after : GatewayServer} {input : Input}

theorem RemoveLinkStep.work {point : RemoveLink} {next : Option RemoveLink}
    (removal : server.RemoveLinkStep point after next) :
    ∀ later ∈ next, later.work < point.work := by
  cases removal <;> simp [RemoveLink.work]

theorem AppStep.work {ref : LinkRef} {task next : AppTask}
    (stepped : server.AppStep zstd ref task input after next)
    (ends : (ServerAction.app ref input).ends = true) : next.work < task.work := by
  cases stepped with
  | handling stepped =>
      cases stepped <;> simp [AppTask.work, HandleAppConnection.work, AppExchange.work]
  | exchanging stepped =>
      cases stepped with
      | read => cases ends
      | removing removal => exact removal.work _ rfl
      | removed => exact RemoveLink.work_pos _
      | _ => simp [AppTask.work, AppExchange.work, RemoveLink.work]

theorem CleanupStep.work {addr : SocketAddr} {sessionId : Uuid} {point : CleanupClient}
    {next : Option CleanupClient}
    (cleaning : server.CleanupStep addr sessionId point input after next) :
    ∀ later ∈ next, later.work < point.work := by
  have positive : ∀ {remaining : Finset UInt16} {linkId}, linkId ∈ remaining →
      (remaining.erase linkId).card < remaining.card := Finset.card_erase_lt_of_mem
  cases cleaning with
  | routes =>
      have card := card_linkIds_le (server.ownedLinks addr)
      simp [CleanupClient.work]
      omega
  | link member =>
      have fewer := positive member
      simp [CleanupClient.work]
      omega
  | noLink member =>
      have fewer := positive member
      simp [CleanupClient.work]
      omega
  | _ => simp [CleanupClient.work]

theorem GatewayStep.work {ref : ConnectionRef} {task next : GatewayTask}
    (stepped : server.GatewayStep zstd ref task input after next)
    (ends : (ServerAction.gateway ref input).ends = true) : next.work < task.work := by
  cases stepped with
  | handling stepped =>
      cases stepped <;> simp [GatewayTask.work, HandleGatewayConnection.work, ClientExchange.work]
  | exchanging stepped =>
      cases stepped with
      | receive => cases ends
      | removing removal => exact Nat.add_lt_add_left (removal.work _ rfl) _
      | @removed point =>
          exact Nat.lt_add_of_pos_right (RemoveLink.work_pos point)
      | cleanup cleaning => exact cleaning.work _ rfl
      | cleaned => exact CleanupClient.work_pos _
      | _ => simp [GatewayTask.work, ClientExchange.work, CleanupClient.work]

def sessionCount (server : GatewayServer) : Nat := FiniteMap.size server.clientSessions

theorem GatewayStep.sessionCount {ref : ConnectionRef} {task next : GatewayTask}
    (stepped : server.GatewayStep zstd ref task input after next) :
    after.sessionCount ≤ server.sessionCount + 1 := by
  have erased : ∀ addr, FiniteMap.size (server.clientSessions.erase addr) ≤
      FiniteMap.size server.clientSessions + 1 :=
    fun addr => Nat.le_succ_of_le (FiniteMap.size_erase_le _ addr)
  cases stepped with
  | handling stepped =>
      cases stepped with
      | evict => exact erased _
      | evictNone => exact erased _
      | insertSession => exact FiniteMap.size_insert_le _ _ _
      | _ => exact Nat.le_succ _
  | exchanging stepped =>
      cases stepped with
      | sendPong sent =>
          rcases sent with ⟨_, _, rfl⟩
          exact Nat.le_succ _
      | removing removal => cases removal <;> exact Nat.le_succ _
      | removed removal => cases removal <;> exact Nat.le_succ _
      | cleanup cleaning =>
          cases cleaning with
          | session => exact erased _
          | _ => exact Nat.le_succ _
      | cleaned cleaning => cases cleaning <;> exact Nat.le_succ _
      | _ => exact Nat.le_succ _

/-- Each session takes a shutdown two steps. -/
theorem ShutdownStep.work {task next : ShutdownTask}
    (stepped : server.ShutdownStep task input after next) :
    2 * after.sessionCount + next.work < 2 * server.sessionCount + task.work := by
  cases stepped with
  | closeSession found =>
      have fewer := FiniteMap.size_erase_lt found
      simp only [GatewayServer.sessionCount, ShutdownTask.work]
      omega
  | _ => exact Nat.add_lt_add_left (by simp [ShutdownTask.work]) _

end GatewayServer

/-! ## Progress -/

theorem GatewayServer.exists_send (zstd : Zstd) (server : GatewayServer) (writer : ConnectionRef)
    (call : SendCall) : ∃ outcome after, server.send zstd writer call outcome = some after := by
  rcases server.sockets.exists_send zstd writer call with ⟨outcome, after, sent⟩
  exact ⟨outcome, _, Option.map_eq_some_iff.mpr ⟨after, sent, rfl⟩⟩

def AppTask.Ended (task : AppTask) : Prop := task = .absent ∨ task = .finished

def GatewayTask.Ended (task : GatewayTask) : Prop :=
  task = .absent ∨ task = .rejected ∨ task = .finished

def AppTask.Resting (task : AppTask) : Prop :=
  task.Ended ∨ ∃ linkId writer, task = .exchanging linkId writer .read

def GatewayTask.Resting (task : GatewayTask) : Prop :=
  task.Ended ∨ ∃ addr sessionId, task = .exchanging addr sessionId .receive

def ShutdownTask.Ended (task : ShutdownTask) : Prop := task = .absent ∨ task = .finished

namespace GatewayServer

variable {zstd : Zstd} {server : GatewayServer}

theorem exists_lookup_of_ne_empty (some_ : server.clientSessions ≠ ∅) :
    ∃ addr session, server.clientSessions.lookup addr = some session := by
  rcases Server.hasSession_of_ne_empty some_ with ⟨⟨addr, _⟩, session, found, _⟩
  exact ⟨addr, session, found⟩

theorem exists_handleAppConnection (zstd : Zstd) (ref : LinkRef) (server : GatewayServer)
    (point : HandleAppConnection) : ∃ input result, input.fromOutside = false ∧
        server.handleAppConnection zstd ref point input = some result := by
  cases point with
  | pickClient =>
      by_cases none : server.clientSessions = ∅
      · exact ⟨.go, _, rfl, if_pos none⟩
      · rcases exists_lookup_of_ne_empty none with ⟨addr, session, found⟩
        exact ⟨.client addr, _, rfl, Option.map_eq_some_iff.mpr ⟨session, found, rfl⟩⟩
  | sendOpen linkId writer packetId =>
      rcases server.exists_send zstd writer (PacketGW.new .open_ packetId linkId 0, none) with
        ⟨outcome, after, sent⟩
      exact ⟨.write outcome, _, rfl, Option.map_eq_some_iff.mpr ⟨after, sent, rfl⟩⟩
  | _ => exact ⟨.go, _, rfl, rfl⟩

theorem exists_appExchange (zstd : Zstd) (ref : LinkRef) (linkId : UInt16)
    (writer : ConnectionRef) (server : GatewayServer) {point : AppExchange}
    (busy : point ≠ .read) : ∃ input result, input.fromOutside = false ∧
      server.appExchange zstd ref linkId writer point input = some result := by
  cases point with
  | read => exact absurd rfl busy
  | sendRegular bytes packetId =>
      rcases server.exists_send zstd writer
        (PacketGW.new .regular packetId linkId (UInt16.ofNat bytes.length), some bytes) with
        ⟨outcome, after, sent⟩
      exact ⟨.write outcome, _, rfl, Option.map_eq_some_iff.mpr ⟨after, sent, rfl⟩⟩
  | sendClose packetId =>
      rcases server.exists_send zstd writer (PacketGW.new .close packetId linkId 0, none) with
        ⟨outcome, after, sent⟩
      exact ⟨.write outcome, _, rfl, Option.map_eq_some_iff.mpr ⟨after, sent, rfl⟩⟩
  | _ => exact ⟨.go, _, rfl, rfl⟩

theorem exists_appStep (zstd : Zstd) (ref : LinkRef) (server : GatewayServer) {task : AppTask}
    (busy : ¬ task.Resting) : ∃ input result, input.fromOutside = false ∧
      server.appStep zstd ref task input = some result := by
  cases task with
  | absent => exact absurd (.inl (.inl rfl)) busy
  | finished => exact absurd (.inl (.inr rfl)) busy
  | handling point => exact exists_handleAppConnection zstd ref server point
  | exchanging linkId writer point =>
      refine exists_appExchange zstd ref linkId writer server fun read => ?_
      exact busy (.inr ⟨linkId, writer, by rw [read]⟩)

theorem exists_cleanupClient (addr : SocketAddr) (sessionId : Uuid) (server : GatewayServer)
    (point : CleanupClient) : ∃ input result, input.fromOutside = false ∧
      server.cleanupClient addr sessionId point input = some result := by
  cases point with
  | links remaining =>
      rcases remaining.eq_empty_or_nonempty with none | ⟨linkId, member⟩
      · exact ⟨.go, _, rfl, if_pos none⟩
      · exact ⟨.link linkId, _, rfl, if_pos member⟩
  | session =>
      refine ⟨.go, ?_⟩
      unfold cleanupClient
      dsimp only
      split
      · split <;> exact ⟨_, rfl, rfl⟩
      · exact ⟨_, rfl, rfl⟩
  | check =>
      refine ⟨.go, ?_⟩
      unfold cleanupClient
      dsimp only
      split <;> exact ⟨_, rfl, rfl⟩
  | _ => exact ⟨.go, _, rfl, rfl⟩

theorem exists_clientExchange (zstd : Zstd) (ref : ConnectionRef) (addr : SocketAddr)
    (sessionId : Uuid) (server : GatewayServer) {point : ClientExchange}
    (busy : point ≠ .receive) : ∃ input result, input.fromOutside = false ∧
      server.clientExchange zstd ref addr sessionId point input = some result := by
  cases point with
  | receive => exact absurd rfl busy
  | sendPong packetId =>
      rcases server.exists_send zstd ref (PacketGW.new .pong packetId 0 0, none) with
        ⟨outcome, after, sent⟩
      exact ⟨.write outcome, _, rfl, Option.map_eq_some_iff.mpr ⟨after, sent, rfl⟩⟩
  | regularLookup linkId payload =>
      refine ⟨.go, ?_⟩
      unfold clientExchange
      dsimp only
      split <;> exact ⟨_, rfl, rfl⟩
  | regularWrite link payload =>
      rcases (server.base.link link).exists_sendPacket payload with ⟨outcome, after, sent⟩
      exact ⟨.write outcome, _, rfl, Option.map_eq_some_iff.mpr ⟨after, sent, rfl⟩⟩
  | openedLookup linkId =>
      refine ⟨.go, ?_⟩
      unfold clientExchange
      dsimp only
      split <;> exact ⟨_, rfl, rfl⟩
  | cleanup point =>
      rcases exists_cleanupClient addr sessionId server point with
        ⟨input, result, inside, cleaned⟩
      exact ⟨input, _, inside, Option.map_eq_some_iff.mpr ⟨result, cleaned, rfl⟩⟩
  | _ => exact ⟨.go, _, rfl, rfl⟩

theorem exists_gatewayStep (zstd : Zstd) (ref : ConnectionRef) (server : GatewayServer)
    {task : GatewayTask} (busy : ¬ task.Resting) : ∃ input result, input.fromOutside = false ∧
      server.gatewayStep zstd ref task input = some result := by
  cases task with
  | absent => exact absurd (.inl (.inl rfl)) busy
  | rejected => exact absurd (.inl (.inr (.inl rfl))) busy
  | finished => exact absurd (.inl (.inr (.inr rfl))) busy
  | exchanging addr sessionId point =>
      refine exists_clientExchange zstd ref addr sessionId server fun receive => ?_
      exact busy (.inr ⟨addr, sessionId, by rw [receive]⟩)
  | handling addr point =>
      cases point with
      | evict =>
          refine ⟨.go, ?_⟩
          unfold gatewayStep handleGatewayConnection
          dsimp only
          split <;> exact ⟨_, rfl, rfl⟩
      | authenticate => exact ⟨.verdict false, _, rfl, rfl⟩
      | saveSession => exact ⟨.session 0, _, rfl, rfl⟩
      | _ => exact ⟨.go, _, rfl, rfl⟩

/-- A shutdown that holds the guard of `client_sessions` can go on. -/
theorem exists_shutdownStep (server : GatewayServer) {task : ShutdownTask}
    (running : ¬ task.Ended) : ∃ input result, server.shutdownStep task input = some result := by
  cases task with
  | absent => exact absurd (.inl rfl) running
  | finished => exact absurd (.inr rfl) running
  | closeSession =>
      by_cases none : server.clientSessions = ∅
      · exact ⟨.go, _, if_pos none⟩
      · rcases exists_lookup_of_ne_empty none with ⟨addr, session, found⟩
        exact ⟨.client addr, _, Option.map_eq_some_iff.mpr ⟨session, found, rfl⟩⟩
  | _ => exact ⟨.go, _, rfl⟩

end GatewayServer

/-! ## The whole server -/

namespace Server

variable {zstd : Zstd} {server next : Server} {action : ServerAction}

def Ends (_ : Server) (action : ServerAction) : Prop := action.ends = true

/-- What all tasks have left to do. A connection that is being set up may add a session. -/
def work (server : Server) : Nat :=
  totalWork AppTask.work server.appCount server.app +
    3 * totalWork GatewayTask.work server.gatewayCount server.gateway +
    (2 * server.shared.sessionCount + server.shutdown.work)

theorem work_lt_of_step (slots : SlotsInOrder server) (ends : Ends server action)
    (stepped : step zstd server action = some next) : next.work < server.work := by
  cases transition_of_step stepped with
  | @app slot input shared task moved =>
      have below : slot < server.appCount := slots.app_lt fun absent => by
        rw [absent] at moved
        cases moved
      have less := totalWork_update_lt below (moved.work ends)
      have sessions : shared.sessionCount = server.shared.sessionCount :=
        congrArg FiniteMap.size moved.sameSessions.clientSessions
      unfold work
      dsimp only
      omega
  | @gateway slot input shared task moved =>
      have below : slot < server.gatewayCount := slots.gateway_lt fun absent => by
        rw [absent] at moved
        cases moved
      have less := totalWork_update_lt below (moved.work ends)
      have sessions := moved.sessionCount
      unfold work
      dsimp only
      omega
  | shutdown moved => exact Nat.add_lt_add_left moved.work _
  | _ => cases ends

structure Over (server : Server) : Prop where
  quiescent : server.Quiescent
  shutdown : server.shutdown.Ended

theorem exists_step_of_app {ref : LinkRef} {input : Input} {result : GatewayServer × AppTask}
    (unlocked : server.shutdown.holdsSessions = false)
    (moved : server.shared.appStep zstd ref (server.app ref) input = some result) :
    ∃ next, step zstd server (.app ref input) = some next := by
  simp only [step, unlocked, Bool.false_and, Bool.false_eq_true, if_false, moved]
  exact ⟨_, rfl⟩

theorem exists_step_of_gateway {ref : ConnectionRef} {input : Input}
    {result : GatewayServer × GatewayTask} (unlocked : server.shutdown.holdsSessions = false)
    (moved : server.shared.gatewayStep zstd ref (server.gateway ref) input = some result) :
    ∃ next, step zstd server (.gateway ref input) = some next := by
  simp only [step, unlocked, Bool.false_and, Bool.false_eq_true, if_false, moved]
  exact ⟨_, rfl⟩

theorem exists_step_of_shutdown (zstd : Zstd) (running : ¬ server.shutdown.Ended) :
    ∃ input next, step zstd server (.shutdown input) = some next := by
  rcases server.shared.exists_shutdownStep running with ⟨input, result, moved⟩
  exact ⟨input, _, Option.map_eq_some_iff.mpr ⟨result, moved, rfl⟩⟩

theorem unlocked_of_ended (ended : server.shutdown.Ended) :
    server.shutdown.holdsSessions = false := by
  rcases ended with equal | equal <;> rw [equal] <;> rfl

theorem exists_app_of_not_ended (unlocked : server.shutdown.holdsSessions = false)
    (ref : LinkRef) (running : ¬ (server.app ref).Ended) :
    ∃ action next, Ends server action ∧ step zstd server action = some next := by
  by_cases resting : (server.app ref).Resting
  · rcases resting with ended | ⟨linkId, writer, run⟩
    · exact absurd ended running
    · rcases @exists_step_of_app zstd server ref .ended _ unlocked (by rw [run]; rfl) with
        ⟨next, stepped⟩
      exact ⟨.app ref .ended, next, rfl, stepped⟩
  · rcases server.shared.exists_appStep zstd ref resting with ⟨input, result, inside, moved⟩
    rcases exists_step_of_app unlocked moved with ⟨next, stepped⟩
    refine ⟨.app ref input, next, ?_, stepped⟩
    cases input <;> first | rfl | cases inside

theorem exists_gateway_of_not_ended (unlocked : server.shutdown.holdsSessions = false)
    (ref : ConnectionRef) (running : ¬ (server.gateway ref).Ended) :
    ∃ action next, Ends server action ∧ step zstd server action = some next := by
  by_cases resting : (server.gateway ref).Resting
  · rcases resting with ended | ⟨addr, sessionId, run⟩
    · exact absurd ended running
    · rcases @exists_step_of_gateway zstd server ref .ended _ unlocked (by rw [run]; rfl) with
        ⟨next, stepped⟩
      exact ⟨.gateway ref .ended, next, rfl, stepped⟩
  · rcases server.shared.exists_gatewayStep zstd ref resting with ⟨input, result, inside, moved⟩
    rcases exists_step_of_gateway unlocked moved with ⟨next, stepped⟩
    refine ⟨.gateway ref input, next, ?_, stepped⟩
    cases input <;> first | rfl | cases inside

/-- A shutdown waits for nobody, and once it is over neither does any other task. -/
theorem exists_step_of_not_over (busy : ¬ server.Over) :
    ∃ action next, Ends server action ∧ step zstd server action = some next := by
  by_cases ended : server.shutdown.Ended
  · have unlocked := unlocked_of_ended ended
    by_cases apps : ∀ ref, (server.app ref).Ended
    · have running : ∃ ref, ¬ (server.gateway ref).Ended := by
        by_contra none
        exact busy ⟨⟨apps, fun ref => not_not.mp fun running => none ⟨ref, running⟩⟩, ended⟩
      rcases running with ⟨ref, running⟩
      exact exists_gateway_of_not_ended unlocked ref running
    · rcases not_forall.mp apps with ⟨ref, running⟩
      exact exists_app_of_not_ended unlocked ref running
  · rcases exists_step_of_shutdown zstd ended with ⟨input, next, stepped⟩
    exact ⟨.shutdown input, next, rfl, stepped⟩

theorem drains (zstd : Zstd) :
    (system zstd).Drains Ends (system zstd).Reachable work Over where
  kept := fun _ _ _ reachable _ stepped => .step reachable trivial stepped
  less := fun _ _ _ reachable ends stepped =>
    work_lt_of_step (slotsInOrder_of_reachable reachable) ends stepped
  progress := fun _ _ busy => exists_step_of_not_over busy

/-- From every reachable state, in the middle of a shutdown too, once nothing more comes from
outside: whatever the writes do and however the tasks interleave, no run goes on for more
steps than there is work; a run that cannot go on has left no task running; and from
wherever it is, it can be brought to that end. -/
theorem server_winds_down (zstd : Zstd) (server : Server)
    (reachable : (system zstd).Reachable server) :
    (∀ count final, (system zstd).ReachesIn Ends server count final →
      count + final.work ≤ server.work ∧
      ((∀ action next, Ends final action → step zstd final action ≠ some next) →
        final.Over)) ∧
    ∃ count final, (system zstd).ReachesIn Ends server count final ∧ final.Over := by
  refine ⟨fun count final run => ?_, (drains zstd).exists_done reachable⟩
  refine ⟨(drains zstd).count_add_work_le reachable run, fun stuck => ?_⟩
  by_contra busy
  rcases (drains zstd).progress final ((drains zstd).known_of_run reachable run) busy with
    ⟨action, next, ends, stepped⟩
  exact stuck action next ends stepped

theorem server_winds_down_oneOpenLink :
    ∃ server : Server, server.app 0 = .exchanging 1 0 .read ∧
      ∃ count final, (system .runLength).ReachesIn Ends server count final ∧
        count ≤ server.work ∧ final.Over := by
  have executed : ((system .runLength).runChecked (fun _ _ => true)
      .new oneOpenLink).any (fun server => server.app 0 = .exchanging 1 0 .read) = true := by
    decide +kernel
  rcases TransitionSystem.exists_reaches_of_runChecked executed with ⟨server, reaches, found⟩
  have winds := server_winds_down .runLength server reaches.always
  rcases winds.2 with ⟨count, final, run, ended⟩
  have bounded := (winds.1 count final run).1
  exact ⟨server, of_decide_eq_true found, count, final, run,
    Nat.le_trans (Nat.le_add_right _ _) bounded, ended⟩

end Server

end IoGateway

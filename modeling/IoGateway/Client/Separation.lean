import IoGateway.Client.Epochs
import IoGateway.Client.Sending

/-! # Separation of the sessions of the client

What is received on a gateway connection reaches only applications that were
opened on it, and what an application sends goes only to the connection on which
its link was opened.
-/

namespace IoGateway

def Opens (frames : List SendCall) (linkId : UInt16) : Prop :=
  ∃ packet data, packet.packetType = .open_ ∧ packet.linkId = linkId ∧ (packet, data) ∈ frames

theorem Opens.mono {frames more : List SendCall} {linkId : UInt16} (opens : Opens frames linkId)
    (grown : frames <+: more) : Opens more linkId := by
  rcases opens with ⟨packet, data, type, id, member⟩
  exact ⟨packet, data, type, id, grown.subset member⟩

/-- The last of the received frames is the one the program point works on. -/
def GatewayExchange.Handles (frames : List SendCall) : GatewayExchange → Prop
  | .connecting (.connect linkId) | .connecting (.addLink linkId) =>
      ∃ packet data, packet.packetType = .open_ ∧ packet.linkId = linkId ∧
        frames.getLast? = some (packet, data)
  | .forward linkId payload =>
      ∃ packet, packet.packetType = .regular ∧ packet.linkId = linkId ∧
        frames.getLast? = some (packet, some payload)
  | _ => True

/-- The chunk that the forwarding loop has read and not yet counted as sent. -/
def ClientAppExchange.chunk? : ClientAppExchange → Option Bytes
  | .regularId bytes => some bytes
  | .sendRegular bytes _ => some bytes
  | _ => none

namespace Client

variable {zstd : Zstd} {client next : Client} {action : ClientAction} {input : Input}

/-! ## What a step does to the data of the links -/

structure LinksQuiet (client next : Client) : Prop where
  kept : client.shared.LinksKept next.shared
  linkCount : next.linkCount = client.linkCount
  quiet : ∀ link, (client.shared.base.link link).Quiet (next.shared.base.link link)

inductive DataStep (client : Client) : ClientAction → Client → Prop
  | quiet {action : ClientAction} {next : Client} (quiet : LinksQuiet client next) :
      DataStep client action next
  | created {connection : ConnectionRef} {linkId : UInt16} {next : Client}
      (run : client.run = .onConnection connection
        (.exchanging (.connecting (.addLink linkId))))
      (links : next.shared.base.links =
        client.shared.base.links.insert linkId client.linkCount)
      (link : next.shared.base.link =
        Function.update client.shared.base.link client.linkCount (Link.new linkId))
      (openedOn : next.shared.openedOn =
        Function.update client.shared.openedOn client.linkCount connection)
      (linkCount : next.linkCount = client.linkCount + 1) :
      DataStep client (.run .go) next
  | forwarded {connection : ConnectionRef} {linkId : UInt16} {payload : Bytes}
      {outcome : WriteOutcome} {link : LinkRef} {written : Link} {next : Client}
      (run : client.run = .onConnection connection (.exchanging (.forward linkId payload)))
      (found : client.shared.base.links.lookup linkId = some link)
      (sent : (client.shared.base.link link).sendPacket payload outcome = some written)
      (shared : next.shared = client.shared.updateLink link fun _ => written)
      (linkCount : next.linkCount = client.linkCount) :
      DataStep client (.run (.write outcome)) next
  | read {link : LinkRef} {linkId : UInt16} {writer : ConnectionRef} {bytes : Bytes}
      {next : Client} (running : client.app link = .running linkId writer .read)
      (shared : next.shared = client.shared.updateLink link (Link.receive · bytes))
      (linkCount : next.linkCount = client.linkCount) :
      DataStep client (.app link (.chunk bytes)) next

theorem LinksQuiet.ofSame (kept : client.shared.LinksKept next.shared)
    (linkCount : next.linkCount = client.linkCount)
    (same : next.shared.base.link = client.shared.base.link) : LinksQuiet client next :=
  ⟨kept, linkCount, fun _ => same ▸ .refl _⟩

theorem LinksQuiet.ofUpdate {link : LinkRef} (update : Link → Link)
    (kept : client.shared.LinksKept next.shared) (linkCount : next.linkCount = client.linkCount)
    (updated : next.shared.base.link =
      Function.update client.shared.base.link link (update (client.shared.base.link link)))
    (quiet : ∀ before : Link, before.Quiet (update before)) : LinksQuiet client next := by
  refine ⟨kept, linkCount, ?_⟩
  intro other
  rw [updated]
  by_cases equal : other = link
  · subst equal
    rw [Function.update_self]
    exact quiet _
  · rw [Function.update_of_ne equal]
    exact .refl _

theorem LinksQuiet.closeAllLinks {run : RunTask} {shutdown : ClientShutdown} :
    LinksQuiet client { client with
      shared := client.shared.updateBase client.shared.base.closeAllLinks
      run := run
      shutdown := shutdown } := by
  refine ⟨⟨fun linkId link found => ?_, rfl⟩, rfl, ?_⟩
  · cases found
  intro link
  simp only [GatewayClient.updateBase, Gateway.closeAllLinks]
  split
  · exact Link.quiet_closeConnection _
  · exact .refl _

theorem ExchangeStep.dataStep {connection : ConnectionRef} {point : GatewayExchange}
    (stepped : ExchangeStep zstd connection client point input next)
    (run : client.run = .onConnection connection (.exchanging point)) :
    DataStep client (.run input) next := by
  have same : client.shared.LinksKept client.shared := .refl _
  cases stepped with
  | connecting stepped =>
      cases stepped with
      | addLink => exact .created run rfl rfl rfl rfl
      | setConnected =>
          exact .quiet (.ofUpdate (Link.setState · .connected) ⟨fun _ _ found => found, rfl⟩ rfl
            rfl fun _ => ⟨rfl, rfl, rfl, rfl⟩)
      | sendOpened sent => exact .quiet (.ofSame sent.linksKept rfl (by simp [sent.base]))
      | sendOpenFail sent => exact .quiet (.ofSame sent.linksKept rfl (by simp [sent.base]))
      | _ => exact .quiet (.ofSame ⟨fun _ _ found => found, rfl⟩ rfl rfl)
  | sendPong sent => exact .quiet (.ofSame sent.linksKept rfl (by simp [sent.base]))
  | removeFound =>
      exact .quiet (.ofSame ⟨fun _ _ found => (FiniteMap.lookup_of_erase found).2, rfl⟩ rfl rfl)
  | removeAbsent =>
      exact .quiet (.ofSame ⟨fun _ _ found => (FiniteMap.lookup_of_erase found).2, rfl⟩ rfl rfl)
  | closeLink =>
      exact .quiet (.ofUpdate Link.closeConnection ⟨fun _ _ found => found, rfl⟩ rfl rfl
        Link.quiet_closeConnection)
  | forward found sent => exact .forwarded run found sent rfl rfl
  | _ => exact .quiet (.ofSame ⟨fun _ _ found => found, rfl⟩ rfl rfl)

theorem RunStep.dataStep (stepped : RunStep zstd client client.run input next) :
    DataStep client (.run input) next := by
  generalize run : client.run = task at stepped
  cases stepped with
  | onConnection stepped =>
      cases stepped with
      | exchanging stepped => exact stepped.dataStep run
      | _ => exact .quiet (.ofSame ⟨fun _ _ found => found, rfl⟩ rfl rfl)
  | onDisconnection stepped =>
      cases stepped with
      | closeAllLinks => exact .quiet .closeAllLinks
      | _ => exact .quiet (.ofSame ⟨fun _ _ found => found, rfl⟩ rfl rfl)
  | _ => exact .quiet (.ofSame ⟨fun _ _ found => found, rfl⟩ rfl rfl)

theorem dataStep_of_step (stepped : step zstd client action = some next) :
    DataStep client action next := by
  cases transition_of_step stepped with
  | run moved => exact moved.dataStep
  | @app link input shared task moved =>
      generalize running : client.app link = before at moved
      cases moved with
      | read => exact .read running rfl rfl
      | sendRegular sent => exact .quiet (.ofSame sent.linksKept rfl (by simp [sent.base]))
      | sendFailed sent => exact .quiet (.ofSame sent.linksKept rfl (by simp [sent.base]))
      | sendClose sent => exact .quiet (.ofSame sent.linksKept rfl (by simp [sent.base]))
      | @addIncoming _ _ bytes =>
          exact .quiet (.ofUpdate (Link.addIncoming · (UInt64.ofNat bytes.length))
            ⟨fun _ _ found => found, rfl⟩ rfl rfl fun _ => ⟨rfl, rfl, rfl, rfl⟩)
      | removeLink =>
          exact .quiet
            (.ofSame ⟨fun _ _ found => (FiniteMap.lookup_of_erase found).2, rfl⟩ rfl rfl)
      | _ => exact .quiet (.ofSame ⟨fun _ _ found => found, rfl⟩ rfl rfl)
  | @ping writer input shared task moved =>
      generalize client.ping writer = before at moved
      cases moved with
      | sendPing sent => exact .quiet (.ofSame sent.linksKept rfl (by simp [sent.base]))
      | sendFailed sent => exact .quiet (.ofSame sent.linksKept rfl (by simp [sent.base]))
      | _ => exact .quiet (.ofSame ⟨fun _ _ found => found, rfl⟩ rfl rfl)
  | command moved =>
      generalize client.command = before at moved
      cases moved with
      | pingId => exact .quiet (.ofSame ⟨fun _ _ found => found, rfl⟩ rfl rfl)
      | sendPing sent => exact .quiet (.ofSame sent.linksKept rfl (by simp [sent.base]))
  | shutdown moved =>
      generalize client.shutdown = task at moved
      cases moved with
      | closeAllLinks => exact .quiet .closeAllLinks
      | _ => exact .quiet (.ofSame ⟨fun _ _ found => found, rfl⟩ rfl rfl)
  | _ => exact .quiet (.ofSame ⟨fun _ _ found => found, rfl⟩ rfl rfl)

theorem linkCount_le_of_step (stepped : step zstd client action = some next) :
    client.linkCount ≤ next.linkCount := by
  cases dataStep_of_step stepped with
  | quiet quiet => exact Nat.le_of_eq quiet.linkCount.symm
  | created run links link openedOn linkCount => exact linkCount ▸ Nat.le_succ _
  | forwarded run found sent shared linkCount => exact Nat.le_of_eq linkCount.symm
  | read running shared linkCount => exact Nat.le_of_eq linkCount.symm

/-! ## Where the links come from -/

/-- `opened` says which frame each link was made for, `read` what its task holds. -/
structure Origins (client : Client) : Prop where
  unused : ∀ link, client.linkCount ≤ link → (client.shared.base.link link).writer.written = []
  opened : ∀ link, link < client.linkCount →
    Opens (client.shared.sockets.received (client.shared.openedOn link))
      (client.shared.base.link link).connectionId
  registered : ∀ linkId link, client.shared.base.links.lookup linkId = some link →
    (client.shared.base.link link).connectionId = linkId
  handled : ∀ connection point, client.run = .onConnection connection (.exchanging point) →
    point.Handles (client.shared.sockets.received connection)
  read : ∀ link linkId writer point bytes, client.app link = .running linkId writer point →
    point.chunk? = some bytes → bytes <:+ (client.shared.base.link link).received

theorem origins_new : Origins Client.new where
  unused := fun _ _ => rfl
  opened := fun link below => absurd below (Nat.not_lt_zero link)
  registered := fun _ _ found => by cases found
  handled := fun _ _ run => by cases run
  read := fun _ _ _ _ _ running => by cases running

theorem DataStep.existing (moved : DataStep client action next) {link : LinkRef}
    (exists_ : link < client.linkCount) :
    (next.shared.base.link link).connectionId = (client.shared.base.link link).connectionId ∧
      next.shared.openedOn link = client.shared.openedOn link := by
  cases moved with
  | quiet quiet => exact ⟨(quiet.quiet link).connectionId, by rw [quiet.kept.openedOn]⟩
  | created run links created openedOn =>
      rw [created, openedOn, Function.update_of_ne (Nat.ne_of_lt exists_),
        Function.update_of_ne (Nat.ne_of_lt exists_)]
      exact ⟨rfl, rfl⟩
  | @forwarded connection linkId payload outcome other written next run found sent shared =>
      rw [shared]
      refine ⟨?_, rfl⟩
      by_cases equal : link = other
      · subst equal
        simpa [Gateway.updateLink] using (Link.sendPacketStep_of_eq sent).data.1
      · simp [Gateway.updateLink, equal]
  | @read other linkId writer bytes next running shared =>
      rw [shared]
      refine ⟨?_, rfl⟩
      by_cases equal : link = other
      · subst equal
        simp [Gateway.updateLink, Link.receive]
      · simp [Gateway.updateLink, equal]

theorem connectionId_of_step {link : LinkRef} (exists_ : link < client.linkCount)
    (stepped : step zstd client action = some next) :
    (next.shared.base.link link).connectionId = (client.shared.base.link link).connectionId :=
  ((dataStep_of_step stepped).existing exists_).1

theorem Origins.unused_dataStep (origins : Origins client) (epochs : Epochs client)
    (moved : DataStep client action next) {link : LinkRef} (unused : next.linkCount ≤ link) :
    (next.shared.base.link link).writer.written = [] := by
  cases moved with
  | quiet quiet =>
      rw [(quiet.quiet link).written]
      exact origins.unused link (quiet.linkCount ▸ unused)
  | created run links created openedOn linkCount =>
      have later : client.linkCount < link := by omega
      rw [created, Function.update_of_ne (Nat.ne_of_gt later)]
      exact origins.unused link (Nat.le_of_lt later)
  | @forwarded connection linkId payload outcome other written next run found sent shared
      linkCount =>
      rw [linkCount] at unused
      have different : link ≠ other :=
        Nat.ne_of_gt (Nat.lt_of_lt_of_le (epochs.links linkId other found).2 unused)
      simpa [shared, Gateway.updateLink, different] using
        origins.unused link unused
  | @read other linkId writer bytes next running shared linkCount =>
      rw [linkCount] at unused
      have different : link ≠ other :=
        Nat.ne_of_gt (Nat.lt_of_lt_of_le (epochs.tasks other linkId writer .read running).2 unused)
      simpa [shared, Gateway.updateLink, different] using
        origins.unused link unused

theorem Origins.opened_dataStep (origins : Origins client)
    (moved : DataStep client action next)
    (received : ∀ connection, client.shared.sockets.received connection <+:
      next.shared.sockets.received connection)
    {link : LinkRef} (exists_ : link < next.linkCount) :
    Opens (next.shared.sockets.received (next.shared.openedOn link))
      (next.shared.base.link link).connectionId := by
  by_cases older : link < client.linkCount
  · have existing := moved.existing older
    rw [existing.1, existing.2]
    exact (origins.opened link older).mono (received _)
  · cases moved with
    | @created connection linkId next run links created openedOn linkCount =>
        rw [linkCount] at exists_
        have newest : link = client.linkCount :=
          Nat.le_antisymm (Nat.le_of_lt_succ exists_) (Nat.le_of_not_lt older)
        rcases origins.handled _ _ run with ⟨packet, data, type, id, last⟩
        rw [newest, created, openedOn, Function.update_self, Function.update_self]
        exact Opens.mono ⟨packet, data, type, id, List.mem_of_getLast? last⟩ (received _)
    | quiet quiet => exact absurd (quiet.linkCount ▸ exists_) older
    | forwarded run found sent shared linkCount => exact absurd (linkCount ▸ exists_) older
    | read running shared linkCount => exact absurd (linkCount ▸ exists_) older

theorem Origins.registered_dataStep (origins : Origins client) (epochs : Epochs client)
    (moved : DataStep client action next) {linkId : UInt16} {link : LinkRef}
    (found : next.shared.base.links.lookup linkId = some link) :
    (next.shared.base.link link).connectionId = linkId := by
  have shrunk : client.shared.base.links.lookup linkId = some link →
      (next.shared.base.link link).connectionId = linkId := by
    intro before
    rw [(moved.existing (epochs.links linkId link before).2).1]
    exact origins.registered linkId link before
  cases moved with
  | created run links created =>
      rw [links, FiniteMap.lookup_insert] at found
      split at found
      · rename_i equal
        cases found
        rw [created, Function.update_self, equal]
        rfl
      · exact shrunk found
  | quiet quiet => exact shrunk (quiet.kept.shrink linkId link found)
  | forwarded run registered sent shared => exact shrunk (by rw [shared] at found; exact found)
  | read running shared => exact shrunk (by rw [shared] at found; exact found)

/-! ## What the program points hold -/

theorem dispatch_handles {packet : PacketGW} {data : Option Bytes} {point : GatewayExchange}
    {frames : List SendCall} (dispatched : GatewayClient.dispatch packet data = some point) :
    point.Handles (frames ++ [(packet, data)]) := by
  unfold GatewayClient.dispatch at dispatched
  split at dispatched
  · cases dispatched; trivial
  · rename_i type
    cases dispatched
    exact ⟨packet, data, type, rfl, List.getLast?_concat⟩
  · cases dispatched; trivial
  · rename_i type
    split at dispatched
    · cases dispatched
      exact ⟨packet, type, rfl, List.getLast?_concat⟩
    · cases dispatched; trivial
  · cases dispatched
  · cases dispatched; trivial

theorem RunStep.handles (stepped : RunStep zstd client client.run input next)
    (handled : ∀ connection point, client.run = .onConnection connection (.exchanging point) →
      point.Handles (client.shared.sockets.received connection)) :
    ∀ connection point, next.run = .onConnection connection (.exchanging point) →
      point.Handles (next.shared.sockets.received connection) := by
  intro connection point nextRun
  generalize run : client.run = task at stepped
  cases stepped with
  | onConnection stepped =>
      cases stepped with
      | exchanging stepped =>
          cases stepped with
          | receive dispatched =>
              cases nextRun
              simpa [GatewaySockets.receive] using dispatch_handles dispatched
          | connecting stepped =>
              cases stepped with
              | connected =>
                  cases nextRun
                  exact handled connection (.connecting (.connect _)) run
              | spawn => cases nextRun; trivial
              | _ => cases nextRun; trivial
          | denied => cases nextRun
          | ended => cases nextRun
          | _ => cases nextRun; trivial
      | startPing => cases nextRun; trivial
      | _ => cases nextRun
  | onDisconnection stepped => cases stepped <;> cases nextRun
  | _ => cases nextRun

theorem Origins.handles_step (origins : Origins client)
    (stepped : step zstd client action = some next) :
    ∀ connection point, next.run = .onConnection connection (.exchanging point) →
      point.Handles (next.shared.sockets.received connection) := by
  have kept : next.run = client.run →
      next.shared.sockets.received = client.shared.sockets.received →
      ∀ connection point, next.run = .onConnection connection (.exchanging point) →
        point.Handles (next.shared.sockets.received connection) := by
    intro run received
    rw [run, received]
    exact origins.handled
  have received := receivedStep_of_step stepped
  cases transition_of_step stepped with
  | run moved => exact moved.handles origins.handled
  | shutdown moved =>
      generalize client.shutdown = task at moved
      cases moved <;> exact kept rfl rfl
  | _ =>
      cases received with
      | kept same => exact kept rfl same

theorem chunk_suffix_of_appStep {shared after : GatewayClient} {link : LinkRef}
    {task following : ClientAppTask} (stepped : shared.AppStep zstd link task input after following)
    (read : ∀ linkId writer point bytes, task = .running linkId writer point →
      point.chunk? = some bytes → bytes <:+ (shared.base.link link).received) :
    ∀ linkId writer point bytes, following = .running linkId writer point →
      point.chunk? = some bytes → bytes <:+ (after.base.link link).received := by
  intro linkId writer point bytes running chunk
  cases stepped with
  | read =>
      cases running
      cases chunk
      simp [Gateway.updateLink, Link.receive]
  | regularId =>
      cases running
      exact read linkId writer _ bytes rfl chunk
  | _ => cases running <;> cases chunk

theorem RunStep.app (stepped : RunStep zstd client client.run input next) :
    next.app = client.app ∨ ∃ connection linkId link,
      client.run = .onConnection connection (.exchanging (.connecting (.spawn linkId link))) ∧
      next.app = Function.update client.app link (.running linkId connection .read) := by
  generalize run : client.run = task at stepped
  cases stepped with
  | onConnection stepped =>
      cases stepped with
      | exchanging stepped =>
          cases stepped with
          | connecting stepped =>
              cases stepped with
              | spawn => exact .inr ⟨_, _, _, rfl, rfl⟩
              | _ => exact .inl rfl
          | _ => exact .inl rfl
      | _ => exact .inl rfl
  | onDisconnection stepped => cases stepped <;> exact .inl rfl
  | _ => exact .inl rfl

/-- Only the task of a link reads from its socket. -/
theorem DataStep.received (moved : DataStep client action next) {link : LinkRef}
    (exists_ : link < client.linkCount) (other : ∀ input, action ≠ .app link input) :
    (next.shared.base.link link).received = (client.shared.base.link link).received := by
  cases moved with
  | quiet quiet => exact (quiet.quiet link).received
  | created run links created =>
      rw [created, Function.update_of_ne (Nat.ne_of_lt exists_)]
  | @forwarded connection linkId payload outcome target written next run found sent shared =>
      by_cases equal : link = target
      · subst equal
        simpa [shared, Gateway.updateLink] using (Link.sendPacketStep_of_eq sent).data.2.1
      · simp [shared, Gateway.updateLink, equal]
  | @read reading linkId writer bytes next running shared =>
      have different : link ≠ reading := fun equal => other (.chunk bytes) (equal ▸ rfl)
      simp [shared, Gateway.updateLink, different]

theorem Origins.read_step (origins : Origins client) (epochs : Epochs client)
    (stepped : step zstd client action = some next) :
    ∀ link linkId writer point bytes, next.app link = .running linkId writer point →
      point.chunk? = some bytes → bytes <:+ (next.shared.base.link link).received := by
  intro link linkId writer point bytes running chunk
  have data := dataStep_of_step stepped
  have kept : client.app link = .running linkId writer point →
      (∀ input, action ≠ .app link input) → bytes <:+ (next.shared.base.link link).received := by
    intro before other
    rw [data.received (epochs.tasks link linkId writer point before).2 other]
    exact origins.read link linkId writer point bytes before chunk
  cases transition_of_step stepped with
  | @app moving input shared task moved =>
      change Function.update client.app moving task link = _ at running
      by_cases equal : link = moving
      · subst equal
        rw [Function.update_self] at running
        exact chunk_suffix_of_appStep moved (origins.read link) linkId writer point bytes running
          chunk
      · rw [Function.update_of_ne equal] at running
        exact kept running fun input same => equal (ClientAction.app.inj same).1.symm
  | @run input next moved =>
      rcases moved.app with same | ⟨connection, id, spawned, _, same⟩
      · exact kept (same ▸ running) fun _ => ClientAction.noConfusion
      · rw [same] at running
        by_cases equal : link = spawned
        · subst equal
          rw [Function.update_self] at running
          cases running
          cases chunk
        · rw [Function.update_of_ne equal] at running
          exact kept running fun _ => ClientAction.noConfusion
  | shutdown moved =>
      have same : next.app = client.app := by
        generalize client.shutdown = task at moved
        cases moved <;> rfl
      exact kept (same ▸ running) fun _ => ClientAction.noConfusion
  | _ => exact kept running fun _ => ClientAction.noConfusion

theorem origins_of_reachable (reachable : (system zstd).Reachable client) : Origins client :=
  reachable.invariant origins_new fun _ _ _ earlier origins _ stepped =>
    have epochs := epochs_of_reachable earlier
    have moved := dataStep_of_step stepped
    { unused := fun _ => origins.unused_dataStep epochs moved
      opened := fun _ => origins.opened_dataStep moved (received_prefix_of_step stepped)
      registered := fun _ _ => origins.registered_dataStep epochs moved
      handled := origins.handles_step stepped
      read := origins.read_step epochs stepped }

/-! ## Separation -/

/-- The change of what an application has been sent is from a `Regular` frame of the
connection on which its link was opened, where its `Open` was received too. -/
def PayloadWritten (client next : Client) (link : LinkRef) : Prop :=
  ∃ packet payload accepted,
    client.run = .onConnection (client.shared.openedOn link)
      (.exchanging (.forward packet.linkId payload)) ∧
    packet.packetType = .regular ∧
    packet.linkId = (client.shared.base.link link).connectionId ∧
    (client.shared.sockets.received (client.shared.openedOn link)).getLast? =
      some (packet, some payload) ∧
    Opens (client.shared.sockets.received (client.shared.openedOn link)) packet.linkId ∧
    accepted <+: payload ∧
    (next.shared.base.link link).writer.written =
      (client.shared.base.link link).writer.written ++ accepted

/-- The change of what a gateway connection has been sent is one frame; where it carries
data, these are bytes read from an application whose link was opened on it. -/
def FrameWritten (zstd : Zstd) (client next : Client) (action : ClientAction)
    (connection : ConnectionRef) : Prop :=
  ∃ call outcome,
    (client.shared.sockets.writer connection).send zstd call outcome =
      some (next.shared.sockets.writer connection) ∧
    ∀ bytes, call.2 = some bytes → ∃ link input linkId packetId,
      action = .app link input ∧
      client.app link = .running linkId connection (.sendRegular bytes packetId) ∧
      client.shared.openedOn link = connection ∧
      bytes <:+ (client.shared.base.link link).received

theorem Origins.payloadWritten (origins : Origins client) (epochs : Epochs client)
    (moved : DataStep client action next) {link : LinkRef}
    (wrote : (next.shared.base.link link).writer.written ≠
      (client.shared.base.link link).writer.written) : PayloadWritten client next link := by
  cases moved with
  | quiet quiet => exact absurd (quiet.quiet link).written wrote
  | created run links created =>
      by_cases newest : link = client.linkCount
      · subst newest
        rw [created, Function.update_self, origins.unused _ (Nat.le_refl _)] at wrote
        exact absurd rfl wrote
      · rw [created, Function.update_of_ne newest] at wrote
        exact absurd rfl wrote
  | @read reading linkId writer bytes next running shared =>
      by_cases equal : link = reading
      · subst equal
        exact absurd (by simp [shared, Gateway.updateLink, Link.receive]) wrote
      · exact absurd (by simp [shared, Gateway.updateLink, equal]) wrote
  | @forwarded connection linkId payload outcome target written next run found sent shared =>
      by_cases equal : link = target
      · subst equal
        have opened := epochs.links linkId link found
        have serving : client.shared.openedOn link = connection := by
          have current := epochs.connection connection _ run
          exact Nat.succ.inj (opened.1.2.trans current.symm)
        have registered := origins.registered linkId link found
        rcases origins.handled connection _ run with ⟨packet, type, id, last⟩
        rcases (Link.sendPacketStep_of_eq sent).data.2.2 with ⟨accepted, part, grown⟩
        refine ⟨packet, payload, accepted, ?_, type, id.trans registered.symm, ?_, ?_, part, ?_⟩
        · rw [serving, id]
          exact run
        · rw [serving]
          exact last
        · rw [id, ← registered]
          exact origins.opened link opened.2
        · simpa [shared, Gateway.updateLink] using grown
      · exact absurd (by simp [shared, Gateway.updateLink, equal]) wrote

theorem Origins.frameWritten (origins : Origins client) (epochs : Epochs client)
    {connection : ConnectionRef}
    (moved : WriterStep zstd client action connection (next.shared.sockets.writer connection))
    (wrote : (next.shared.sockets.writer connection).half.written ≠
      (client.shared.sockets.writer connection).half.written) :
    FrameWritten zstd client next action connection := by
  cases moved with
  | silent silent => exact absurd silent.written wrote
  | sent sending sent =>
      refine ⟨_, _, sent, ?_⟩
      intro bytes carried
      cases sending with
      | @regular _ link linkId chunk packetId input running =>
          cases carried
          exact ⟨link, input, linkId, packetId, rfl, running,
            (epochs.tasks link linkId connection _ running).1.symm,
            origins.read link linkId connection _ _ running rfl⟩
      | _ => cases carried

/-- In every run, over any number of gateway connections, whatever the server sends:
each step of the client keeps the data of its sessions apart. -/
theorem sessions_separated (zstd : Zstd) (client next : Client) (action : ClientAction)
    (reachable : (system zstd).Reachable client)
    (stepped : step zstd client action = some next) :
    (∀ link, (next.shared.base.link link).writer.written ≠
        (client.shared.base.link link).writer.written → PayloadWritten client next link) ∧
      ∀ connection, (next.shared.sockets.writer connection).half.written ≠
        (client.shared.sockets.writer connection).half.written →
          FrameWritten zstd client next action connection :=
  have origins := origins_of_reachable reachable
  have epochs := epochs_of_reachable reachable
  ⟨fun _ => origins.payloadWritten epochs (dataStep_of_step stepped),
    fun connection => origins.frameWritten epochs (writerStep_of_step stepped connection)⟩

def connect : List ClientAction :=
  [.run (.verdict true), .run .go, .run .go, .run .go, .run (.verdict true), .run .go,
    .run (.verdict true), .run .go, .run .go]

def openLink (linkId : UInt16) : List ClientAction :=
  [.run (.frame (PacketGW.new .open_ 1 linkId 0) none), .run (.verdict true), .run .go, .run .go,
    .run .go, .run (.write .ok), .run .go]

theorem sessions_separated_forward :
    ∃ client next : Client, (next.shared.base.link 0).writer.written = [7] ∧
      PayloadWritten client next 0 := by
  have executed : ((system .runLength).runChecked (fun _ _ => true) .new
      (.run .go :: connect ++ openLink 1 ++
        [.run (.frame (PacketGW.new .regular 2 1 1) (some [7]))])).any
      (fun client => (step .runLength client (.run (.write .ok))).any fun next =>
        (client.shared.base.link 0).writer.written = [] ∧
          (next.shared.base.link 0).writer.written = [7]) = true := by decide +kernel
  rcases TransitionSystem.exists_reaches_of_runChecked executed with ⟨client, reaches, found⟩
  cases stepped : step .runLength client (.run (.write .ok)) with
  | none =>
      rw [stepped] at found
      cases found
  | some next =>
      rw [stepped] at found
      rcases of_decide_eq_true found with ⟨before, after⟩
      refine ⟨client, next, after, (sessions_separated .runLength client next _ reaches.always
        stepped).1 0 ?_⟩
      rw [before, after]
      exact List.cons_ne_nil _ _

end Client

end IoGateway

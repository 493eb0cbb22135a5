import IoGateway.Client.Transitions

/-! # Links and the connections they belong to

The registry is emptied when a gateway connection ends, so every registered link
was opened on the connection that is being served, and the task of a link keeps
the writer of the connection it was opened on.
-/

namespace IoGateway

namespace GatewayClient

variable {zstd : Zstd} {client after : GatewayClient} {input : Input}

structure LinksKept (client after : GatewayClient) : Prop where
  shrink : ∀ linkId link, after.base.links.lookup linkId = some link →
    client.base.links.lookup linkId = some link
  openedOn : after.openedOn = client.openedOn

theorem LinksKept.refl (client : GatewayClient) : LinksKept client client :=
  ⟨fun _ _ found => found, rfl⟩

theorem Sent.linksKept {writer : ConnectionRef} {call : SendCall} {outcome : WriteOutcome}
    (sent : client.Sent zstd writer call outcome after) : LinksKept client after :=
  ⟨fun _ _ found => sent.base ▸ found, sent.openedOn⟩

theorem AppStep.linksKept {link : LinkRef} {task next : ClientAppTask}
    (stepped : client.AppStep zstd link task input after next) : LinksKept client after := by
  cases stepped with
  | sendRegular sent => exact sent.linksKept
  | sendFailed sent => exact sent.linksKept
  | sendClose sent => exact sent.linksKept
  | removeLink => exact ⟨fun _ _ found => (FiniteMap.lookup_of_erase found).2, rfl⟩
  | _ => exact ⟨fun _ _ found => found, rfl⟩

theorem PingStep.linksKept {writer : ConnectionRef} {task next : PingTask}
    (stepped : client.PingStep zstd writer task input after next) : LinksKept client after := by
  cases stepped with
  | sendPing sent => exact sent.linksKept
  | sendFailed sent => exact sent.linksKept
  | _ => exact ⟨fun _ _ found => found, rfl⟩

theorem CommandStep.linksKept {command next : PingCommand}
    (stepped : client.CommandStep zstd command input after next) : LinksKept client after := by
  cases stepped with
  | pingId => exact ⟨fun _ _ found => found, rfl⟩
  | sendPing sent => exact sent.linksKept

/-- The task keeps its link identifier and its writer while it runs. -/
theorem AppStep.running {link : LinkRef} {task next : ClientAppTask} {linkId : UInt16}
    {writer : ConnectionRef} {point : ClientAppExchange}
    (stepped : client.AppStep zstd link task input after next)
    (running : next = .running linkId writer point) :
    ∃ before, task = .running linkId writer before := by
  cases stepped <;> cases running <;> exact ⟨_, rfl⟩

end GatewayClient

/-- The link that `connect_client` has created and not yet handed to its task. -/
def ConnectClient.link? : ConnectClient → Option LinkRef
  | .setConnected _ link => some link
  | .openedId _ link => some link
  | .sendOpened _ link _ => some link
  | .spawn _ link => some link
  | _ => none

def GatewayExchange.link? : GatewayExchange → Option LinkRef
  | .connecting point => point.link?
  | _ => none

/-- The loop of `run` is at a point where links may be registered. -/
def RunTask.MayServe : RunTask → Prop
  | .onConnection _ (.exchanging _) => True
  | .onDisconnection .closeAllLinks => True
  | _ => False

/-- The moves of `run` between program points that register no link, hand none over
and empty no registry. -/
inductive RunTask.Moves : RunTask → RunTask → Prop
  | exchange {connection : ConnectionRef} {point next : GatewayExchange}
      (link : ∀ link, next.link? = some link → point.link? = some link) :
      Moves (.onConnection connection (.exchanging point))
        (.onConnection connection (.exchanging next))
  | leave {connection : ConnectionRef} {point : GatewayExchange} :
      Moves (.onConnection connection (.exchanging point)) (.onDisconnection .closeAllLinks)
  | handshake {connection : ConnectionRef} {point next : OnConnection}
      (before : ¬ (RunTask.onConnection connection point).MayServe)
      (after : ∀ exchange, next = .exchanging exchange → exchange.link? = none) :
      Moves (.onConnection connection point) (.onConnection connection next)
  | away {before after : RunTask} (idle : ¬ before.MayServe)
      (disconnected : ∀ connection point, after ≠ .onConnection connection point) :
      Moves before after

namespace Client

variable {zstd : Zstd} {client next : Client} {action : ClientAction} {input : Input}

/-- The gateway connection is being served, or its links are about to be closed. -/
def Serving (client : Client) (connection : ConnectionRef) : Prop :=
  client.run.MayServe ∧ connection + 1 = client.connectionCount

structure Epochs (client : Client) : Prop where
  connection : ∀ connection point, client.run = .onConnection connection point →
    connection + 1 = client.connectionCount
  links : ∀ linkId link, client.shared.base.links.lookup linkId = some link →
    client.Serving (client.shared.openedOn link) ∧ link < client.linkCount
  tasks : ∀ link linkId writer point, client.app link = .running linkId writer point →
    writer = client.shared.openedOn link ∧ link < client.linkCount
  opening : ∀ connection exchange link,
    client.run = .onConnection connection (.exchanging exchange) →
    exchange.link? = some link →
      client.shared.openedOn link = connection ∧ link < client.linkCount

theorem epochs_new : Epochs Client.new where
  connection := fun _ _ run => by cases run
  links := fun _ _ found => by cases found
  tasks := fun _ _ _ _ running => by cases running
  opening := fun _ _ _ run => by cases run

structure EpochKept (client next : Client) : Prop where
  links : client.shared.LinksKept next.shared
  app : next.app = client.app
  linkCount : next.linkCount = client.linkCount
  connectionCount : next.connectionCount = client.connectionCount

/-- Outside of the exchange the registry is empty. -/
theorem Epochs.lookup_eq_none (epochs : Epochs client) (idle : ¬ client.run.MayServe)
    (linkId : UInt16) : client.shared.base.links.lookup linkId = none := by
  cases found : client.shared.base.links.lookup linkId with
  | none => rfl
  | some link => exact absurd (epochs.links linkId link found).1.1 idle

theorem Epochs.moves (epochs : Epochs client) (kept : EpochKept client next)
    (moves : RunTask.Moves client.run next.run) : Epochs next := by
  have tasks : ∀ link linkId writer point, next.app link = .running linkId writer point →
      writer = next.shared.openedOn link ∧ link < next.linkCount := by
    rw [kept.app, kept.links.openedOn, kept.linkCount]
    exact epochs.tasks
  have stays : (client.run.MayServe → next.run.MayServe) →
      ∀ linkId link, next.shared.base.links.lookup linkId = some link →
        next.Serving (next.shared.openedOn link) ∧ link < next.linkCount := by
    intro serves linkId link found
    have before := epochs.links linkId link (kept.links.shrink linkId link found)
    rw [kept.links.openedOn, kept.linkCount]
    exact ⟨⟨serves before.1.1, kept.connectionCount ▸ before.1.2⟩, before.2⟩
  generalize run : client.run = before at moves stays
  generalize nextRun : next.run = after at moves stays
  cases moves with
  | @exchange connection point following link =>
      refine ⟨?_, stays fun _ => trivial, tasks, ?_⟩
      · intro other reached equal
        rw [nextRun] at equal
        cases equal
        rw [kept.connectionCount]
        exact epochs.connection connection _ run
      · intro other exchange opened equal held
        rw [nextRun] at equal
        cases equal
        rw [kept.links.openedOn, kept.linkCount]
        exact epochs.opening connection point opened run (link opened held)
  | leave =>
      refine ⟨?_, stays fun _ => trivial, tasks, ?_⟩
      · intro other reached equal
        rw [nextRun] at equal
        cases equal
      · intro other exchange opened equal
        rw [nextRun] at equal
        cases equal
  | @handshake connection point following idle free =>
      refine ⟨?_, stays fun serves => absurd serves idle, tasks, ?_⟩
      · intro other reached equal
        rw [nextRun] at equal
        cases equal
        rw [kept.connectionCount]
        exact epochs.connection connection _ run
      · intro other exchange opened equal held
        rw [nextRun] at equal
        cases equal
        rw [free exchange rfl] at held
        cases held
  | away idle disconnected =>
      refine ⟨?_, stays fun serves => absurd serves idle, tasks, ?_⟩
      · intro other reached equal
        rw [nextRun] at equal
        exact absurd equal (disconnected other reached)
      · intro other exchange opened equal
        rw [nextRun] at equal
        exact absurd equal (disconnected other _)

theorem Epochs.stay (epochs : Epochs client) (kept : EpochKept client next)
    (run : next.run = client.run) : Epochs next := by
  constructor
  · rw [run, kept.connectionCount]
    exact epochs.connection
  · intro linkId link found
    unfold Serving
    rw [run, kept.links.openedOn, kept.linkCount, kept.connectionCount]
    exact epochs.links linkId link (kept.links.shrink linkId link found)
  · rw [kept.app, kept.links.openedOn, kept.linkCount]
    exact epochs.tasks
  · rw [run, kept.links.openedOn, kept.linkCount]
    exact epochs.opening

theorem Epochs.addLink {connection : ConnectionRef} {linkId : UInt16} (epochs : Epochs client)
    (run : client.run =
      .onConnection connection (.exchanging (.connecting (.addLink linkId)))) :
    Epochs { client with
      shared := { client.shared with
        base := { client.shared.base with
          links := client.shared.base.links.insert linkId client.linkCount
          link := Function.update client.shared.base.link client.linkCount (Link.new linkId) }
        openedOn := Function.update client.shared.openedOn client.linkCount connection }
      run := .onConnection connection
        (.exchanging (.connecting (.setConnected linkId client.linkCount)))
      linkCount := client.linkCount + 1 } := by
  have current := epochs.connection connection _ run
  have older : ∀ {link : LinkRef}, link < client.linkCount →
      Function.update client.shared.openedOn client.linkCount connection link =
        client.shared.openedOn link :=
    fun earlier => Function.update_of_ne (Nat.ne_of_lt earlier) _ _
  constructor
  · intro other point equal
    cases equal
    exact current
  · intro key link found
    rw [FiniteMap.lookup_insert] at found
    split at found
    · cases found
      refine ⟨⟨trivial, ?_⟩, Nat.lt_succ_self _⟩
      simpa using current
    · have before := epochs.links key link found
      refine ⟨⟨trivial, ?_⟩, Nat.lt_succ_of_lt before.2⟩
      change Function.update client.shared.openedOn client.linkCount connection link + 1 =
        client.connectionCount
      rw [older before.2]
      exact before.1.2
  · intro link key writer point running
    have before := epochs.tasks link key writer point running
    refine ⟨?_, Nat.lt_succ_of_lt before.2⟩
    change writer = Function.update client.shared.openedOn client.linkCount connection link
    rw [older before.2]
    exact before.1
  · intro other exchange link equal held
    cases equal
    cases held
    exact ⟨Function.update_self .., Nat.lt_succ_self _⟩

theorem Epochs.spawn {connection : ConnectionRef} {linkId : UInt16} {link : LinkRef}
    (epochs : Epochs client)
    (run : client.run =
      .onConnection connection (.exchanging (.connecting (.spawn linkId link)))) :
    Epochs { client with
      run := .onConnection connection (.exchanging .receive)
      app := Function.update client.app link (.running linkId connection .read) } := by
  have opened := epochs.opening connection (.connecting (.spawn linkId link)) link run rfl
  constructor
  · intro other point equal
    cases equal
    exact epochs.connection connection _ run
  · intro key other found
    have before := epochs.links key other found
    exact ⟨⟨trivial, before.1.2⟩, before.2⟩
  · intro other key writer point running
    change Function.update client.app link _ other = _ at running
    by_cases equal : other = link
    · subst equal
      rw [Function.update_self] at running
      cases running
      exact ⟨opened.1.symm, opened.2⟩
    · rw [Function.update_of_ne equal] at running
      exact epochs.tasks other key writer point running
  · intro other exchange opened equal held
    cases equal
    cases held

theorem ConnectStep.epochs {connection : ConnectionRef} {point : ConnectClient}
    (stepped : ConnectStep zstd connection client point input next) (epochs : Epochs client)
    (run : client.run = .onConnection connection (.exchanging (.connecting point))) :
    Epochs next := by
  cases stepped with
  | addLink => exact epochs.addLink run
  | spawn => exact epochs.spawn run
  | setConnected =>
      refine epochs.moves ⟨⟨fun _ _ found => found, rfl⟩, rfl, rfl, rfl⟩ ?_
      rw [run]
      exact .exchange fun _ held => held
  | sendOpened sent =>
      refine epochs.moves ⟨sent.linksKept, rfl, rfl, rfl⟩ ?_
      rw [run]
      exact .exchange fun _ held => held
  | sendOpenFail sent =>
      refine epochs.moves ⟨sent.linksKept, rfl, rfl, rfl⟩ ?_
      rw [run]
      exact .exchange fun _ held => held
  | _ =>
      refine epochs.moves ⟨⟨fun _ _ found => found, rfl⟩, rfl, rfl, rfl⟩ ?_
      rw [run]
      exact .exchange fun _ held => held

theorem dispatch_link? {packet : PacketGW} {data : Option Bytes} {point : GatewayExchange}
    (dispatched : GatewayClient.dispatch packet data = some point) : point.link? = none := by
  unfold GatewayClient.dispatch at dispatched
  split at dispatched
  · cases dispatched; rfl
  · cases dispatched; rfl
  · cases dispatched; rfl
  · split at dispatched <;> cases dispatched <;> rfl
  · cases dispatched
  · cases dispatched; rfl

theorem ExchangeStep.epochs {connection : ConnectionRef} {point : GatewayExchange}
    (stepped : ExchangeStep zstd connection client point input next) (epochs : Epochs client)
    (run : client.run = .onConnection connection (.exchanging point)) : Epochs next := by
  cases stepped with
  | connecting stepped => exact stepped.epochs epochs run
  | receive dispatched =>
      refine epochs.moves ⟨⟨fun _ _ found => found, rfl⟩, rfl, rfl, rfl⟩ ?_
      rw [run]
      apply RunTask.Moves.exchange
      intro link held
      rw [dispatch_link? dispatched] at held
      cases held
  | denied =>
      refine epochs.moves ⟨⟨fun _ _ found => found, rfl⟩, rfl, rfl, rfl⟩ ?_
      rw [run]
      exact .leave
  | ended =>
      refine epochs.moves ⟨.refl _, rfl, rfl, rfl⟩ ?_
      rw [run]
      exact .leave
  | sendPong sent =>
      refine epochs.moves ⟨sent.linksKept, rfl, rfl, rfl⟩ ?_
      rw [run]
      exact .exchange fun _ held => held
  | removeFound =>
      refine epochs.moves
        ⟨⟨fun _ _ found => (FiniteMap.lookup_of_erase found).2, rfl⟩, rfl, rfl, rfl⟩ ?_
      rw [run]
      exact .exchange fun _ held => held
  | removeAbsent =>
      refine epochs.moves
        ⟨⟨fun _ _ found => (FiniteMap.lookup_of_erase found).2, rfl⟩, rfl, rfl, rfl⟩ ?_
      rw [run]
      exact .exchange fun _ held => held
  | _ =>
      refine epochs.moves ⟨⟨fun _ _ found => found, rfl⟩, rfl, rfl, rfl⟩ ?_
      rw [run]
      exact .exchange fun _ held => held

theorem OnConnectionStep.epochs {connection : ConnectionRef} {point : OnConnection}
    (stepped : OnConnectionStep zstd connection client point input next)
    (epochs : Epochs client) (run : client.run = .onConnection connection point) :
    Epochs next := by
  cases stepped with
  | exchanging stepped => exact stepped.epochs epochs run
  | clearWriter =>
      refine epochs.moves ⟨⟨fun _ _ found => found, rfl⟩, rfl, rfl, rfl⟩ ?_
      rw [run]
      exact .away id fun _ _ equal => by cases equal
  | startPing =>
      refine epochs.moves ⟨⟨fun _ _ found => found, rfl⟩, rfl, rfl, rfl⟩ ?_
      rw [run]
      exact .handshake id fun _ equal => by cases equal; rfl
  | _ =>
      refine epochs.moves ⟨⟨fun _ _ found => found, rfl⟩, rfl, rfl, rfl⟩ ?_
      rw [run]
      exact .handshake id fun _ equal => by cases equal

theorem Epochs.closeAllLinks (epochs : Epochs client) (run : RunTask)
    (moved : run = client.run ∨ ∀ connection point, run ≠ .onConnection connection point)
    (shutdown : ClientShutdown) :
    Epochs { client with
      shared := client.shared.updateBase client.shared.base.closeAllLinks
      run := run
      shutdown := shutdown } := by
  refine ⟨?_, ?_, epochs.tasks, ?_⟩
  · intro connection point equal
    rcases moved with same | away
    · exact epochs.connection connection point (same ▸ equal)
    · exact absurd equal (away connection point)
  · intro linkId link found
    cases found
  · intro connection exchange link equal held
    rcases moved with same | away
    · exact epochs.opening connection exchange link (same ▸ equal) held
    · exact absurd equal (away connection _)

theorem OnDisconnectionStep.epochs {point : OnDisconnection}
    (stepped : OnDisconnectionStep client point next) (epochs : Epochs client)
    (run : client.run = .onDisconnection point) : Epochs next := by
  cases stepped with
  | closeAllLinks =>
      exact epochs.closeAllLinks _ (.inr fun _ _ equal => by cases equal) client.shutdown
  | _ =>
      refine epochs.moves ⟨⟨fun _ _ found => found, rfl⟩, rfl, rfl, rfl⟩ ?_
      rw [run]
      exact .away id fun _ _ equal => by cases equal

theorem RunStep.epochs (stepped : RunStep zstd client client.run input next)
    (epochs : Epochs client) : Epochs next := by
  generalize run : client.run = task at stepped
  cases stepped with
  | onConnection stepped => exact stepped.epochs epochs run
  | onDisconnection stepped => exact stepped.epochs epochs run
  | connected =>
      have empty := epochs.lookup_eq_none (by rw [run]; exact id)
      refine ⟨?_, ?_, epochs.tasks, ?_⟩
      · intro connection point equal
        cases equal
        rfl
      · intro linkId link found
        rw [empty linkId] at found
        cases found
      · intro connection exchange link equal
        cases equal
  | _ =>
      refine epochs.moves ⟨⟨fun _ _ found => found, rfl⟩, rfl, rfl, rfl⟩ ?_
      rw [run]
      exact .away id fun _ _ equal => by cases equal

theorem Epochs.app {link : LinkRef} {shared : GatewayClient} {task : ClientAppTask}
    (epochs : Epochs client)
    (stepped : client.shared.AppStep zstd link (client.app link) input shared task) :
    Epochs { client with shared := shared, app := Function.update client.app link task } := by
  have kept := stepped.linksKept
  have base : Epochs { client with shared := shared } :=
    epochs.stay ⟨kept, rfl, rfl, rfl⟩ rfl
  refine ⟨base.connection, base.links, ?_, base.opening⟩
  intro other linkId writer point running
  change Function.update client.app link task other = _ at running
  by_cases equal : other = link
  · subst equal
    rw [Function.update_self] at running
    rcases stepped.running running with ⟨before, was⟩
    exact base.tasks other linkId writer before was
  · rw [Function.update_of_ne equal] at running
    exact base.tasks other linkId writer point running

theorem Epochs.step (epochs : Epochs client) (stepped : step zstd client action = some next) :
    Epochs next := by
  cases transition_of_step stepped with
  | run moved => exact moved.epochs epochs
  | app moved => exact epochs.app moved
  | ping moved => exact epochs.stay ⟨moved.linksKept, rfl, rfl, rfl⟩ rfl
  | command moved => exact epochs.stay ⟨moved.linksKept, rfl, rfl, rfl⟩ rfl
  | shutdown moved =>
      generalize client.shutdown = task at moved
      cases moved with
      | closeAllLinks => exact epochs.closeAllLinks _ (.inl rfl) _
      | _ => exact epochs.stay ⟨⟨fun _ _ found => found, rfl⟩, rfl, rfl, rfl⟩ rfl
  | _ => exact epochs.stay ⟨⟨fun _ _ found => found, rfl⟩, rfl, rfl, rfl⟩ rfl

theorem epochs_of_reachable (reachable : (system zstd).Reachable client) : Epochs client :=
  reachable.invariant epochs_new fun _ _ _ _ epochs _ stepped => epochs.step stepped

end Client

end IoGateway

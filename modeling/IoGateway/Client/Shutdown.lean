import IoGateway.Client.Abandoned
import IoGateway.Client.Separation

/-! # Shutdown of the client

`shutdown` closes the links that are registered and, after its pause, takes the writer of
the gateway connection and shuts it down, while all other tasks run on.
-/

namespace IoGateway

open TransitionSystem (Always)

/-- Once shut, a socket stays shut and takes no more bytes. -/
structure Link.StaysShut (before after : Link) : Prop where
  shut : before.writer.shut = true → after.writer.shut = true
  written : before.writer.shut = true → after.writer.written = before.writer.written

namespace Link

variable {before after : Link}

theorem staysShut_of_writer (same : after.writer = before.writer) : before.StaysShut after :=
  ⟨fun shut => same ▸ shut, fun _ => congrArg WriteHalf.written same⟩

theorem staysShut_closeConnection (link : Link) : link.StaysShut link.closeConnection :=
  ⟨fun _ => rfl, fun _ => rfl⟩

theorem SendPacketStep.staysShut {payload : Bytes} {outcome : WriteOutcome}
    (sent : before.SendPacketStep payload outcome after) : before.StaysShut after := by
  have dead : before.writer.shut = true → before.writer.dead = true := fun shut => by
    rw [WriteHalf.dead, shut, Bool.true_or]
  cases sent with
  | dropped => exact ⟨id, fun _ => rfl⟩
  | sent _ alive =>
      refine ⟨id, fun shut => ?_⟩
      simp [alive (dead shut)]
  | @failed accepted _ _ refuses =>
      refine ⟨id, fun shut => ?_⟩
      simp [refuses (dead shut)]

theorem staysShut_closeAllLinks (gateway : Gateway) (link : LinkRef) :
    (gateway.link link).StaysShut (gateway.closeAllLinks.link link) := by
  unfold Gateway.closeAllLinks
  dsimp only
  split
  · exact staysShut_closeConnection _
  · exact staysShut_of_writer rfl

end Link

theorem GatewayClient.staysShut_updateLink {client : GatewayClient} {ref : LinkRef}
    {update : Link → Link} (kept : (client.base.link ref).StaysShut (update (client.base.link ref)))
    (link : LinkRef) :
    (client.base.link link).StaysShut ((client.updateLink ref update).base.link link) := by
  change Link.StaysShut _ (Function.update client.base.link ref _ link)
  by_cases equal : link = ref
  · subst equal
    rwa [Function.update_self]
  · rw [Function.update_of_ne equal]
    exact Link.staysShut_of_writer rfl

/-- A dead connection accepts no byte. -/
theorem GatewayWriter.written_of_dead {zstd : Zstd} {writer after : GatewayWriter}
    {call : SendCall} {outcome : WriteOutcome} (sent : writer.send zstd call outcome = some after)
    (dead : writer.half.dead = true) : after.half.written = writer.half.written := by
  rcases Option.map_eq_some_iff.mp sent with ⟨half, wrote, equal⟩
  cases outcome with
  | ok =>
      rw [WriteHalf.alive_of_writeAll (bytes_ne_nil zstd call) wrote] at dead
      cases dead
  | failed accepted =>
      rcases WriteHalf.writeAll_failed_eq_some.mp wrote with ⟨⟨_, refuses⟩, same⟩
      subst equal
      simp [same, refuses dead]

/-- The connection whose halves `on_connection` has published and not yet cleared. -/
def OnConnection.published : OnConnection → Bool
  | .setReader => false
  | .setWriter => false
  | _ => true

namespace Client

variable {zstd : Zstd} {client next : Client} {action : ClientAction} {input : Input}
  {link : LinkRef} {connection : ConnectionRef}

theorem ConnectStep.staysShut {point : ConnectClient} (exists_ : link < client.linkCount)
    (stepped : ConnectStep zstd connection client point input next) :
    (client.shared.base.link link).StaysShut (next.shared.base.link link) := by
  cases stepped with
  | addLink =>
      change Link.StaysShut _ (Function.update client.shared.base.link client.linkCount _ link)
      rw [Function.update_of_ne (Nat.ne_of_lt exists_)]
      exact Link.staysShut_of_writer rfl
  | setConnected =>
      exact GatewayClient.staysShut_updateLink (Link.staysShut_of_writer rfl) link
  | sendOpened sent => exact Link.staysShut_of_writer (by rw [exchange, sent.base])
  | sendOpenFail sent => exact Link.staysShut_of_writer (by rw [exchange, sent.base])
  | _ => exact Link.staysShut_of_writer rfl

theorem RunStep.staysShut (exists_ : link < client.linkCount)
    (stepped : RunStep zstd client client.run input next) :
    (client.shared.base.link link).StaysShut (next.shared.base.link link) := by
  generalize client.run = task at stepped
  cases stepped with
  | onConnection stepped =>
      cases stepped with
      | exchanging stepped =>
          cases stepped with
          | connecting stepped => exact stepped.staysShut exists_
          | sendPong sent => exact Link.staysShut_of_writer (by rw [exchange, sent.base])
          | closeLink =>
              exact GatewayClient.staysShut_updateLink (Link.staysShut_closeConnection _) link
          | forward _ sent =>
              exact GatewayClient.staysShut_updateLink
                (Link.sendPacketStep_of_eq sent).staysShut link
          | _ => exact Link.staysShut_of_writer rfl
      | _ => exact Link.staysShut_of_writer rfl
  | onDisconnection stepped =>
      cases stepped with
      | closeAllLinks => exact Link.staysShut_closeAllLinks client.shared.base link
      | _ => exact Link.staysShut_of_writer rfl
  | _ => exact Link.staysShut_of_writer rfl

theorem staysShut_of_step (exists_ : link < client.linkCount)
    (stepped : step zstd client action = some next) :
    (client.shared.base.link link).StaysShut (next.shared.base.link link) := by
  cases transition_of_step stepped with
  | run moved => exact moved.staysShut exists_
  | @app moving input shared task moved =>
      generalize client.app moving = before at moved
      cases moved with
      | read => exact GatewayClient.staysShut_updateLink (Link.staysShut_of_writer rfl) link
      | addIncoming =>
          exact GatewayClient.staysShut_updateLink (Link.staysShut_of_writer rfl) link
      | sendRegular sent => exact Link.staysShut_of_writer (by rw [sent.base])
      | sendFailed sent => exact Link.staysShut_of_writer (by rw [sent.base])
      | sendClose sent => exact Link.staysShut_of_writer (by rw [sent.base])
      | _ => exact Link.staysShut_of_writer rfl
  | @ping writer input shared task moved =>
      generalize client.ping writer = before at moved
      cases moved with
      | sendPing sent => exact Link.staysShut_of_writer (by rw [sent.base])
      | sendFailed sent => exact Link.staysShut_of_writer (by rw [sent.base])
      | _ => exact Link.staysShut_of_writer rfl
  | command moved =>
      generalize client.command = before at moved
      cases moved with
      | sendPing sent => exact Link.staysShut_of_writer (by rw [sent.base])
      | _ => exact Link.staysShut_of_writer rfl
  | shutdown moved =>
      generalize client.shutdown = before at moved
      cases moved with
      | closeAllLinks => exact Link.staysShut_closeAllLinks client.shared.base link
      | _ => exact Link.staysShut_of_writer rfl
  | _ => exact Link.staysShut_of_writer rfl

/-! ## The writer that is taken -/

/-- While a connection is served its writer is there to be taken, unless it has been. -/
def WriterPublished (client : Client) : Prop :=
  ∀ connection point, client.run = .onConnection connection point → point.published = true →
    client.shared.gwWriter = some connection ∨ client.shutdown = .finished

theorem WriterPublished.stay (held : client.WriterPublished)
    (writer : next.shared.gwWriter = client.shared.gwWriter)
    (shutdown : client.shutdown = .finished → next.shutdown = .finished)
    (run : ∀ connection point, next.run = .onConnection connection point →
      point.published = true → ∃ before, client.run = .onConnection connection before ∧
        before.published = true) : next.WriterPublished := by
  intro connection point serving published
  rcases run connection point serving published with ⟨before, served, earlier⟩
  rcases held connection before served earlier with current | finished
  · exact .inl (writer.trans current)
  · exact .inr (shutdown finished)

theorem WriterPublished.same (held : client.WriterPublished)
    (writer : next.shared.gwWriter = client.shared.gwWriter)
    (shutdown : next.shutdown = client.shutdown) (run : next.run = client.run) :
    next.WriterPublished :=
  held.stay writer shutdown.trans fun _ point serving published =>
    ⟨point, run ▸ serving, published⟩

/-- The exchange loop and `connect_client` stay on their connection or leave it. -/
theorem ExchangeStep.publishedKept {point : GatewayExchange}
    (stepped : ExchangeStep zstd connection client point input next) :
    next.shared.gwWriter = client.shared.gwWriter ∧ next.shutdown = client.shutdown ∧
      ∀ other point, next.run = .onConnection other point → other = connection := by
  have stays : ∀ {shared : GatewayClient} {point : GatewayExchange},
      shared.gwWriter = client.shared.gwWriter →
        (client.exchange connection shared point).shared.gwWriter = client.shared.gwWriter ∧
          (client.exchange connection shared point).shutdown = client.shutdown ∧
          ∀ other reached, (client.exchange connection shared point).run =
            .onConnection other reached → other = connection := by
    intro shared point same
    refine ⟨same, rfl, fun other reached serving => ?_⟩
    cases serving
    rfl
  have leaves : ∀ {other reached}, RunTask.onDisconnection .closeAllLinks =
      .onConnection other reached → other = connection := fun equal => by cases equal
  cases stepped with
  | denied => exact ⟨rfl, rfl, fun _ _ => leaves⟩
  | ended => exact ⟨rfl, rfl, fun _ _ => leaves⟩
  | sendPong sent => exact stays sent.gwWriter
  | connecting stepped =>
      cases stepped with
      | sendOpened sent => exact stays sent.gwWriter
      | sendOpenFail sent => exact stays sent.gwWriter
      | addLink => exact ⟨rfl, rfl, fun _ _ serving => by cases serving; rfl⟩
      | spawn => exact ⟨rfl, rfl, fun _ _ serving => by cases serving; rfl⟩
      | _ => exact stays rfl
  | _ => exact stays rfl

theorem RunStep.writerPublished (held : client.WriterPublished)
    (stepped : RunStep zstd client client.run input next) : next.WriterPublished := by
  generalize run : client.run = task at stepped
  have moves : ∀ {other : ConnectionRef} {before after : OnConnection},
      client.run = .onConnection other before → before.published = true →
      next.run = .onConnection other after → next.shutdown = client.shutdown →
      next.shared.gwWriter = client.shared.gwWriter → next.WriterPublished := by
    intro other before after served published nextRun shutdown writer
    refine held.stay writer shutdown.trans fun connection point serving _ => ?_
    cases nextRun.symm.trans serving
    exact ⟨before, served, published⟩
  have away : (∀ connection point, next.run = .onConnection connection point →
      point.published = false) → next.WriterPublished := by
    intro unpublished connection point serving published
    rw [unpublished connection point serving] at published
    cases published
  cases stepped with
  | onConnection stepped =>
      cases stepped with
      | setReader => exact away fun _ _ serving => by cases serving; rfl
      | setWriter => exact fun _ _ serving _ => by cases serving; exact .inl rfl
      | clearWriter => exact away fun _ _ serving => by cases serving
      | exchanging stepped =>
          rcases stepped.publishedKept with ⟨writer, shutdown, stays⟩
          refine held.stay writer shutdown.trans fun other point serving _ => ?_
          cases stays other point serving
          exact ⟨_, run, rfl⟩
      | _ => exact moves run rfl rfl rfl rfl
  | onDisconnection stepped =>
      cases stepped <;> exact away fun _ _ serving => by cases serving
  | connected => exact away fun _ _ serving => by cases serving; rfl
  | _ => exact away fun _ _ serving => by cases serving

theorem WriterPublished.step (held : client.WriterPublished)
    (stepped : step zstd client action = some next) : next.WriterPublished := by
  cases transition_of_step stepped with
  | run moved => exact moved.writerPublished held
  | app moved =>
      generalize client.app _ = task at moved
      cases moved with
      | sendRegular sent => exact held.same sent.gwWriter rfl rfl
      | sendFailed sent => exact held.same sent.gwWriter rfl rfl
      | sendClose sent => exact held.same sent.gwWriter rfl rfl
      | _ => exact held.same rfl rfl rfl
  | ping moved =>
      generalize client.ping _ = task at moved
      cases moved with
      | sendPing sent => exact held.same sent.gwWriter rfl rfl
      | sendFailed sent => exact held.same sent.gwWriter rfl rfl
      | _ => exact held.same rfl rfl rfl
  | command moved =>
      generalize client.command = command at moved
      cases moved with
      | sendPing sent => exact held.same sent.gwWriter rfl rfl
      | _ => exact held.same rfl rfl rfl
  | beginShutdown absent =>
      refine held.stay rfl (fun finished => ?_) fun _ point serving published =>
        ⟨point, serving, published⟩
      rw [absent] at finished
      cases finished
  | shutdown moved =>
      generalize began : client.shutdown = task at moved
      have unfinished : ∀ {later}, task ≠ .finished → client.shutdown = .finished →
          later = ClientShutdown.finished := fun running finished =>
        absurd (began.symm.trans finished) running
      cases moved with
      | closeAllLinks =>
          exact held.stay rfl (unfinished ClientShutdown.noConfusion)
            fun _ point serving published => ⟨point, serving, published⟩
      | sleep =>
          exact held.stay rfl (unfinished ClientShutdown.noConfusion)
            fun _ point serving published => ⟨point, serving, published⟩
      | takeWriter => exact fun _ _ _ _ => .inr rfl
      | noWriter => exact fun _ _ _ _ => .inr rfl
  | _ => exact held.same rfl rfl rfl

theorem writerPublished_of_reachable (reachable : (system zstd).Reachable client) :
    client.WriterPublished := by
  refine reachable.invariant ?_ fun _ _ _ _ held _ stepped => held.step stepped
  intro connection point serving
  cases serving

/-! ## Silence after the shutdown -/

structure Closed (link : LinkRef) (written : Bytes) (client : Client) : Prop where
  exists_ : link < client.linkCount
  shut : (client.shared.base.link link).writer.shut = true
  written : (client.shared.base.link link).writer.written = written

theorem Closed.step {written : Bytes} (closed : Closed link written client)
    (stepped : step zstd client action = some next) : Closed link written next where
  exists_ := Nat.lt_of_lt_of_le closed.exists_ (linkCount_le_of_step stepped)
  shut := (staysShut_of_step closed.exists_ stepped).shut closed.shut
  written := ((staysShut_of_step closed.exists_ stepped).written closed.shut).trans closed.written

structure WriterShut (connection : ConnectionRef) (writer : GatewayWriter) (client : Client) :
    Prop where
  dead : (client.shared.sockets.writer connection).half.dead = true
  frames : (client.shared.sockets.writer connection).frames = writer.frames
  written : (client.shared.sockets.writer connection).half.written = writer.half.written

theorem WriterShut.step {writer : GatewayWriter} (shut : WriterShut connection writer client)
    (stepped : step zstd client action = some next) : WriterShut connection writer next := by
  cases writerStep_of_step stepped connection with
  | silent silent =>
      exact ⟨silent.dead shut.dead, silent.frames.trans shut.frames,
        silent.written.trans shut.written⟩
  | sent _ sent =>
      have refused := GatewayWriter.send_of_dead sent shut.dead
      exact ⟨refused.2, refused.1.trans shut.frames,
        (GatewayWriter.written_of_dead sent shut.dead).trans shut.written⟩

end Client

end IoGateway

import IoGateway.Server.LinkIds
import IoGateway.Server.Sending

/-! # The opening of a link

The state of a link is written by two tasks: the accept handler sets `Waiting`
after it has sent `Open`, and the client's exchange loop sets `Connected` on
`Opened`. An opened link stays connected when the handler wrote first.
-/

namespace IoGateway

/-- The task has written `Waiting`, the last step of `handle_app_connection`. -/
def AppTask.pastWaiting : AppTask → Bool
  | .exchanging _ _ _ => true
  | .finished => true
  | _ => false

namespace GatewayServer

variable {zstd : Zstd} {server after : GatewayServer} {input : Input} {link : LinkRef}

/-- Unless it is closed, the link keeps its state or becomes connected. -/
def StaysOpen (before after : Link) : Prop :=
  after.writer.shut = false → before.writer.shut = false ∧
    (after.state = before.state ∨ after.state = .connected)

theorem StaysOpen.refl {link : Link} : StaysOpen link link := fun shut => ⟨shut, .inl rfl⟩

theorem staysOpen_closeConnection {link : Link} : StaysOpen link link.closeConnection :=
  fun shut => by cases shut

theorem staysOpen_updateLink {ref : LinkRef} {update : Link → Link}
    (own : ref = link → StaysOpen (server.base.link ref) (update (server.base.link ref))) :
    StaysOpen (server.base.link link) ((server.updateLink ref update).base.link link) := by
  by_cases equal : ref = link
  · subst equal
    simpa [Gateway.updateLink] using own rfl
  · have different : link ≠ ref := fun same => equal same.symm
    simpa [Gateway.updateLink, different] using StaysOpen.refl

theorem Sent.staysOpen {writer : ConnectionRef} {call : SendCall} {outcome : WriteOutcome}
    (sent : server.Sent zstd writer call outcome after) :
    StaysOpen (server.base.link link) (after.base.link link) := by
  rw [sent.base]
  exact .refl

theorem RemoveLinkStep.staysOpen {point : RemoveLink} {next : Option RemoveLink}
    (removal : RemoveLinkStep server point after next) :
    StaysOpen (server.base.link link) (after.base.link link) := by
  cases removal with
  | close => exact staysOpen_updateLink fun _ => staysOpen_closeConnection
  | _ => exact .refl

theorem CleanupStep.staysOpen {addr : SocketAddr} {sessionId : Uuid} {point : CleanupClient}
    {next : Option CleanupClient}
    (cleaning : CleanupStep addr sessionId server point input after next) :
    StaysOpen (server.base.link link) (after.base.link link) := by
  cases cleaning with
  | close => exact staysOpen_updateLink fun _ => staysOpen_closeConnection
  | _ => exact .refl

theorem GatewayStep.staysOpen {ref : ConnectionRef} {task next : GatewayTask}
    (stepped : server.GatewayStep zstd ref task input after next) :
    StaysOpen (server.base.link link) (after.base.link link) := by
  cases stepped with
  | handling stepped => cases stepped <;> exact .refl
  | exchanging stepped =>
      cases stepped with
      | sendPong sent => exact sent.staysOpen
      | regularWrite sent =>
          apply staysOpen_updateLink
          intro _ shut
          cases Link.sendPacketStep_of_eq sent <;> exact ⟨shut, .inl rfl⟩
      | openedSet => exact staysOpen_updateLink fun _ shut => ⟨shut, .inr rfl⟩
      | removing removal => exact removal.staysOpen
      | removed removal => exact removal.staysOpen
      | cleanup cleaning => exact cleaning.staysOpen
      | cleaned cleaning => exact cleaning.staysOpen
      | _ => exact .refl

/-- An application's task does not take back the connected state of a link whose
handler has written `Waiting`. -/
theorem AppStep.staysOpen {ref : LinkRef} {task next : AppTask}
    (stepped : server.AppStep zstd ref task input after next)
    (past : ref = link → task.pastWaiting = true) :
    StaysOpen (server.base.link link) (after.base.link link) := by
  cases stepped with
  | handling stepped =>
      have different : ref ≠ link := fun equal => by cases past equal
      cases stepped with
      | reject => exact staysOpen_updateLink fun equal => absurd equal different
      | addLink =>
          have other : link ≠ ref := fun equal => different equal.symm
          simpa [other] using StaysOpen.refl
      | sendOpen sent => exact sent.staysOpen
      | setWaiting => exact staysOpen_updateLink fun equal => absurd equal different
      | _ => exact .refl
  | exchanging stepped =>
      cases stepped with
      | read => exact staysOpen_updateLink fun _ shut => ⟨shut, .inl rfl⟩
      | addIncoming => exact staysOpen_updateLink fun _ shut => ⟨shut, .inl rfl⟩
      | sendRegular sent => exact sent.staysOpen
      | sendFailed sent => exact sent.staysOpen
      | sendClose sent => exact sent.staysOpen
      | removing removal => exact removal.staysOpen
      | removed removal => exact removal.staysOpen
      | _ => exact .refl

theorem AppStep.pastWaiting {ref : LinkRef} {task next : AppTask}
    (stepped : server.AppStep zstd ref task input after next)
    (past : task.pastWaiting = true) : next.pastWaiting = true := by
  cases stepped with
  | handling => cases past
  | exchanging stepped => cases stepped <;> rfl

end GatewayServer

namespace Server

variable {zstd : Zstd} {server next : Server} {action : ServerAction} {link : LinkRef}

/-- `Opened` takes effect on a link only after the handler has written `Waiting`. -/
def waitingWritten (server : Server) : ServerAction → Bool
  | .gateway ref _ =>
      match server.gateway ref with
      | .exchanging _ _ (.openedSet link) => (server.app link).pastWaiting
      | _ => true
  | _ => true

/-- The link is connected unless it has been closed, and its handler is done. -/
structure Opened (link : LinkRef) (server : Server) : Prop where
  past : (server.app link).pastWaiting = true
  connected : (server.shared.base.link link).writer.shut = false →
    (server.shared.base.link link).state = .connected

theorem Opened.of_staysOpen {shared : GatewayServer} (opened : Opened link server)
    (stays : GatewayServer.StaysOpen (server.shared.base.link link) (shared.base.link link))
    (shut : (shared.base.link link).writer.shut = false) :
    (shared.base.link link).state = .connected := by
  rcases stays shut with ⟨before, same | connected⟩
  · rw [same]
    exact opened.connected before
  · exact connected

theorem Opened.step (opened : Opened link server) (slots : SlotsInOrder server)
    (stepped : step zstd server action = some next) : Opened link next := by
  cases transition_of_step stepped with
  | acceptApp =>
      have different : link ≠ server.appCount := by
        intro equal
        have past := opened.past
        rw [equal, slots.app _ (Nat.le_refl _)] at past
        cases past
      exact ⟨by simpa [different] using opened.past, opened.connected⟩
  | @app ref input shared task moved =>
      have stays : GatewayServer.StaysOpen (server.shared.base.link link) (shared.base.link link) :=
        moved.staysOpen fun equal => equal ▸ opened.past
      refine ⟨?_, opened.of_staysOpen stays⟩
      by_cases equal : link = ref
      · subst equal
        simpa using moved.pastWaiting opened.past
      · simpa [equal] using opened.past
  | gateway moved => exact ⟨opened.past, opened.of_staysOpen moved.staysOpen⟩
  | shutdown moved =>
      generalize server.shutdown = task at moved
      cases moved with
      | closeAllLinks =>
          refine ⟨opened.past, opened.of_staysOpen ?_⟩
          simp only [GatewayServer.updateBase, Gateway.closeAllLinks]
          split
          · exact GatewayServer.staysOpen_closeConnection
          · exact .refl
      | _ => exact ⟨opened.past, opened.connected⟩
  | _ => exact ⟨opened.past, opened.connected⟩

theorem opened_of_openedSet {ref : ConnectionRef} {addr : SocketAddr} {sessionId : Uuid}
    {input : Input} (point : server.gateway ref = .exchanging addr sessionId (.openedSet link))
    (permitted : server.waitingWritten (.gateway ref input) = true)
    (stepped : step zstd server (.gateway ref input) = some next) : Opened link next := by
  have past : (server.app link).pastWaiting = true := by
    simpa [waitingWritten, point] using permitted
  cases transition_of_step stepped with
  | gateway moved =>
      rw [point] at moved
      cases moved with
      | exchanging moved =>
          cases moved with
          | openedSet => exact ⟨past, fun _ => by simp [Gateway.updateLink, Link.setState]⟩

theorem written_of_regularWrite {ref : ConnectionRef} {addr : SocketAddr} {sessionId : Uuid}
    {payload : Bytes} {outcome : WriteOutcome}
    (point : server.gateway ref = .exchanging addr sessionId (.regularWrite link payload))
    (connected : (server.shared.base.link link).state = .connected)
    (stepped : step zstd server (.gateway ref (.write outcome)) = some next) :
    (server.shared.base.link link).writer.writeAll payload outcome =
      some (next.shared.base.link link).writer := by
  cases transition_of_step stepped with
  | gateway moved =>
      rw [point] at moved
      cases moved with
      | exchanging moved =>
          cases moved with
          | @regularWrite _ _ outcome written sent =>
              have half : (server.shared.base.link link).writer.writeAll payload outcome =
                  some written.writer := by
                cases Link.sendPacketStep_of_eq sent with
                | dropped gated => exact absurd connected gated
                | sent _ alive => exact WriteHalf.writeAll_ok_eq_some.mpr ⟨alive, rfl⟩
                | failed _ partially dead =>
                    exact WriteHalf.writeAll_failed_eq_some.mpr ⟨⟨partially, dead⟩, rfl⟩
              rw [half]
              simp [Gateway.updateLink]

/-! ## A payload for an opened link -/

/-- `Opened` takes effect in time, and the link is registered under the identifier and
not closed. -/
structure WhileOpen (linkId : UInt16) (link : LinkRef) (server : Server)
    (action : ServerAction) : Prop where
  waiting : server.waitingWritten action = true
  registered : server.shared.base.links.lookup linkId = some link
  notClosed : (server.shared.base.link link).writer.shut = false

instance (linkId : UInt16) (link : LinkRef) (server : Server) (action : ServerAction) :
    Decidable (server.WhileOpen linkId link action) :=
  decidable_of_iff
    (server.waitingWritten action = true ∧ server.shared.base.links.lookup linkId = some link ∧
      (server.shared.base.link link).writer.shut = false)
    ⟨fun ⟨waiting, registered, notClosed⟩ => ⟨waiting, registered, notClosed⟩,
      fun open_ => ⟨open_.waiting, open_.registered, open_.notClosed⟩⟩

/-- Where a payload is after the exchange loop `reader` has received it: before the lookup of
its link, before the write, or written to the link's application by a step in between. -/
inductive PayloadHandled (zstd : Zstd) (reader : ConnectionRef) (addr : SocketAddr)
    (sessionId : Uuid) (linkId : UInt16) (link : LinkRef) (payload : Bytes)
    (received after : Server) : Prop
  | lookup (point : after.gateway reader =
      .exchanging addr sessionId (.regularLookup linkId payload))
  | write (point : after.gateway reader =
      .exchanging addr sessionId (.regularWrite link payload))
  | written {writing next : Server} {outcome : WriteOutcome}
      (earlier : (system zstd).Reaches (WhileOpen linkId link) received writing)
      (point : writing.gateway reader =
        .exchanging addr sessionId (.regularWrite link payload))
      (stepped : step zstd writing (.gateway reader (.write outcome)) = some next)
      (wrote : (writing.shared.base.link link).writer.writeAll payload outcome =
        some (next.shared.base.link link).writer)
      (later : (system zstd).Reaches (WhileOpen linkId link) next after)

theorem regularLookup_of_frame {reader : ConnectionRef} {packet : PacketGW} {payload : Bytes}
    {addr : SocketAddr} {sessionId : Uuid}
    (point : server.gateway reader = .exchanging addr sessionId .receive)
    (regular : packet.packetType = .regular)
    (stepped : step zstd server (.gateway reader (.frame packet (some payload))) = some next) :
    next.gateway reader = .exchanging addr sessionId (.regularLookup packet.linkId payload) := by
  rcases receive_of_frame stepped with ⟨owner, session, running, rfl⟩
  rw [point] at running
  cases running
  change Function.update _ _ _ _ = _
  rw [Function.update_self]
  simp [GatewayServer.dispatch, regular]

/-- An exchange loop stays where it is until it takes a step of its own. -/
theorem exchanging_of_step {reader : ConnectionRef} {addr : SocketAddr} {sessionId : Uuid}
    {point : ClientExchange} (slots : SlotsInOrder server)
    (running : server.gateway reader = .exchanging addr sessionId point)
    (stepped : step zstd server action = some next) :
    next.gateway reader = .exchanging addr sessionId point ∨
      ∃ input, action = .gateway reader input ∧ GatewayServer.ClientExchangeStep zstd reader addr
        sessionId server.shared point input next.shared (next.gateway reader) := by
  have move := gatewayMove_of_step stepped reader
  generalize next.gateway reader = task at move
  cases move with
  | kept => exact .inl running
  | accepted free =>
      rw [slots.gateway reader (Nat.le_of_eq free.symm)] at running
      cases running
  | moved moved =>
      rw [running] at moved
      cases moved with
      | exchanging moved => exact .inr ⟨_, rfl, moved⟩

theorem PayloadHandled.step {reader : ConnectionRef} {addr : SocketAddr} {sessionId : Uuid}
    {linkId : UInt16} {payload : Bytes} {received : Server} (slots : SlotsInOrder server)
    (opened : Opened link server) (open_ : server.WhileOpen linkId link action)
    (reaches : (system zstd).Reaches (WhileOpen linkId link) received server)
    (handled : PayloadHandled zstd reader addr sessionId linkId link payload received server)
    (stepped : step zstd server action = some next) :
    PayloadHandled zstd reader addr sessionId linkId link payload received next := by
  cases handled with
  | lookup point =>
      rcases exchanging_of_step slots point stepped with same | ⟨input, rfl, moved⟩
      · exact .lookup same
      · generalize after : next.gateway reader = task at moved
        generalize next.shared = shared at moved
        cases moved with
        | regularFound found =>
            rw [open_.registered] at found
            cases found
            exact .write after
        | regularAbsent absent =>
            rw [open_.registered] at absent
            cases absent
  | write point =>
      rcases exchanging_of_step slots point stepped with same | ⟨input, rfl, moved⟩
      · exact .write same
      · generalize next.gateway reader = task at moved
        generalize next.shared = shared at moved
        cases moved with
        | regularWrite =>
            have connected := opened.connected open_.notClosed
            exact .written reaches point stepped
              (written_of_regularWrite point connected stepped) .refl
  | written earlier point wrote written later =>
      exact .written earlier point wrote written (.step later open_ stepped)

/-- An application is accepted and `Open` is sent, the client answers with
`Opened`, and its exchange loop has looked the link up. The handler has not
written `Waiting` yet. -/
def openedEarly : List ServerAction :=
  [.acceptGateway localClient, .gateway 0 .go, .gateway 0 .go, .gateway 0 (.verdict true),
    .gateway 0 .go, .gateway 0 (.session 7), .gateway 0 .go,
    .acceptApp, .app 0 .go, .app 0 (.client localClient), .app 0 .go, .app 0 .go, .app 0 .go,
    .app 0 (.write .ok), .gateway 0 (.frame (PacketGW.new .opened 1 1 0) none), .gateway 0 .go]

def openedInTime : List ServerAction :=
  oneOpenLink ++ [.gateway 0 (.frame (PacketGW.new .opened 1 1 0) none), .gateway 0 .go]

def regularReceived : ServerAction :=
  .gateway 0 (.frame (PacketGW.new .regular 2 1 1) (some [7]))

/-- An honest client sends `Opened` only for a link for which it has been sent
`Open`. -/
def honest (server : Server) : ServerAction → Bool
  | .gateway ref (.frame packet _) =>
      packet.packetType ≠ .opened || (server.shared.sockets.writer ref).frames.any fun frame =>
        frame.1.packetType = .open_ && frame.1.linkId = packet.linkId
  | _ => true

def HonestRun (server : Server) (action : ServerAction) : Prop :=
  server.honest action = true ∧ LinkIdsLeft server action

instance (server : Server) (action : ServerAction) : Decidable (HonestRun server action) :=
  inferInstanceAs (Decidable (_ ∧ _))

end Server

end IoGateway

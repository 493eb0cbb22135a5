import IoGateway.Server.Registry

/-! # What a step of the server does to the data of the links

A link is created by its own task, which also reads from its application. The other
way, data come from the exchange loop of a gateway connection, which writes them to
the application once it has set the link connected.
-/

namespace IoGateway

structure GatewayServer.LinksQuiet (server after : GatewayServer) : Prop where
  shrink : server.LinksShrink after
  quiet : ∀ link, (server.base.link link).Quiet (after.base.link link)
  connected : ∀ link, (after.base.link link).state = .connected →
    (server.base.link link).state = .connected

namespace GatewayServer

variable {zstd : Zstd} {server after : GatewayServer} {input : Input}

theorem LinksQuiet.ofSame (shrink : server.LinksShrink after)
    (same : after.base.link = server.base.link) : server.LinksQuiet after where
  shrink := shrink
  quiet := fun _ => same ▸ .refl _
  connected := fun _ connected => same ▸ connected

theorem LinksQuiet.ofBase (same : after.base = server.base) : server.LinksQuiet after :=
  .ofSame (.of_base same) (by rw [same])

theorem LinksQuiet.ofUpdate {ref : LinkRef} (update : Link → Link)
    (quiet : ∀ before : Link, before.Quiet (update before))
    (connected : ∀ before : Link, (update before).state = .connected →
      before.state = .connected) : server.LinksQuiet (server.updateLink ref update) where
  shrink := fun _ _ found => found
  quiet := by
    intro other
    by_cases equal : other = ref
    · subst equal
      simpa [Gateway.updateLink] using quiet _
    · simpa [Gateway.updateLink, equal] using Link.Quiet.refl _
  connected := by
    intro other
    by_cases equal : other = ref
    · subst equal
      simpa [Gateway.updateLink] using connected _
    · simp [Gateway.updateLink, equal]

theorem LinksQuiet.closeConnection {ref : LinkRef} :
    server.LinksQuiet (server.updateLink ref Link.closeConnection) :=
  .ofUpdate Link.closeConnection Link.quiet_closeConnection fun _ closed => by cases closed

theorem LinksQuiet.closeAllLinks :
    server.LinksQuiet (server.updateBase server.base.closeAllLinks) where
  shrink := fun _ _ found => by cases found
  quiet := by
    intro link
    simp only [updateBase, Gateway.closeAllLinks]
    split
    · exact Link.quiet_closeConnection _
    · exact .refl _
  connected := by
    intro link
    simp only [updateBase, Gateway.closeAllLinks]
    split
    · intro closed
      cases closed
    · exact id

theorem RemoveLinkStep.linksQuiet {point : RemoveLink} {next : Option RemoveLink}
    (removal : RemoveLinkStep server point after next) : server.LinksQuiet after := by
  cases removal with
  | close => exact .closeConnection
  | route => exact .ofSame (fun _ _ found => found) rfl
  | found => exact .ofSame (fun _ _ found => (FiniteMap.lookup_of_erase found).2) rfl
  | absent => exact .ofSame (fun _ _ found => (FiniteMap.lookup_of_erase found).2) rfl

theorem CleanupStep.linksQuiet {addr : SocketAddr} {sessionId : Uuid} {point : CleanupClient}
    {next : Option CleanupClient}
    (cleaning : CleanupStep addr sessionId server point input after next) :
    server.LinksQuiet after := by
  have shrink := cleaning.linksShrink
  cases cleaning with
  | close => exact .closeConnection
  | _ => exact .ofSame shrink rfl

inductive AppDataStep (ref : LinkRef) (server : GatewayServer) :
    AppTask → Input → GatewayServer → Prop
  | quiet {task : AppTask} {input : Input} {after : GatewayServer}
      (quiet : server.LinksQuiet after) : AppDataStep ref server task input after
  | created {linkId : UInt16} {writer : ConnectionRef} {addr : SocketAddr}
      {after : GatewayServer} (links : after.base.links = server.base.links.insert linkId ref)
      (link : after.base.link = Function.update server.base.link ref (Link.new linkId)) :
      AppDataStep ref server (.handling (.addLink linkId writer addr)) .go after
  | read {linkId : UInt16} {writer : ConnectionRef} {bytes : Bytes} :
      AppDataStep ref server (.exchanging linkId writer .read) (.chunk bytes)
        (server.updateLink ref (Link.receive · bytes))

theorem AppStep.data {ref : LinkRef} {task next : AppTask}
    (stepped : server.AppStep zstd ref task input after next) :
    AppDataStep ref server task input after := by
  have unchanged : server.LinksQuiet server := .ofBase rfl
  cases stepped with
  | handling stepped =>
      cases stepped with
      | reject =>
          exact .quiet (.ofUpdate (fun link => { link with writer := link.writer.shutdown })
            (fun _ => ⟨rfl, rfl, rfl, rfl⟩) fun _ => id)
      | addLink => exact .created rfl rfl
      | sendOpen sent => exact .quiet (.ofBase sent.base)
      | setWaiting =>
          exact .quiet (.ofUpdate (Link.setState · .waiting) (fun _ => ⟨rfl, rfl, rfl, rfl⟩)
            fun _ waiting => by cases waiting)
      | _ => exact .quiet (.ofSame (fun _ _ found => found) rfl)
  | exchanging stepped =>
      cases stepped with
      | read => exact .read
      | @addIncoming bytes =>
          exact .quiet (.ofUpdate (Link.addIncoming · (UInt64.ofNat bytes.length))
            (fun _ => ⟨rfl, rfl, rfl, rfl⟩) fun _ => id)
      | sendRegular sent => exact .quiet (.ofBase sent.base)
      | sendFailed sent => exact .quiet (.ofBase sent.base)
      | sendClose sent => exact .quiet (.ofBase sent.base)
      | removing removal => exact .quiet removal.linksQuiet
      | removed removal => exact .quiet removal.linksQuiet
      | _ => exact .quiet (.ofSame (fun _ _ found => found) rfl)

inductive GatewayDataStep (server : GatewayServer) :
    GatewayTask → Input → GatewayServer → Prop
  | quiet {task : GatewayTask} {input : Input} {after : GatewayServer}
      (quiet : server.LinksQuiet after) : GatewayDataStep server task input after
  | written {addr : SocketAddr} {sessionId : Uuid} {ref : LinkRef} {payload : Bytes}
      {outcome : WriteOutcome} {written : Link}
      (sent : (server.base.link ref).sendPacket payload outcome = some written) :
      GatewayDataStep server (.exchanging addr sessionId (.regularWrite ref payload))
        (.write outcome) (server.updateLink ref fun _ => written)
  | connected {addr : SocketAddr} {sessionId : Uuid} {ref : LinkRef} :
      GatewayDataStep server (.exchanging addr sessionId (.openedSet ref)) .go
        (server.updateLink ref (Link.setState · .connected))

theorem GatewayStep.data {ref : ConnectionRef} {task next : GatewayTask}
    (stepped : server.GatewayStep zstd ref task input after next) :
    GatewayDataStep server task input after := by
  cases stepped with
  | handling stepped => cases stepped <;> exact .quiet (.ofSame (fun _ _ found => found) rfl)
  | exchanging stepped =>
      cases stepped with
      | sendPong sent => exact .quiet (.ofBase sent.base)
      | regularWrite sent => exact .written sent
      | openedSet => exact .connected
      | removing removal => exact .quiet removal.linksQuiet
      | removed removal => exact .quiet removal.linksQuiet
      | cleanup cleaning => exact .quiet cleaning.linksQuiet
      | cleaned cleaning => exact .quiet cleaning.linksQuiet
      | _ => exact .quiet (.ofSame (fun _ _ found => found) rfl)

theorem ShutdownStep.linksQuiet {task next : ShutdownTask}
    (stepped : server.ShutdownStep task input after next) : server.LinksQuiet after := by
  cases stepped with
  | closeAllLinks => exact .closeAllLinks
  | _ => exact .ofSame (fun _ _ found => found) rfl

theorem GatewayDataStep.source {task : GatewayTask}
    (moved : GatewayDataStep server task input after) (link : LinkRef) :
    (after.base.link link).connectionId = (server.base.link link).connectionId ∧
      (after.base.link link).received = (server.base.link link).received := by
  cases moved with
  | quiet quiet => exact ⟨(quiet.quiet link).connectionId, (quiet.quiet link).received⟩
  | @written addr sessionId ref payload outcome written sent =>
      have data := (Link.sendPacketStep_of_eq sent).data
      by_cases equal : link = ref
      · subst equal
        simpa [Gateway.updateLink] using ⟨data.1, data.2.1⟩
      · simp [Gateway.updateLink, equal]
  | @connected addr sessionId ref =>
      by_cases equal : link = ref
      · subst equal
        simp [Gateway.updateLink, Link.setState]
      · simp [Gateway.updateLink, equal]

end GatewayServer

end IoGateway

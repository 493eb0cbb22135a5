import IoGateway.Fidelity
import IoGateway.Server.Closing

/-! # The data that a step moves

A step of a side reads one chunk from one of its applications, or writes part of one payload
to one of them, or moves no application data.
-/

namespace IoGateway

/-- What has been read from the application of a link and written to it. -/
structure Link.Flows (before after : Link) (read written : Bytes) : Prop where
  received : after.received = before.received ++ read
  written : after.writer.written = before.writer.written ++ written

namespace Link

variable {before after : Link}

theorem flows_of_eq (received : after.received = before.received)
    (written : after.writer.written = before.writer.written) : before.Flows after [] [] :=
  ⟨by rw [received, List.append_nil], by rw [written, List.append_nil]⟩

theorem flows_of_quiet (quiet : before.Quiet after) : before.Flows after [] [] :=
  flows_of_eq quiet.received quiet.written

theorem flows_of_read (bytes : Bytes) : before.Flows (before.receive bytes) bytes [] :=
  ⟨rfl, (List.append_nil _).symm⟩

theorem exists_flows_of_sendPacket {payload : Bytes} {outcome : WriteOutcome}
    (sent : before.sendPacket payload outcome = some after) :
    ∃ accepted, before.Flows after [] accepted := by
  rcases (sendPacketStep_of_eq sent).data with ⟨_, received, accepted, _, written⟩
  exact ⟨accepted, by rw [received, List.append_nil], written⟩

structure Blank (link : Link) : Prop where
  received : link.received = []
  written : link.writer.written = []

theorem blank_new (linkId : UInt16) : (new linkId).Blank := ⟨rfl, rfl⟩

theorem Blank.flows (blank : before.Blank) (still : after.Blank) : before.Flows after [] [] :=
  flows_of_eq (still.received.trans blank.received.symm) (still.written.trans blank.written.symm)

theorem Flows.blank (flows : before.Flows after [] []) (blank : before.Blank) : after.Blank :=
  ⟨by rw [flows.received, blank.received, List.append_nil],
    by rw [flows.written, blank.written, List.append_nil]⟩

end Link

/-- Data flow through at most one of the links, one that is in use, and one way. -/
inductive LinksFlow (used : LinkRef → Prop) (before after : LinkRef → Link) : Prop
  | still (others : ∀ link, (before link).Flows (after link) [] [])
  | read (link : LinkRef) (bytes : Bytes) (present : used link)
      (own : (before link).Flows (after link) bytes [])
      (others : ∀ other, other ≠ link → (before other).Flows (after other) [] [])
  | written (link : LinkRef) (bytes : Bytes) (present : used link)
      (own : (before link).Flows (after link) [] bytes)
      (others : ∀ other, other ≠ link → (before other).Flows (after other) [] [])

namespace LinksFlow

variable {used : LinkRef → Prop} {before after : LinkRef → Link}

theorem quiet (quiet : ∀ link, (before link).Quiet (after link)) : LinksFlow used before after :=
  .still fun link => Link.flows_of_quiet (quiet link)

theorem others_of_update {link : LinkRef} {new : Link} : ∀ other, other ≠ link →
    (before other).Flows (Function.update before link new other) [] [] := by
  intro other different
  rw [Function.update_of_ne different]
  exact Link.flows_of_quiet (.refl _)

theorem ofCreate {link : LinkRef} {linkId : UInt16} (blank : (before link).Blank) :
    LinksFlow used before (Function.update before link (Link.new linkId)) := by
  refine .still fun other => ?_
  by_cases equal : other = link
  · subst equal
    rw [Function.update_self]
    exact blank.flows (Link.blank_new linkId)
  · exact others_of_update other equal

theorem ofRead {link : LinkRef} (present : used link) (bytes : Bytes) :
    LinksFlow used before (Function.update before link ((before link).receive bytes)) := by
  refine .read link bytes present ?_ others_of_update
  rw [Function.update_self]
  exact Link.flows_of_read bytes

theorem ofWrite {link : LinkRef} {payload : Bytes} {outcome : WriteOutcome} {new : Link}
    (present : used link) (sent : (before link).sendPacket payload outcome = some new) :
    LinksFlow used before (Function.update before link new) := by
  rcases Link.exists_flows_of_sendPacket sent with ⟨accepted, flows⟩
  refine .written link accepted present ?_ others_of_update
  rwa [Function.update_self]

theorem blank (flow : LinksFlow used before after) {link : LinkRef} (unused : ¬ used link)
    (blank : (before link).Blank) : (after link).Blank := by
  cases flow with
  | still others => exact (others link).blank blank
  | read moved _ present _ others =>
      exact (others link fun equal => unused (equal ▸ present)).blank blank
  | written moved _ present _ others =>
      exact (others link fun equal => unused (equal ▸ present)).blank blank

end LinksFlow

namespace GatewayServer

variable {zstd : Zstd} {server after : GatewayServer} {input : Input} {link : LinkRef}

/-- A link is written to only after it has been found in the registry. -/
theorem GatewayStep.writesTo {ref : ConnectionRef} {task next : GatewayTask}
    (stepped : server.GatewayStep zstd ref task input after next) (writes : next.WritesTo link) :
    ∃ linkId, server.base.links.lookup linkId = some link := by
  cases stepped with
  | handling stepped => cases stepped <;> exact writes.elim
  | exchanging stepped =>
      cases stepped with
      | @receive packet data =>
          simp only [dispatch] at writes
          repeat' split at writes
          all_goals exact writes.elim
      | regularFound found =>
          cases writes
          exact ⟨_, found⟩
      | _ => exact writes.elim

end GatewayServer

namespace Server

variable {zstd : Zstd} {server next : Server} {action : ServerAction} {link : LinkRef}

structure Positive (server : Server) : Prop where
  registered : ∀ linkId ref, server.shared.base.links.lookup linkId = some ref → linkId ≠ 0
  writing : ∀ connection link, (server.gateway connection).WritesTo link →
    (server.shared.base.link link).connectionId ≠ 0

theorem positive_new : Positive Server.new where
  registered := fun _ _ found => by cases found
  writing := fun _ _ writes => writes.elim

theorem connectionId_ne_zero_of_step (identified : Identified server)
    (positive : (server.shared.base.link link).connectionId ≠ 0)
    (stepped : step zstd server action = some next) :
    (next.shared.base.link link).connectionId ≠ 0 := by
  rwa [connectionId_of_step stepped fun unregistered =>
    positive (identified.uncreated link unregistered)]

theorem Positive.step (positive : Positive server) (identified : Identified server)
    (registered : Registered server) (stepped : step zstd server action = some next) :
    Positive next where
  registered := by
    intro linkId ref found
    cases registryStep_of_step stepped with
    | accept same => exact positive.registered linkId ref (same ▸ found)
    | draw _ _ _ _ shared =>
        rw [shared] at found
        exact positive.registered linkId ref found
    | register slot key _ _ registering shared =>
        rw [shared] at found
        simp only [GatewayServer.updateBase, FiniteMap.lookup_insert] at found
        split at found
        · rename_i equal
          subst equal
          exact identified.positive slot linkId (by rw [registering]; rfl)
        · exact positive.registered linkId ref found
    | keep _ shrink => exact positive.registered linkId ref (shrink linkId ref found)
  writing := by
    intro connection link writes
    have kept : (server.gateway connection).WritesTo link →
        (next.shared.base.link link).connectionId ≠ 0 := fun writes =>
      connectionId_ne_zero_of_step identified (positive.writing connection link writes) stepped
    have move := gatewayMove_of_step stepped connection
    generalize next.gateway connection = after at move writes
    cases move with
    | kept => exact kept writes
    | accepted => exact writes.elim
    | moved moved =>
        rcases moved.writesTo writes with ⟨linkId, found⟩
        have key := registered.key linkId link found
        exact connectionId_ne_zero_of_step identified
          (key ▸ positive.registered linkId link found) stepped

theorem positive_of_reachable (reachable : (system zstd).ReachableUnder LinkIdsLeft server) :
    Positive server :=
  reachable.invariant positive_new fun _ _ _ earlier positive _ stepped =>
    positive.step (identified_of_reachable earlier) (registered_of_reachable earlier.always) stepped

def BlankLinks (server : Server) : Prop :=
  ∀ link, (server.shared.base.link link).connectionId = 0 → (server.shared.base.link link).Blank

theorem linksFlow_of_step (identified : Identified server) (positive : Positive server)
    (blank : server.BlankLinks) (stepped : step zstd server action = some next) :
    LinksFlow (fun link => (server.shared.base.link link).connectionId ≠ 0)
      server.shared.base.link next.shared.base.link := by
  cases transition_of_step stepped with
  | @app ref input shared task moved =>
      have data := moved.data
      have idle := fun unregistered => blank ref (identified.uncreated ref unregistered)
      have own := identified.created ref
      have nonzero := identified.positive ref
      generalize server.app ref = before at data idle own nonzero
      cases data with
      | quiet quiet => exact .quiet quiet.quiet
      | created _ link => exact link ▸ .ofCreate (idle trivial)
      | @read linkId _ bytes => exact .ofRead (own linkId rfl id ▸ nonzero linkId rfl) bytes
  | @gateway connection input shared task moved =>
      have data := moved.data
      have writing := positive.writing connection
      generalize server.gateway connection = before at data writing
      cases data with
      | quiet quiet => exact .quiet quiet.quiet
      | written sent => exact .ofWrite (writing _ rfl) sent
      | @connected _ _ ref =>
          refine .still fun other => ?_
          by_cases equal : other = ref
          · subst equal
            change Link.Flows _ (Function.update server.shared.base.link other _ other) [] []
            rw [Function.update_self]
            exact Link.flows_of_eq rfl rfl
          · exact LinksFlow.others_of_update other equal
  | shutdown moved => exact .quiet moved.linksQuiet.quiet
  | _ => exact .quiet fun _ => .refl _

theorem BlankLinks.step (blank : server.BlankLinks) (identified : Identified server)
    (positive : Positive server) (stepped : step zstd server action = some next) :
    next.BlankLinks := by
  intro link unnumbered
  have before : (server.shared.base.link link).connectionId = 0 := by
    by_contra numbered
    exact connectionId_ne_zero_of_step identified numbered stepped unnumbered
  exact (linksFlow_of_step identified positive blank stepped).blank (fun used => used before)
    (blank link before)

end Server

namespace Client

variable {zstd : Zstd} {client next : Client} {action : ClientAction}

def BlankLinks (client : Client) : Prop :=
  ∀ link, client.linkCount ≤ link → (client.shared.base.link link).Blank

theorem linksFlow_of_step (epochs : Epochs client) (blank : client.BlankLinks)
    (stepped : step zstd client action = some next) :
    LinksFlow (· < client.linkCount) client.shared.base.link next.shared.base.link := by
  cases dataStep_of_step stepped with
  | quiet quiet => exact .quiet quiet.quiet
  | created _ _ link => exact link ▸ .ofCreate (blank _ (Nat.le_refl _))
  | forwarded _ found sent shared => exact shared ▸ .ofWrite (epochs.links _ _ found).2 sent
  | @read link _ _ bytes _ running shared =>
      have present : link < client.linkCount := (epochs.tasks _ _ _ _ running).2
      rw [shared]
      exact @LinksFlow.ofRead (· < client.linkCount) _ _ present bytes

theorem BlankLinks.step (blank : client.BlankLinks) (epochs : Epochs client)
    (stepped : step zstd client action = some next) : next.BlankLinks := by
  intro link beyond
  have before := Nat.le_trans (linkCount_le_of_step stepped) beyond
  exact (linksFlow_of_step epochs blank stepped).blank (Nat.not_lt.mpr before) (blank link before)

end Client

end IoGateway

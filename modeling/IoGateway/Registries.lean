import IoGateway.Client.Removal
import IoGateway.ClosedLinks
import IoGateway.Server.Removal
import IoGateway.Settling

/-! # The registries of the two sides

The server and a client take a link out of their registries at different times. When the
network is at rest, and no write between the two has failed, they have the same links, and
each of them is routed to the client.
-/

namespace IoGateway

namespace Network

variable {zstd : Zstd} {network next : Network} {connection : ConnectionRef}
  {ref link : LinkRef} {linkId : UInt16}

/-! ## The runs in question -/

/-- A connection comes from an address that no other one has, and no side is shut down. -/
def Lasting (network : Network) : NetworkAction → Prop
  | .server action => network.server.FreshAddress action ∧ network.server.NoShutdown action
  | .client _ action => action ≠ .beginShutdown
  | _ => True

instance (network : Network) : (action : NetworkAction) → Decidable (network.Lasting action)
  | .server action => inferInstanceAs
      (Decidable (network.server.FreshAddress action ∧ network.server.NoShutdown action))
  | .client _ action => inferInstanceAs (Decidable (action ≠ .beginShutdown))
  | .serverReceive _ _ | .clientReceive _ _ => .isTrue trivial

def Steady (zstd : Zstd) (network : Network) (action : NetworkAction) : Prop :=
  network.Permitted zstd action ∧ network.Lasting action

instance (zstd : Zstd) (network : Network) (action : NetworkAction) :
    Decidable (network.Steady zstd action) :=
  inferInstanceAs (Decidable (_ ∧ _))

/-! ## What holds in such a run -/

theorem Sound.opened_to_client (sound : network.Sound zstd) (positive : linkId ≠ 0)
    (closed : Has .close linkId (network.client connection).heard) :
    Has .open_ linkId (network.client connection).heard := by
  have front := heard_of_toClient (sound.toClient connection)
  rcases sound.server_sender positive (closed.mono front) with ⟨senders, _, _, sender⟩
  rw [has_iff] at closed ⊢
  exact sender.spoken.opening_of_close (types_front front) closed

theorem Sound.introduced_to_client (sound : network.Sound zstd) :
    Introduced .open_ linkId (network.client connection).heard := by
  rcases sound.serverSenders with ⟨senders, represents, faithful⟩
  have sent := faithful.introduced connection linkId
  rw [represents.writer] at sent
  exact sent.shorten (heard_of_toClient (sound.toClient connection))

structure Tidy (zstd : Zstd) (network : Network) : Prop where
  server : (Server.system zstd).ReachableUnder Server.Steady network.server
  retired : network.server.RetiredTaken
  running : ∀ connection, (network.client connection).shutdown = .absent
  opened : ∀ connection, (network.client connection).OpenedLinked
  retained : ∀ connection, (network.client connection).Retained
  closed : ∀ connection, (network.client connection).ClosedTaken

theorem tidy_new (zstd : Zstd) : new.Tidy zstd where
  server := .refl
  retired := Server.retiredTaken_new
  running := fun _ => rfl
  opened := fun _ _ has => absurd has not_has_nil
  retained := fun _ => Client.retained_new
  closed := fun _ => Client.closedTaken_new

theorem Tidy.server_step (tidy : network.Tidy zstd) (sound : network.Sound zstd)
    {action : ServerAction} {server : Server} {read : ConnectionRef → Nat}
    (steady : network.server.Steady action)
    (stepped : network.server.step zstd action = some server) :
    ({ network with server := server, serverRead := read } : Network).Tidy zstd where
  server := .step tidy.server steady stepped
  retired := by
    refine tidy.retired.step (Server.slotsInOrder_of_reachable sound.server.always)
      (Server.identified_of_reachable sound.server) (fun connection linkId positive retired => ?_)
      stepped
    rcases retired with closed | refused
    · exact (sound.announced positive closed).2
    · exact (sound.announced positive refused).2
  running := tidy.running
  opened := tidy.opened
  retained := tidy.retained
  closed := tidy.closed

theorem Tidy.client_step (tidy : network.Tidy zstd) (sound : network.Sound zstd)
    {action : ClientAction} {client : Client} {read : ConnectionRef → Nat}
    (later : ({ network with
      client := Function.update network.client connection client
      clientRead := read } : Network).Sound zstd)
    (lasting : action ≠ .beginShutdown)
    (stepped : (network.client connection).step zstd action = some client) :
    ({ network with
      client := Function.update network.client connection client
      clientRead := read } : Network).Tidy zstd := by
  have linked := sound.linked connection
  have epochs := Client.epochs_of_reachable (sound.client connection)
  have single := sound.single connection
  have nextSingle := later.single connection
  have introduced : ∀ linkId, Introduced .open_ linkId client.heard := by
    intro linkId
    have introduced := @Sound.introduced_to_client zstd _ connection linkId later
    simpa using introduced
  simp only [Function.update_self] at nextSingle
  have kept : ∀ {P : Client → Prop}, P client → (∀ other, P (network.client other)) →
      ∀ other, P (Function.update network.client connection client other) := by
    intro P own others
    exact (Function.forall_update_iff network.client fun _ => P).mpr
      ⟨own, fun other _ => others other⟩
  exact {
    server := tidy.server
    retired := tidy.retired
    running := @kept (fun client => client.shutdown = .absent)
      (Client.shutdown_absent_of_step (tidy.running connection) lasting stepped) tidy.running
    opened := kept ((tidy.opened connection).step linked stepped) tidy.opened
    retained := kept ((tidy.retained connection).step linked epochs (tidy.running connection)
      single nextSingle stepped) tidy.retained
    closed := kept ((tidy.closed connection).step epochs single introduced
      (fun _ positive closed => sound.opened_to_client positive closed) stepped) tidy.closed }

theorem Tidy.step (tidy : network.Tidy zstd) (sound : network.Sound zstd)
    (later : next.Sound zstd) {action : NetworkAction} (steady : network.Steady zstd action)
    (stepped : network.step zstd action = some next) : next.Tidy zstd := by
  rcases steady with ⟨permitted, lasting⟩
  cases action with
  | server action =>
      simp only [Network.step] at stepped
      split at stepped
      · cases stepped
      · rcases Option.map_eq_some_iff.mp stepped with ⟨server, moved, rfl⟩
        exact tidy.server_step sound ⟨permitted.1, lasting.1, lasting.2⟩ moved
  | client connection action =>
      simp only [Network.step] at stepped
      split at stepped
      · cases stepped
      · rcases Option.map_eq_some_iff.mp stepped with ⟨client, moved, rfl⟩
        exact tidy.client_step sound later lasting moved
  | serverReceive connection pooled =>
      rcases Option.bind_eq_some_iff.mp stepped with ⟨⟨frame, read⟩, received, stepped⟩
      rcases Option.map_eq_some_iff.mp stepped with ⟨server, moved, rfl⟩
      have left : network.server.LinkIdsLeft (.gateway connection (.frame frame.1 frame.2)) := by
        intro draws
        cases draws
      exact tidy.server_step sound ⟨left, trivial, trivial⟩ moved
  | clientReceive connection pooled =>
      rcases Option.bind_eq_some_iff.mp stepped with ⟨⟨frame, read⟩, received, stepped⟩
      rcases Option.map_eq_some_iff.mp stepped with ⟨client, moved, rfl⟩
      exact tidy.client_step sound later ClientAction.noConfusion moved

theorem tidy_of_reachable (lawful : zstd.Lawful)
    (reachable : (system zstd).ReachableUnder (Steady zstd) network) : network.Tidy zstd := by
  refine reachable.invariant (tidy_new zstd) fun _ _ _ earlier tidy steady stepped => ?_
  have sound := sound_of_reachable lawful (earlier.mono fun _ _ => And.left)
  exact tidy.step sound (sound.step lawful steady.1 stepped) steady stepped

/-! ## Both sides wait -/

/-- Both exchange loops are running on the connection, and no write to it has failed. -/
structure Joined (network : Network) (connection : ConnectionRef) : Prop where
  served : network.Served connection
  serving : ∃ point, (network.client connection).run = .onConnection 0 (.exchanging point)
  server : (network.server.shared.sockets.writer connection).half.failed = false
  client : ((network.client connection).shared.sockets.writer 0).half.failed = false

/-- Both exchange loops wait, and what has been sent has been heard. -/
structure CaughtUp (network : Network) (connection : ConnectionRef) (addr : SocketAddr) :
    Prop where
  gateway : ∃ sessionId, network.server.gateway connection = .exchanging addr sessionId .receive
  run : (network.client connection).run = .onConnection 0 (.exchanging .receive)
  toServer : network.server.shared.heard connection = network.clientSent connection
  toClient : (network.client connection).heard = network.serverSent connection

theorem AtRest.caughtUp (rest : network.AtRest) (sound : network.Sound zstd)
    (joined : network.Joined connection) : ∃ addr, network.CaughtUp connection addr := by
  rcases rest.receiving joined.served with ⟨addr, sessionId, gateway⟩
  have below := sound.served_lt joined.served
  have run : (network.client connection).run = .onConnection 0 (.exchanging .receive) := by
    rcases joined.serving with ⟨point, run⟩
    rcases (rest.client connection below).run with idle | idle | ⟨serving, receiving⟩
    · cases run.symm.trans idle
    · cases run.symm.trans idle
    · cases run.symm.trans receiving
      exact run
  refine ⟨addr, ⟨sessionId, gateway⟩, run, ?_, ?_⟩
  · have unread := rest.toServer connection addr sessionId gateway
    exact (heard_of_toServer (sound.toServer connection)).eq_of_length_le
      (List.drop_eq_nil_iff.mp unread)
  · have unread := rest.toClient connection below 0 run
    exact (heard_of_toClient (sound.toClient connection)).eq_of_length_le
      (List.drop_eq_nil_iff.mp unread)

theorem AtRest.settled (rest : network.AtRest) : network.server.Settled := by
  constructor
  · intro ref
    rcases rest.server.app ref with (absent | finished) | ⟨linkId, writer, task⟩
    · rw [absent]; rfl
    · rw [finished]; rfl
    · rw [task]; rfl
  · intro ref
    rcases rest.server.gateway ref with (absent | rejected | finished) | ⟨addr, sessionId, task⟩
    · rw [absent]; rfl
    · rw [rejected]; rfl
    · rw [finished]; rfl
    · rw [task]; rfl

theorem AtRest.serverTask (rest : network.AtRest) (sound : network.Sound zstd)
    (registered : network.server.shared.base.links.lookup linkId = some ref) :
    ∃ writer, network.server.app ref = .exchanging linkId writer .read := by
  have held := Server.linksHeld_of_reachable sound.server.always linkId ref registered
  rcases rest.server.app ref with (absent | finished) | ⟨own, writer, task⟩
  · rw [absent] at held
    exact held.elim
  · rw [finished] at held
    exact held.elim
  · rw [task] at held
    exact ⟨writer, held ▸ task⟩

theorem AtRest.clientTask (rest : network.AtRest) (sound : network.Sound zstd)
    (below : connection < network.server.gatewayCount)
    (run : (network.client connection).run = .onConnection 0 (.exchanging .receive))
    (registered : (network.client connection).shared.base.links.lookup linkId = some link) :
    ∃ writer, (network.client connection).app link = .running linkId writer .read := by
  have held := (Client.tended_of_reachable (sound.client connection)).held linkId link registered
  rcases held.cases with opening | ⟨writer, point, running⟩
  · rw [run] at opening
    cases opening
  · rcases (rest.client connection below).app link with absent | finished | ⟨own, other, reading⟩
    · cases running.symm.trans absent
    · cases running.symm.trans finished
    · cases running.symm.trans reading
      exact ⟨writer, running⟩

/-- A link that the client has registered has not been closed by the server. -/
theorem CaughtUp.unclosed {addr : SocketAddr} (caught : network.CaughtUp connection addr)
    (tidy : network.Tidy zstd) (positive : linkId ≠ 0)
    (registered : (network.client connection).shared.base.links.lookup linkId = some link) :
    ¬ Has .close linkId (network.serverSent connection) := by
  intro closed
  rw [← caught.toClient] at closed
  rcases (tidy.closed connection).closed linkId positive closed with absent | removing
  · cases absent.symm.trans registered
  · rw [caught.run] at removing
    exact removing

/-- A link that the server has registered has not been retired by its client. -/
theorem CaughtUp.unretired {addr : SocketAddr} (caught : network.CaughtUp connection addr)
    (tidy : network.Tidy zstd) (positive : linkId ≠ 0)
    (registered : network.server.shared.base.links.lookup linkId = some ref) :
    ¬ Retired linkId (network.clientSent connection) := by
  intro retired
  rw [← caught.toServer] at retired
  rcases tidy.retired connection linkId positive retired with absent | removing
  · cases absent.symm.trans registered
  · rcases caught.gateway with ⟨sessionId, gateway⟩
    rw [gateway] at removing
    exact removing

/-- Who forwards the data of a link has neither closed nor refused it. -/
theorem Sound.forwarded (sound : network.Sound zstd) (positive : linkId ≠ 0)
    (exists_ : link < (network.client connection).linkCount)
    (key : (network.clientLink connection link).connectionId = linkId) {writer : ConnectionRef}
    (running : (network.client connection).app link = .running linkId writer .read) :
    ¬ Retired linkId (network.clientSent connection) := by
  intro retired
  have speaks : ∃ type, Has type linkId (network.clientSent connection) :=
    retired.elim (fun closed => ⟨_, closed⟩) fun refused => ⟨_, refused⟩
  rcases speaks with ⟨type, has⟩
  rcases sound.client_sender positive has with ⟨senders, represents, sender⟩
  have phase : (senders.link linkId).phase = .forwarding none := by
    rw [← key, clientLink, represents.link link exists_]
    simp [Client.sender, running, ClientAppExchange.phase]
  have forwarding : (senders.link linkId).phase ≠ .closed := by
    rw [phase]
    exact SenderPhase.noConfusion
  rcases retired with closed | refused
  · exact sender.unclosed forwarding closed
  · exact sender.spoken.not_mem_refusal forwarding rfl (has_iff.mp refused)

/-- Only the client that a link has been opened to retires it. -/
theorem Sound.retired_by_owner (sound : network.Sound zstd)
    (owned : network.Owned connection linkId) {reader : ConnectionRef}
    (retired : Retired linkId (network.server.shared.heard reader)) :
    Retired linkId (network.clientSent connection) := by
  have sent : Retired linkId (network.clientSent reader) :=
    retired.mono (heard_of_toServer (sound.toServer reader))
  by_cases here : reader = connection
  · exact here ▸ sent
  · unfold Retired at sent
    rw [has_iff, has_iff, owned.client reader here] at sent
    rcases sent with closed | refused
    · cases closed
    · cases refused

/-! ## Agreement -/

theorem Sound.owned_of_registered (sound : network.Sound zstd)
    (found : (network.client connection).shared.base.links.lookup linkId = some link) :
    link < (network.client connection).linkCount ∧
      (network.clientLink connection link).connectionId = linkId ∧
      network.Owned connection linkId := by
  have key : (network.clientLink connection link).connectionId = linkId :=
    (Client.origins_of_reachable (sound.client connection)).registered linkId link found
  have exists_ := ((Client.epochs_of_reachable (sound.client connection)).links linkId link
    found).2
  exact ⟨exists_, key, key ▸ sound.owned exists_⟩

theorem AtRest.task_of_registered (rest : network.AtRest) (sound : network.Sound zstd)
    (tidy : network.Tidy zstd) (joined : network.Joined connection) {addr : SocketAddr}
    (caught : network.CaughtUp connection addr)
    (found : (network.client connection).shared.base.links.lookup linkId = some link) :
    ∃ ref, network.server.app ref = .exchanging linkId connection .read := by
  rcases sound.owned_of_registered found with ⟨_, _, owned⟩
  rcases Server.announced_of_reachable sound.server connection linkId owned.opened with
    ⟨ref, created, same⟩
  rcases sound.server_sender owned.positive owned.opened with ⟨senders, represents, own, sender⟩
  rcases rest.server.app ref with (absent | finished) | ⟨named, writer, task⟩
  · exact absurd (by rw [absent]; trivial) created
  · -- A task that has ended has sent its `Close`, which the client has heard.
    have done := (represents.finished ref finished (same ▸ owned.positive)).1
    rw [same] at done
    have spoken := sender.spoken
    rw [done, joined.server] at spoken
    rcases spoken.done with closed | ⟨type, _, refusal⟩
    · exact absurd (has_iff.mpr closed) (caught.unclosed tidy owned.positive found)
    · cases refusal
  · have identified := Server.identified_of_reachable sound.server
    have equal := identified.created ref named (by rw [task]; rfl) created
    rw [same] at equal
    subst equal
    have running := represents.task ref linkId (by rw [task]; rfl)
    rw [task] at running
    rw [running] at own
    change writer = connection at own
    exact ⟨ref, own ▸ task⟩

/-- A link of the client is registered with the server. -/
theorem AtRest.registered_server (rest : network.AtRest) (sound : network.Sound zstd)
    (tidy : network.Tidy zstd) (joined : network.Joined connection) {addr : SocketAddr}
    (caught : network.CaughtUp connection addr)
    (found : (network.client connection).shared.base.links.lookup linkId = some link) :
    ∃ ref, network.server.shared.base.links.lookup linkId = some ref ∧
      network.server.BoundTo ref connection := by
  rcases rest.task_of_registered sound tidy joined caught found with ⟨ref, task⟩
  rcases sound.owned_of_registered found with ⟨exists_, key, owned⟩
  have below := sound.served_lt joined.served
  have bound : network.server.BoundTo ref connection := by
    rw [Server.BoundTo, task]
    rfl
  have will : (network.server.app ref).WillClose linkId connection :=
    ⟨by rw [task]; rfl, bound, by rw [task]; rfl⟩
  refine ⟨ref, ?_, bound⟩
  have explained := Server.explained_of_reachable tidy.server
  rcases explained.registered ref linkId connection will with
    registered | ⟨reader, retired⟩ | left
  · exact registered
  · rcases rest.clientTask sound below caught.run found with ⟨writer, forwarding⟩
    exact absurd (sound.retired_by_owner owned retired)
      (sound.forwarded owned.positive exists_ key forwarding)
  · rcases caught.gateway with ⟨sessionId, gateway⟩
    rw [gateway] at left
    exact left.elim

theorem AtRest.spoken (rest : network.AtRest) (sound : network.Sound zstd)
    (joined : network.Joined connection)
    (found : network.server.shared.base.links.lookup linkId = some ref)
    (bound : network.server.BoundTo ref connection) :
    linkId ≠ 0 ∧ ∃ count, types linkId (network.serverSent connection) =
      .open_ :: List.replicate count .regular := by
  rcases rest.serverTask sound found with ⟨writer, task⟩
  have identified := Server.identified_of_reachable sound.server
  have positive := identified.positive ref linkId (by rw [task]; rfl)
  rw [Server.BoundTo, task] at bound
  cases bound
  rcases sound.serverSenders with ⟨senders, represents, faithful⟩
  have running := represents.task ref linkId (by rw [task]; rfl)
  rw [task] at running
  have sender := faithful.sender linkId positive
  rw [represents.writer, running] at sender
  have spoken : Spoken serverSignals (.forwarding none)
      (network.server.shared.sockets.writer connection).half.failed
      (types linkId (network.serverSent connection)) := sender.spoken
  rw [joined.server] at spoken
  exact ⟨positive, spoken.forwards⟩

theorem AtRest.opened (rest : network.AtRest) (sound : network.Sound zstd)
    (tidy : network.Tidy zstd) (joined : network.Joined connection) {addr : SocketAddr}
    (caught : network.CaughtUp connection addr)
    (found : network.server.shared.base.links.lookup linkId = some ref)
    (bound : network.server.BoundTo ref connection) :
    Has .opened linkId (network.clientSent connection) := by
  rcases rest.spoken sound joined found bound with ⟨positive, count, spoken⟩
  have heard : Has .open_ linkId (network.client connection).heard := by
    rw [caught.toClient, has_iff, spoken]
    exact List.mem_cons_self
  have idle : (network.client connection).run.pending 0 = none := by
    rw [caught.run]
    rfl
  rcases Client.answered_of_heard (sound.client connection) idle joined.client heard with
    answered | refused
  · exact answered
  · exact absurd (.inr refused) (caught.unretired tidy positive found)

/-- A link that the server has registered for the client is registered with the client. -/
theorem AtRest.registered_client (rest : network.AtRest) (sound : network.Sound zstd)
    (tidy : network.Tidy zstd) (joined : network.Joined connection) {addr : SocketAddr}
    (caught : network.CaughtUp connection addr)
    (found : network.server.shared.base.links.lookup linkId = some ref)
    (bound : network.server.BoundTo ref connection) :
    ∃ link, (network.client connection).shared.base.links.lookup linkId = some link := by
  rcases rest.spoken sound joined found bound with ⟨positive, count, spoken⟩
  have opened := rest.opened sound tidy joined caught found bound
  rcases tidy.opened connection linkId opened with ⟨link, exists_, same⟩
  have kept := (tidy.retained connection).links link exists_
  rw [same] at kept
  rcases kept with registered | closed | finished | left
  · exact ⟨link, registered⟩
  · rw [caught.toClient, has_iff, spoken] at closed
    simp [List.mem_replicate] at closed
  · -- A task that has ended has sent its `Close`, which the server has heard.
    rcases sound.client_sender positive opened with ⟨senders, represents, sender⟩
    have done := sender.spoken
    have ended := represents.link link exists_
    rw [same] at ended
    rw [ended, Client.sender_of_finished finished, joined.client] at done
    refine absurd ?_ (caught.unretired tidy positive found)
    rcases done.done with closed | ⟨type, refused, refusal⟩
    · exact .inl (has_iff.mpr closed)
    · cases refusal
      exact .inr (has_iff.mpr refused)
  · exact absurd caught.run (left.away _ _)

/-- A registered link is routed to the client that it is bound to. -/
theorem AtRest.routed (rest : network.AtRest) (sound : network.Sound zstd)
    (tidy : network.Tidy zstd) {addr : SocketAddr} (caught : network.CaughtUp connection addr)
    (found : network.server.shared.base.links.lookup linkId = some ref)
    (bound : network.server.BoundTo ref connection) :
    network.server.shared.linkClients.lookup linkId = some addr := by
  rcases rest.serverTask sound found with ⟨writer, task⟩
  rcases caught.gateway with ⟨sessionId, gateway⟩
  cases routed : network.server.shared.linkClients.lookup linkId with
  | none =>
      have bare : network.server.shared.Bare linkId :=
        ⟨by simp [GatewayServer.HasLink, found], by simp [GatewayServer.HasRoute, routed]⟩
      exact absurd bare ((Server.bareOwned_of_reachable sound.server.always).not_entry
        (Server.not_holdsBare_of_settled rest.settled) linkId)
  | some owner =>
      have attributed := Server.attributed_of_reachable tidy.server
      have served := (attributed.routed linkId owner routed).of_identified
        (Server.identified_of_reachable sound.server) (by rw [task]; rfl) bound
      rw [gateway] at served
      exact congrArg some served.symm

/-- In every run without reconnection and without a shutdown in which failed sockets stay
silent, link identifiers are left and no two connections that are being served come from one
address: when the network is at rest, a client and the server that are joined and have lost
no write have registered the same links, these are the two ends of one another, and each of
them is routed to the client. -/
theorem registries_agree (zstd : Zstd) (lawful : zstd.Lawful) (network : Network)
    (reachable : (system zstd).ReachableUnder (Steady zstd) network) (rest : network.AtRest)
    (connection : ConnectionRef) (joined : network.Joined connection) (linkId : UInt16) :
    ((∃ link, (network.client connection).shared.base.links.lookup linkId = some link) ↔
      ∃ ref, network.server.shared.base.links.lookup linkId = some ref ∧
        network.server.BoundTo ref connection) ∧
    ∀ ref link, network.server.shared.base.links.lookup linkId = some ref →
      (network.client connection).shared.base.links.lookup linkId = some link →
        network.Ends ref connection link ∧
        ∃ addr sessionId,
          network.server.gateway connection = .exchanging addr sessionId .receive ∧
          network.server.shared.linkClients.lookup linkId = some addr := by
  have sound := sound_of_reachable lawful (reachable.mono fun _ _ => And.left)
  have tidy := tidy_of_reachable lawful reachable
  rcases rest.caughtUp sound joined with ⟨addr, caught⟩
  refine ⟨⟨?_, ?_⟩, ?_⟩
  · intro registered
    rcases registered with ⟨link, found⟩
    exact rest.registered_server sound tidy joined caught found
  · intro registered
    rcases registered with ⟨ref, found, bound⟩
    exact rest.registered_client sound tidy joined caught found bound
  · intro ref link registered found
    rcases rest.registered_server sound tidy joined caught found with ⟨own, also, bound⟩
    cases registered.symm.trans also
    rcases sound.owned_of_registered found with ⟨exists_, key, _⟩
    have same := (Server.registered_of_reachable sound.server.always).key linkId ref registered
    rcases caught.gateway with ⟨sessionId, gateway⟩
    exact ⟨⟨exists_, same.trans key.symm⟩, addr, sessionId, gateway,
      rest.routed sound tidy caught registered bound⟩

theorem registries_agree_bothWays :
    ∃ network : Network, network.AtRest ∧
      (network.client 0).shared.base.links.lookup 1 = some 0 ∧
      (∃ ref, network.server.shared.base.links.lookup 1 = some ref ∧
        network.server.BoundTo ref 0) ∧
      network.server.shared.linkClients.lookup 1 = some localClient := by
  have executed : ((system .runLength).runChecked
      (fun network action => network.Steady .runLength action) .new
      (bothWays ++ untilRest)).any
      (fun network => network.OneLinkWaits ∧
        (network.client 0).shared.base.links.lookup 1 = some 0 ∧
        network.server.shared.base.links.lookup 1 = some 0 ∧
        (network.server.shared.sockets.writer 0).half.failed = false ∧
        ((network.client 0).shared.sockets.writer 0).half.failed = false) = true := by
    decide +kernel
  rcases TransitionSystem.exists_reaches_of_runChecked executed with ⟨network, reaches, found⟩
  rcases of_decide_eq_true found with ⟨waits, opened, registered, sending, answering⟩
  have reachable := reaches.mono fun _ _ passed => of_decide_eq_true passed
  have rest := waits.atRest
    (sound_of_reachable Zstd.runLength_lawful (reachable.mono fun _ _ => And.left))
  have gateway := waits.2.2.2.1
  have joined : network.Joined 0 :=
    ⟨⟨localClient, 7, .receive, gateway⟩, ⟨.receive, waits.2.2.2.2.1⟩, sending, answering⟩
  have agreed := registries_agree .runLength Zstd.runLength_lawful network reachable rest 0
    joined 1
  rcases agreed.2 0 0 registered opened with ⟨_, addr, sessionId, run, routed⟩
  cases gateway.symm.trans run
  exact ⟨network, rest, opened, agreed.1.mp ⟨0, opened⟩, routed⟩

/-! ## Open links -/

def SteadyInTime (zstd : Zstd) (network : Network) (action : NetworkAction) : Prop :=
  network.Steady zstd action ∧ network.inTime action = true

instance (zstd : Zstd) (network : Network) (action : NetworkAction) :
    Decidable (network.SteadyInTime zstd action) :=
  inferInstanceAs (Decidable (_ ∧ _))

/-- Both ends of the link pass data on to their applications. -/
structure Connected (network : Network) (ref : LinkRef) (connection : ConnectionRef)
    (link : LinkRef) : Prop where
  server : (network.serverLink ref).state = .connected
  client : (network.clientLink connection link).state = .connected

theorem AtRest.connected (rest : network.AtRest) (sound : network.Sound zstd)
    (tidy : network.Tidy zstd) (prompt : network.Prompt) (joined : network.Joined connection)
    {addr : SocketAddr} (caught : network.CaughtUp connection addr)
    (found : network.server.shared.base.links.lookup linkId = some ref)
    (bound : network.server.BoundTo ref connection)
    (also : (network.client connection).shared.base.links.lookup linkId = some link) :
    network.Connected ref connection link := by
  constructor
  · have opened := rest.opened sound tidy joined caught found bound
    rw [← caught.toServer] at opened
    have live := Server.live_of_reachable sound.server.always
    rcases prompt connection linkId ref (rest.spoken sound joined found bound).1 opened found with
      already | opening
    · exact already.connected (live.open_ linkId ref found)
    · rcases caught.gateway with ⟨sessionId, gateway⟩
      rw [gateway] at opening
      exact opening.elim
  · rcases (sound.clientReceiving connection).connected linkId link also with connected | connects
    · exact connected
    · rw [caught.run] at connects
      cases connects

/-- In every run as in `registries_agree` in which, moreover, each handler has written
`Waiting` before `Opened` takes effect: when the network is at rest, no link of a client and
the server that are joined is half open. Each link that is registered on one side is
registered on both and connected on both, and the applications at its ends have been written
everything that the other one has sent, unless a write to them has failed. -/
theorem no_half_open_links (zstd : Zstd) (lawful : zstd.Lawful) (network : Network)
    (reachable : (system zstd).ReachableUnder (SteadyInTime zstd) network)
    (rest : network.AtRest) (connection : ConnectionRef) (joined : network.Joined connection)
    (linkId : UInt16)
    (registered : (∃ link,
        (network.client connection).shared.base.links.lookup linkId = some link) ∨
      ∃ ref, network.server.shared.base.links.lookup linkId = some ref ∧
        network.server.BoundTo ref connection) :
    ∃ ref link, network.server.shared.base.links.lookup linkId = some ref ∧
      (network.client connection).shared.base.links.lookup linkId = some link ∧
      network.Ends ref connection link ∧ network.Connected ref connection link ∧
      ((network.clientLink connection link).writer.failed = false →
        (network.clientLink connection link).writer.written =
          (network.serverLink ref).received) ∧
      ((network.serverLink ref).writer.failed = false →
        (network.serverLink ref).writer.written =
          (network.clientLink connection link).received) := by
  have steady := reachable.mono fun _ _ => And.left
  have sound := sound_of_reachable lawful (steady.mono fun _ _ => And.left)
  have tidy := tidy_of_reachable lawful steady
  have prompt := prompt_of_reachable lawful
    (reachable.mono fun _ _ permitted => ⟨permitted.1.1, permitted.2⟩)
  have below := sound.served_lt joined.served
  rcases rest.caughtUp sound joined with ⟨addr, caught⟩
  have both : ∃ ref link, network.server.shared.base.links.lookup linkId = some ref ∧
      network.server.BoundTo ref connection ∧
      (network.client connection).shared.base.links.lookup linkId = some link := by
    rcases registered with ⟨link, found⟩ | ⟨ref, found, bound⟩
    · rcases rest.registered_server sound tidy joined caught found with ⟨ref, also, bound⟩
      exact ⟨ref, link, also, bound, found⟩
    · rcases rest.registered_client sound tidy joined caught found bound with ⟨link, also⟩
      exact ⟨ref, link, found, bound, also⟩
  rcases both with ⟨ref, link, onServer, bound, onClient⟩
  rcases sound.owned_of_registered onClient with ⟨exists_, key, _⟩
  have same : (network.serverLink ref).connectionId = linkId :=
    (Server.registered_of_reachable sound.server.always).key linkId ref onServer
  have ends : network.Ends ref connection link := ⟨exists_, same.trans key.symm⟩
  have connected := rest.connected sound tidy prompt joined caught onServer bound onClient
  refine ⟨ref, link, onServer, onClient, ends, connected, fun healthy => ?_, fun healthy => ?_⟩
  · exact rest.toClient_delivered sound below ends
      ⟨by rw [key]; exact onClient, healthy, joined.server⟩
  · exact rest.toServer_delivered sound below joined.served ends
      ⟨by rw [same]; exact onServer, connected.server, healthy, by rw [key]; exact onClient,
        joined.client⟩

theorem no_half_open_links_bothWays :
    ∃ network : Network, network.AtRest ∧ (network.clientLink 0 0).writer.written = [7, 8] ∧
      network.Connected 0 0 0 ∧
      (network.clientLink 0 0).writer.written = (network.serverLink 0).received := by
  have executed : ((system .runLength).runChecked
      (fun network action => network.SteadyInTime .runLength action) .new
      (bothWays ++ untilRest)).any
      (fun network => network.OneLinkWaits ∧
        (network.clientLink 0 0).writer.written = [7, 8] ∧
        (network.clientLink 0 0).writer.failed = false ∧
        (network.client 0).shared.base.links.lookup 1 = some 0 ∧
        network.server.shared.base.links.lookup 1 = some 0 ∧
        (network.server.shared.sockets.writer 0).half.failed = false ∧
        ((network.client 0).shared.sockets.writer 0).half.failed = false) = true := by
    decide +kernel
  rcases TransitionSystem.exists_reaches_of_runChecked executed with ⟨network, reaches, found⟩
  rcases of_decide_eq_true found with
    ⟨waits, written, healthy, opened, registered, sending, answering⟩
  have reachable := reaches.mono fun _ _ passed => of_decide_eq_true passed
  have rest := waits.atRest (sound_of_reachable Zstd.runLength_lawful
    (reachable.mono fun _ _ permitted => permitted.1.1))
  have joined : network.Joined 0 := ⟨⟨localClient, 7, .receive, waits.2.2.2.1⟩,
    ⟨.receive, waits.2.2.2.2.1⟩, sending, answering⟩
  rcases no_half_open_links .runLength Zstd.runLength_lawful network reachable rest 0 joined 1
    (.inl ⟨0, opened⟩) with ⟨ref, link, onServer, onClient, _, connected, delivered, _⟩
  cases registered.symm.trans onServer
  cases opened.symm.trans onClient
  exact ⟨network, rest, written, connected, delivered healthy⟩

end Network

end IoGateway

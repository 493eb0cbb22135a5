import IoGateway.Fidelity
import IoGateway.Server.Closing

/-! # Closed links, towards the server

When the server removes a registered link because its client has sent `Close`, the
application behind the server has been written everything that the other one has sent.
-/

namespace IoGateway

/-- Who closes a link has opened it. -/
theorem Spoken.opening_of_close {signals : Signals} {phase : SenderPhase} {failed : Bool}
    {spoken earlier : List PacketType} (speaks : Spoken signals phase failed spoken)
    (front : earlier <+: spoken) (closed : PacketType.close ∈ earlier) :
    signals.opening ∈ earlier := by
  have first : ∀ {rest : List PacketType}, earlier <+: signals.opening :: rest →
      signals.opening ∈ earlier := by
    intro rest front
    cases earlier with
    | nil => cases closed
    | cons head tail =>
        rw [(List.cons_prefix_cons.mp front).1]
        exact List.mem_cons_self
  cases speaks with
  | unopened => exact absurd (front.subset closed) List.not_mem_nil
  | forwarding => exact first front
  | closed => exact first front
  | refused refusal =>
      have same := List.mem_singleton.mp (front.subset closed)
      exact absurd same.symm (signals.refusal_bare _ refusal).2.2
  | unheard => exact absurd (front.subset closed) List.not_mem_nil
  | cut => exact first front

theorem types_front {linkId : UInt16} {earlier frames : List Frame} (grown : earlier <+: frames) :
    types linkId earlier <+: types linkId frames :=
  (grown.filter _).map _

namespace Network

variable {zstd : Zstd} {network next later : Network} {connection : ConnectionRef}
  {ref link : LinkRef} {linkId : UInt16}

/-- `Opened` takes effect on the server only after the handler has written `Waiting`. -/
def inTime (network : Network) : NetworkAction → Bool
  | .server action => network.server.waitingWritten action
  | _ => true

def PermittedInTime (zstd : Zstd) (network : Network) (action : NetworkAction) : Prop :=
  network.Permitted zstd action ∧ network.inTime action = true

instance (zstd : Zstd) (network : Network) (action : NetworkAction) :
    Decidable (network.PermittedInTime zstd action) :=
  inferInstanceAs (Decidable (_ ∧ _))

/-- A client speaks of a link only when the server has opened it to this client. -/
theorem Sound.announced (sound : network.Sound zstd) (positive : linkId ≠ 0)
    {type : PacketType} (heard : Has type linkId (network.server.shared.heard connection)) :
    Has .open_ linkId (network.client connection).heard ∧
      ∃ link, network.server.Created link ∧
        (network.server.shared.base.link link).connectionId = linkId := by
  have sent := heard.mono (heard_of_toServer (sound.toServer connection))
  have opened : Has .open_ linkId (network.client connection).heard := by
    by_contra unheard
    have silent := sound.unopened positive unheard
    have spoken := has_iff.mp sent
    change types linkId ((network.client connection).shared.sockets.writer 0).sent = [] at silent
    rw [silent] at spoken
    cases spoken
  refine ⟨opened, Server.announced_of_reachable sound.server connection linkId ?_⟩
  exact opened.mono (heard_of_toClient (sound.toClient connection))

theorem Sound.openedTaken_step (sound : network.Sound zstd) (taken : network.server.OpenedTaken)
    {action : NetworkAction} (inTime : network.inTime action = true)
    (stepped : network.step zstd action = some next) : next.server.OpenedTaken := by
  have slots := Server.slotsInOrder_of_reachable sound.server.always
  have identified := Server.identified_of_reachable sound.server
  have announced := fun connection linkId positive opened =>
    (@Sound.announced zstd network connection linkId sound positive .opened opened).2
  cases action with
  | server action =>
      simp only [Network.step] at stepped
      split at stepped
      · cases stepped
      · rcases Option.map_eq_some_iff.mp stepped with ⟨server, moved, rfl⟩
        exact taken.step slots identified announced inTime moved
  | client moving action =>
      simp only [Network.step] at stepped
      split at stepped
      · cases stepped
      · rcases Option.map_eq_some_iff.mp stepped with ⟨client, moved, rfl⟩
        exact taken
  | serverReceive reading pooled =>
      rcases Option.bind_eq_some_iff.mp stepped with ⟨⟨frame, read⟩, received, stepped⟩
      rcases Option.map_eq_some_iff.mp stepped with ⟨server, moved, rfl⟩
      exact taken.step slots identified announced (Server.waitingWritten_of_frame moved) moved
  | clientReceive reading pooled =>
      rcases Option.bind_eq_some_iff.mp stepped with ⟨⟨frame, read⟩, received, stepped⟩
      rcases Option.map_eq_some_iff.mp stepped with ⟨client, moved, rfl⟩
      exact taken

/-- What the server's exchange loops have read as opened is opened. -/
def Prompt (network : Network) : Prop := network.server.OpenedTaken

theorem prompt_of_reachable (lawful : zstd.Lawful)
    (reachable : (system zstd).ReachableUnder (PermittedInTime zstd) network) : network.Prompt :=
  reachable.invariant Server.openedTaken_new fun _ _ _ earlier taken permitted stepped =>
    (sound_of_reachable lawful (earlier.mono fun _ _ => And.left)).openedTaken_step taken
      permitted.2 stepped

theorem Sound.client_sender (sound : network.Sound zstd) (positive : linkId ≠ 0)
    {type : PacketType} (has : Has type linkId (network.clientSent connection)) :
    ∃ senders, (network.client connection).Represents senders ∧
      (senders.link linkId).Faithful clientSignals linkId (network.clientSent connection)
        ((network.client connection).shared.sockets.writer 0).half.failed := by
  rcases sound.clientSenders connection with ⟨senders, represents, faithful⟩
  have speaker := @Senders.Faithful.speaker _ _ linkId senders 0 faithful positive
  rw [represents.writer] at speaker
  exact ⟨senders, represents, (speaker (List.ne_nil_of_mem (has_iff.mp has))).2⟩

theorem Sound.server_sender (sound : network.Sound zstd) (positive : linkId ≠ 0)
    {type : PacketType} (has : Has type linkId (network.serverSent connection)) :
    ∃ senders, network.server.Represents senders ∧
      (senders.link linkId).connection = connection ∧
      (senders.link linkId).Faithful serverSignals linkId (network.serverSent connection)
        (network.server.shared.sockets.writer connection).half.failed := by
  rcases sound.serverSenders with ⟨senders, represents, faithful⟩
  have speaker := @Senders.Faithful.speaker _ _ linkId senders connection faithful positive
  rw [represents.writer] at speaker
  exact ⟨senders, represents, speaker (List.ne_nil_of_mem (has_iff.mp has))⟩

theorem Sound.opened_of_close (sound : network.Sound zstd) (positive : linkId ≠ 0)
    (closed : Has .close linkId (network.server.shared.heard connection)) :
    Has .opened linkId (network.server.shared.heard connection) := by
  have front := heard_of_toServer (sound.toServer connection)
  rcases sound.client_sender positive (closed.mono front) with ⟨senders, _, sender⟩
  rw [has_iff] at closed ⊢
  exact sender.spoken.opening_of_close (types_front front) closed

/-- What a client has sent of a link before its `Close` is what its application has sent. -/
theorem Sound.client_closed (sound : network.Sound zstd)
    (exists_ : link < (network.client connection).linkCount)
    (closed : Has .close (network.clientLink connection link).connectionId
      (network.clientSent connection)) :
    payloads (network.clientLink connection link).connectionId (network.clientSent connection) =
      (network.clientLink connection link).received := by
  have positive := (sound.owned exists_).positive
  rcases sound.client_sender positive closed with ⟨senders, represents, sender⟩
  have received := represents.link link exists_
  have same := Client.sender_received (sound.linked connection) exists_
  refine (sender.closed closed).trans ?_
  rw [clientLink, received, same]

theorem Sound.client_concluded (sound : network.Sound zstd) (positive : linkId ≠ 0) :
    Concluded linkId (network.clientSent connection) := by
  rcases sound.clientSenders connection with ⟨senders, represents, faithful⟩
  have concluded := faithful.concluded 0 linkId positive
  rwa [represents.writer] at concluded

/-- What comes for an opened link comes on the connection of the client it was opened to. -/
theorem Sound.sole_of_opened (sound : network.Sound zstd) (positive : linkId ≠ 0)
    (opened : Has .open_ linkId (network.client connection).heard) :
    network.server.Sole connection linkId := by
  rcases sound.server_grammar positive with ⟨serving, _, others⟩
  have own : connection = serving := by
    by_contra different
    exact sound.has_of_heard opened (others connection different)
  subst own
  exact sound.sole fun other different => sound.unopened positive
    fun opened => sound.has_of_heard opened (others other different)

/-- What was settled in a state stays so: the server's link, what was heard of it and what
was written to its application. -/
structure Keeps (network : Network) (connection : ConnectionRef) (ref : LinkRef)
    (later : Network) : Prop where
  created : later.server.Created ref
  same : (later.serverLink ref).connectionId = (network.serverLink ref).connectionId
  heard : network.server.shared.heard connection <+: later.server.shared.heard connection
  written : (network.serverLink ref).writer.written <+: (later.serverLink ref).writer.written

theorem Keeps.server (keeps : network.Keeps connection ref later)
    (slots : Server.SlotsInOrder later.server) {action : ServerAction} {server : Server}
    (stepped : later.server.step zstd action = some server) (moved : next.server = server) :
    network.Keeps connection ref next := by
  subst moved
  refine ⟨Server.created_of_step slots stepped keeps.created, ?_, ?_, ?_⟩
  · exact (Server.connectionId_of_step stepped keeps.created).trans keeps.same
  · exact keeps.heard.trans (Server.heard_prefix_of_step stepped connection).1
  · exact keeps.written.trans (Server.written_prefix_of_step stepped keeps.created)

theorem Keeps.step (keeps : network.Keeps connection ref later)
    (slots : Server.SlotsInOrder later.server) {action : NetworkAction}
    (stepped : later.step zstd action = some next) : network.Keeps connection ref next := by
  cases sideStep_of_step stepped with
  | server moved => exact keeps.server slots moved rfl
  | client => exact ⟨keeps.created, keeps.same, keeps.heard, keeps.written⟩

/-- A link that had been written all that was heard of it at its `Close` has been and stays
written everything that its client's application has sent. -/
theorem Sound.complete_server (sound : later.Sound zstd)
    (keeps : network.Keeps connection ref later) (ends : later.Ends ref connection link)
    (closed : Has .close (network.serverLink ref).connectionId
      (network.server.shared.heard connection))
    (whole : (network.serverLink ref).writer.written =
      payloads (network.serverLink ref).connectionId (network.server.shared.heard connection)) :
    (later.serverLink ref).writer.written = (later.clientLink connection link).received := by
  have id : (network.serverLink ref).connectionId =
      (later.clientLink connection link).connectionId := keeps.same.symm.trans ends.same
  rw [id] at closed whole
  have positive := (sound.owned ends.exists_).positive
  have sent : network.server.shared.heard connection <+: later.clientSent connection :=
    keeps.heard.trans (heard_of_toServer (sound.toServer connection))
  have complete : (network.serverLink ref).writer.written =
      (later.clientLink connection link).received := by
    rw [whole, sound.client_concluded positive _ sent closed]
    exact sound.client_closed ends.exists_ (closed.mono sent)
  have before := keeps.written
  rw [complete] at before
  exact (before.eq_of_length_le
    (sound.fidelity.toServer ref connection link ends).length_le).symm

/-- In every run without reconnection in which failed sockets stay silent, link identifiers
are left and each handler has written `Waiting` before `Opened` takes effect: from the
removal of a registered link by the `Close` of its client on, the application behind the
server has been written everything that the client's application has sent, unless a write
to it has failed. -/
theorem closed_links_complete (zstd : Zstd) (lawful : zstd.Lawful) (network later : Network)
    (reachable : (system zstd).ReachableUnder (PermittedInTime zstd) network)
    (reaches : (system zstd).Reaches (PermittedInTime zstd) network later)
    (connection : ConnectionRef) (addr : SocketAddr) (sessionId : Uuid) (linkId : UInt16)
    (ref link : LinkRef)
    (removing : network.server.gateway connection =
      .exchanging addr sessionId (.removing (.link linkId)))
    (found : network.server.shared.base.links.lookup linkId = some ref)
    (closed : Has .close linkId (network.server.shared.heard connection))
    (healthy : (network.serverLink ref).writer.failed = false)
    (ends : later.Ends ref connection link) :
    (later.serverLink ref).writer.written = (later.clientLink connection link).received := by
  have sound := sound_of_reachable lawful (reachable.mono fun _ _ => And.left)
  have registered := Server.registered_of_reachable sound.server.always
  have key : (network.serverLink ref).connectionId = linkId := registered.key linkId ref found
  have kept : later.Sound zstd ∧ network.Keeps connection ref later := by
    have start : network.Keeps connection ref network :=
      ⟨registered.task linkId ref found, rfl, List.prefix_refl _, List.prefix_refl _⟩
    clear ends
    induction reaches with
    | refl => exact ⟨sound, start⟩
    | step _ permitted stepped induction =>
        have slots := Server.slotsInOrder_of_reachable induction.1.server.always
        exact ⟨induction.1.step lawful permitted.1 stepped, induction.2.step slots stepped⟩
  have positive : linkId ≠ 0 := by
    rw [← key, ← kept.2.same, ends.same]
    exact (kept.1.owned ends.exists_).positive
  have whole := Server.written_of_removing (Server.live_of_reachable sound.server.always)
    (prompt_of_reachable lawful reachable) registered sound.serverReceiving removing found positive
    (sound.sole_of_opened positive (sound.announced positive closed).1)
    (sound.opened_of_close positive closed) healthy
  subst key
  exact kept.1.complete_server kept.2 ends closed whole

/-- Both links are opened, the client's application sends a byte and ends its stream, and
the server has read the `Close`. -/
def clientClosed : List NetworkAction :=
  linkOpened ++ [.serverReceive 0 [], .server (.gateway 0 .go), .server (.gateway 0 .go),
    .client 0 (.app 0 (.chunk [8])), .client 0 (.app 0 .go), .client 0 (.app 0 (.write .ok)),
    .client 0 (.app 0 .go), .client 0 (.app 0 .ended), .client 0 (.app 0 .go),
    .client 0 (.app 0 (.write .ok)), .serverReceive 0 [], .server (.gateway 0 .go),
    .server (.gateway 0 (.write .ok)), .serverReceive 0 [], .server (.gateway 0 .go)]

theorem closed_links_complete_clientClosed :
    ∃ network : Network, (network.serverLink 0).writer.written = [8] ∧
      (network.serverLink 0).writer.written = (network.clientLink 0 0).received := by
  have executed : ((system .runLength).runChecked
      (fun network action => network.PermittedInTime .runLength action) .new clientClosed).any
      (fun network => (network.serverLink 0).writer.written = [8] ∧
        network.server.gateway 0 = .exchanging localClient 7 (.removing (.link 1)) ∧
        network.server.shared.base.links.lookup 1 = some 0 ∧
        PacketType.close ∈ types 1 (network.server.shared.heard 0) ∧
        (network.serverLink 0).writer.failed = false ∧
        0 < (network.client 0).linkCount ∧ (network.serverLink 0).connectionId =
          (network.clientLink 0 0).connectionId) = true := by decide +kernel
  rcases TransitionSystem.exists_reaches_of_runChecked executed with ⟨network, reaches, found⟩
  rcases of_decide_eq_true found with
    ⟨written, removing, registered, closed, healthy, exists_, same⟩
  have reachable := reaches.mono fun _ _ passed => of_decide_eq_true passed
  exact ⟨network, written, closed_links_complete .runLength Zstd.runLength_lawful network network
    reachable .refl 0 localClient 7 1 0 0 removing registered (has_iff.mpr closed) healthy
    ⟨exists_, same⟩⟩

end Network

end IoGateway

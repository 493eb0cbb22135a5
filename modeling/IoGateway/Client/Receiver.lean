import IoGateway.Receivers
import IoGateway.Client.Opening

/-! # The client as a receiving side

The exchange loop writes the data of a frame to the registered link. A link is active
from its registration, before any data have come for it, until it is removed; when
`Close` removes it, everything that was received has been written.
-/

namespace IoGateway

def RunTask.held (linkId : UInt16) : RunTask → Bytes
  | .onConnection _ (.exchanging (.forward looked payload)) =>
      if looked = linkId then payload else []
  | _ => []

def RunTask.connects? : RunTask → Option LinkRef
  | .onConnection _ (.exchanging (.connecting (.setConnected _ link))) => some link
  | _ => none

def RunTask.Bare (task : RunTask) : Prop :=
  (∀ linkId, task.held linkId = []) ∧ task.connects? = none

namespace GatewayClient

variable {zstd : Zstd} {client after : GatewayClient} {input : Input} {link : LinkRef}

/-- The link keeps what has been written to it, and its state while it is registered. -/
structure LinkKept (link : LinkRef) (client after : GatewayClient) : Prop where
  connectionId : (after.base.link link).connectionId = (client.base.link link).connectionId
  written : (after.base.link link).writer.written = (client.base.link link).writer.written
  failed : (after.base.link link).writer.failed = (client.base.link link).writer.failed
  registered : ∀ linkId, after.base.links.lookup linkId = some link →
    client.base.links.lookup linkId = some link ∧
      (after.base.link link).state = (client.base.link link).state

theorem LinkKept.refl (link : LinkRef) (client : GatewayClient) : LinkKept link client client :=
  ⟨rfl, rfl, rfl, fun _ found => ⟨found, rfl⟩⟩

theorem LinkKept.ofBase (same : after.base = client.base) : LinkKept link client after := by
  refine ⟨?_, ?_, ?_, ?_⟩ <;> rw [same]
  exact fun _ found => ⟨found, rfl⟩

theorem LinkKept.erase {linkId : UInt16} : LinkKept link client
    (client.updateBase { client.base with links := client.base.links.erase linkId }) :=
  ⟨rfl, rfl, rfl, fun _ found => ⟨(FiniteMap.lookup_of_erase found).2, rfl⟩⟩

theorem LinkKept.update {ref : LinkRef} (update : Link → Link)
    (quiet : ∀ before : Link, (update before).connectionId = before.connectionId ∧
      (update before).writer = before.writer ∧ (update before).state = before.state) :
    LinkKept link client (client.updateLink ref update) := by
  have same := quiet (client.base.link link)
  by_cases equal : link = ref
  · subst equal
    have updated : (client.updateLink link update).base.link link =
        update (client.base.link link) := Function.update_self ..
    refine ⟨?_, ?_, ?_, ?_⟩ <;> rw [updated]
    · exact same.1
    · rw [same.2.1]
    · rw [same.2.1]
    · exact fun _ found => ⟨found, same.2.2⟩
  · have unchanged : (client.updateLink ref update).base.link link = client.base.link link :=
      Function.update_of_ne equal _ _
    refine ⟨?_, ?_, ?_, ?_⟩ <;> rw [unchanged]
    exact fun _ found => ⟨found, rfl⟩

theorem LinkKept.updateOther {ref : LinkRef} {update : Link → Link} (different : link ≠ ref) :
    LinkKept link client (client.updateLink ref update) := by
  have unchanged : (client.updateLink ref update).base.link link = client.base.link link :=
    Function.update_of_ne different _ _
  refine ⟨?_, ?_, ?_, ?_⟩ <;> rw [unchanged]
  exact fun _ found => ⟨found, rfl⟩

theorem LinkKept.closeAllLinks :
    LinkKept link client (client.updateBase client.base.closeAllLinks) := by
  have quiet : (client.base.link link).Quiet (client.base.closeAllLinks.link link) := by
    simp only [Gateway.closeAllLinks]
    split
    · exact Link.quiet_closeConnection _
    · exact .refl _
  refine ⟨quiet.connectionId, quiet.written, quiet.failed, ?_⟩
  intro linkId found
  cases found

theorem AppStep.linkKept {ref : LinkRef} {task next : ClientAppTask}
    (stepped : client.AppStep zstd ref task input after next) (link : LinkRef) :
    LinkKept link client after := by
  cases stepped with
  | @read _ _ bytes => exact .update (Link.receive · bytes) fun _ => ⟨rfl, rfl, rfl⟩
  | sendRegular sent => exact .ofBase sent.base
  | sendFailed sent => exact .ofBase sent.base
  | sendClose sent => exact .ofBase sent.base
  | @addIncoming _ _ bytes =>
      exact .update (Link.addIncoming · (UInt64.ofNat bytes.length)) fun _ => ⟨rfl, rfl, rfl⟩
  | removeLink => exact .erase
  | _ => exact ⟨rfl, rfl, rfl, fun _ found => ⟨found, rfl⟩⟩

end GatewayClient

namespace Client

variable {zstd : Zstd} {client next : Client} {action : ClientAction} {input : Input}
  {connection : ConnectionRef} {linkId : UInt16} {link : LinkRef}

/-- Everything that was received for the link has been written, and it was all. -/
def Settled (client : Client) (link : LinkRef) : Prop :=
  Has .close (client.shared.base.link link).connectionId client.heard ∧
    ((client.shared.base.link link).writer.failed = false →
      (client.shared.base.link link).writer.written =
        payloads (client.shared.base.link link).connectionId client.heard)

/-- What is known at the points between the receipt of a frame and its effect. -/
def Handling (client : Client) : RunTask → Prop
  | .onConnection _ (.exchanging (.connecting point)) =>
      ∀ linkId, point.announces? = some linkId → payloads linkId client.heard = []
  | .onConnection _ (.exchanging (.removeLink linkId)) => Has .close linkId client.heard
  | .onConnection _ (.exchanging (.closeLink link)) => link < client.linkCount ∧
      client.shared.base.links.lookup (client.shared.base.link link).connectionId ≠ some link ∧
      client.Settled link
  | _ => True

def Written (client : Client) (link : LinkRef) : Prop :=
  Receives (client.shared.base.link link).connectionId client.heard
    (client.shared.base.link link).writer
    (client.shared.base.links.lookup (client.shared.base.link link).connectionId = some link)
    (client.run.held (client.shared.base.link link).connectionId)

structure Receiving (client : Client) : Prop where
  handling : client.Handling client.run
  connected : ∀ linkId link, client.shared.base.links.lookup linkId = some link →
    (client.shared.base.link link).state = .connected ∨ client.run.connects? = some link
  written : ∀ link < client.linkCount, client.Written link

theorem receiving_new : Receiving Client.new where
  handling := trivial
  connected := fun _ _ found => nomatch found
  written := fun _ exists_ => absurd exists_ (Nat.not_lt_zero _)

theorem heard_congr (received : next.shared.sockets.received = client.shared.sockets.received) :
    next.heard = client.heard := by
  rw [heard, received, heard]

theorem Written.keep (written : client.Written link) (heard : next.heard = client.heard)
    (kept : client.shared.LinkKept link next.shared)
    (held : client.shared.base.links.lookup (client.shared.base.link link).connectionId =
      some link → next.run.held (client.shared.base.link link).connectionId =
        client.run.held (client.shared.base.link link).connectionId) : next.Written link := by
  unfold Written at written ⊢
  rw [heard, kept.connectionId]
  refine written.quiet kept.written kept.failed fun active => ?_
  have before := (kept.registered _ active).1
  exact ⟨before, held before⟩

theorem Handling.keep {task : RunTask} (handling : client.Handling task)
    (heard : next.heard = client.heard) (linkCount : next.linkCount = client.linkCount)
    (kept : ∀ link, client.shared.LinkKept link next.shared) : next.Handling task := by
  unfold Handling at handling ⊢
  split at handling
  · rw [heard]
    exact handling
  · rw [heard]
    exact handling
  · rename_i link
    have same := kept link
    refine ⟨linkCount ▸ handling.1, fun found => handling.2.1 ?_, ?_⟩
    · rw [same.connectionId] at found
      exact (same.registered _ found).1
    · unfold Settled
      rw [heard, same.connectionId, same.written, same.failed]
      exact handling.2.2
  · trivial

theorem Receiving.keep (receiving : client.Receiving) (heard : next.heard = client.heard)
    (linkCount : next.linkCount = client.linkCount)
    (kept : ∀ link, client.shared.LinkKept link next.shared)
    (held : ∀ linkId, client.shared.base.links.lookup linkId ≠ none →
      next.run.held linkId = client.run.held linkId)
    (connects : ∀ link, client.run.connects? = some link → next.run.connects? = some link)
    (handling : next.Handling next.run) : next.Receiving where
  handling := handling
  connected := by
    intro linkId link found
    have before := (kept link).registered linkId found
    rw [before.2]
    exact (receiving.connected linkId link before.1).imp_right (connects link)
  written := by
    intro link exists_
    exact (receiving.written link (linkCount ▸ exists_)).keep heard (kept link)
      fun found => held _ (by rw [found]; exact Option.some_ne_none _)

theorem Receiving.pass (receiving : client.Receiving) (heard : next.heard = client.heard)
    (linkCount : next.linkCount = client.linkCount)
    (kept : ∀ link, client.shared.LinkKept link next.shared) (before : client.run.Bare)
    (after : ∀ linkId, next.run.held linkId = []) (handling : next.Handling next.run) :
    next.Receiving := by
  refine receiving.keep heard linkCount kept (fun linkId _ => ?_) (fun link connects => ?_) handling
  · rw [before.1, after]
  · rw [before.2] at connects
    cases connects

theorem Receiving.other (receiving : client.Receiving) (heard : next.heard = client.heard)
    (linkCount : next.linkCount = client.linkCount) (run : next.run = client.run)
    (kept : ∀ link, client.shared.LinkKept link next.shared) : next.Receiving := by
  refine receiving.keep heard linkCount kept (fun _ _ => by rw [run])
    (fun _ => by rw [run]; exact id) ?_
  rw [run]
  exact receiving.handling.keep heard linkCount kept

/-! ## What the exchange loop does -/

section

variable {point : GatewayExchange}

/-- The data of the received frame are held until they are written. -/
theorem held_of_dispatch {packet : PacketGW} {data : Option Bytes}
    (dispatched : GatewayClient.dispatch packet data = some point) :
    (RunTask.onConnection connection (.exchanging point)).held linkId =
      (Frame.of (packet, data)).payloadOf linkId := by
  unfold GatewayClient.dispatch at dispatched
  cases type : packet.packetType with
  | regular =>
      cases data with
      | none =>
          rw [Frame.payloadOf_of_none rfl]
          simp only [type, Option.some.injEq] at dispatched
          subst dispatched
          rfl
      | some payload =>
          simp only [type, Option.some.injEq] at dispatched
          subst dispatched
          simp [RunTask.held, Frame.payloadOf, Frame.of, type]
  | gwDeny =>
      rw [type] at dispatched
      cases dispatched
  | _ =>
      simp only [type, Option.some.injEq] at dispatched
      subst dispatched
      simp [RunTask.held, Frame.payloadOf, Frame.of, type]

theorem handling_of_dispatch {packet : PacketGW} {data : Option Bytes} {earlier : List Frame}
    (dispatched : GatewayClient.dispatch packet data = some point)
    (heard : client.heard = earlier ++ [Frame.of (packet, data)])
    (introduced : ∀ linkId, Introduced .open_ linkId client.heard) :
    client.Handling (.onConnection connection (.exchanging point)) := by
  unfold GatewayClient.dispatch at dispatched
  cases type : packet.packetType with
  | open_ =>
      simp only [type, Option.some.injEq] at dispatched
      subst dispatched
      intro linkId announces
      cases announces
      have opened := introduced packet.linkId
      rw [heard] at opened ⊢
      exact opened.payloads_of_opening ⟨type, rfl⟩ (by decide)
  | close =>
      simp only [type, Option.some.injEq] at dispatched
      subst dispatched
      change Has .close packet.linkId client.heard
      rw [heard, has_concat]
      exact .inr ⟨type, rfl⟩
  | regular =>
      cases data with
      | none =>
          simp only [type, Option.some.injEq] at dispatched
          subst dispatched
          trivial
      | some payload =>
          simp only [type, Option.some.injEq] at dispatched
          subst dispatched
          trivial
  | gwDeny =>
      rw [type] at dispatched
      cases dispatched
  | _ =>
      simp only [type, Option.some.injEq] at dispatched
      subst dispatched
      trivial

theorem Receiving.heard {frame : Frame} (receiving : client.Receiving)
    (run : client.run = .onConnection connection (.exchanging .receive))
    (grown : next.heard = client.heard ++ [frame]) (linkCount : next.linkCount = client.linkCount)
    (base : next.shared.base = client.shared.base)
    (held : ∀ linkId, client.shared.base.links.lookup linkId ≠ none →
      next.run.held linkId = frame.payloadOf linkId)
    (handling : next.Handling next.run) : next.Receiving where
  handling := handling
  connected := by
    intro linkId link found
    rw [base] at found ⊢
    refine .inl ((receiving.connected linkId link found).resolve_right ?_)
    rw [run]
    exact fun connects => nomatch connects
  written := by
    intro link exists_
    have before := receiving.written link (linkCount ▸ exists_)
    unfold Written at before ⊢
    rw [run] at before
    rw [base, grown]
    refine Receives.heard before fun active => ⟨active, held _ ?_⟩
    rw [active]
    exact Option.some_ne_none _

theorem Receiving.created (receiving : client.Receiving) (linked : Linked client)
    (run : client.run = .onConnection connection
      (.exchanging (.connecting (.addLink linkId))))
    (nextRun : next.run = .onConnection connection
      (.exchanging (.connecting (.setConnected linkId client.linkCount))))
    (linkCount : next.linkCount = client.linkCount + 1)
    (links : next.shared.base.links = client.shared.base.links.insert linkId client.linkCount)
    (link : next.shared.base.link =
      Function.update client.shared.base.link client.linkCount (Link.new linkId))
    (heard : next.heard = client.heard) : next.Receiving := by
  have silent : payloads linkId client.heard = [] := by
    have handling := receiving.handling
    rw [run] at handling
    exact handling linkId rfl
  refine ⟨?_, ?_, ?_⟩
  · rw [nextRun]
    intro other announces
    cases announces
  · intro key other found
    rw [links, FiniteMap.lookup_insert] at found
    split at found
    · cases found
      exact .inr (by rw [nextRun]; rfl)
    · have before := (receiving.connected key other found).resolve_right
        (by rw [run]; exact fun connects => nomatch connects)
      by_cases equal : other = client.linkCount
      · subst equal
        exact .inr (by rw [nextRun]; rfl)
      · rw [link, Function.update_of_ne equal]
        exact .inl before
  · intro other exists_
    rw [linkCount] at exists_
    rcases Nat.lt_succ_iff_lt_or_eq.mp exists_ with before | rfl
    · have different := Nat.ne_of_lt before
      have apart : (client.shared.base.link other).connectionId ≠ linkId :=
        (linked.announced linkId (by rw [run]; rfl)).2 other before
      have earlier := receiving.written other before
      unfold Written at earlier ⊢
      rw [heard, link, links, Function.update_of_ne different, FiniteMap.lookup_insert,
        if_neg apart]
      refine earlier.quiet rfl rfl fun active => ⟨active, ?_⟩
      rw [run, nextRun]
      rfl
    · unfold Written
      rw [heard, link, Function.update_self, nextRun]
      exact ⟨ List.nil_prefix, fun _ _ => silent.symm⟩

theorem Receiving.setConnected (receiving : client.Receiving)
    (run : client.run = .onConnection connection
      (.exchanging (.connecting (.setConnected linkId link)))) :
    (client.exchange connection (client.shared.updateLink link (Link.setState · .connected))
      (.connecting (.openedId linkId link))).Receiving := by
  have updated : ∀ other, (client.exchange connection
      (client.shared.updateLink link (Link.setState · .connected))
      (.connecting (.openedId linkId link))).shared.base.link other =
        if other = link then (client.shared.base.link link).setState .connected
        else client.shared.base.link other :=
    fun other => Function.update_apply ..
  refine ⟨?_, ?_, ?_⟩
  · intro other announces
    cases announces
  · intro key other found
    refine .inl ?_
    rw [updated]
    split
    · rfl
    · rename_i different
      refine (receiving.connected key other found).resolve_right fun connects => ?_
      rw [run] at connects
      exact different (Option.some.inj connects).symm
  · intro other exists_
    have before := receiving.written other exists_
    unfold Written at before ⊢
    rw [run] at before
    rw [updated]
    by_cases equal : other = link
    · subst equal
      rw [if_pos rfl]
      exact before
    · rw [if_neg equal]
      exact before

/-- `Close` removes a registered link: everything received for it has been written. -/
theorem Receiving.removeFound (receiving : client.Receiving) (origins : Origins client)
    (epochs : Epochs client)
    (run : client.run = .onConnection connection (.exchanging (.removeLink linkId)))
    (found : client.shared.base.links.lookup linkId = some link) :
    (client.exchange connection (client.shared.updateBase
      { client.shared.base with links := client.shared.base.links.erase linkId })
      (.closeLink link)).Receiving := by
  have key := origins.registered linkId link found
  have exists_ := (epochs.links linkId link found).2
  have closed : Has .close linkId client.heard := by
    have handling := receiving.handling
    rwa [run] at handling
  have written := receiving.written link exists_
  unfold Written at written
  rw [run, key] at written
  refine receiving.keep rfl rfl (fun _ => .erase) (fun _ _ => ?_) (fun other connects => ?_)
    ⟨exists_, ?_, ?_⟩
  · rw [run]
    rfl
  · rw [run] at connects
    cases connects
  · rw [← key]
    exact fun removed => absurd rfl (FiniteMap.lookup_of_erase removed).1
  · rw [← key] at closed
    refine ⟨closed, fun healthy => ?_⟩
    have whole := written.whole found healthy
    rwa [← key, show RunTask.held _ _ = [] from rfl, List.append_nil] at whole

theorem Receiving.closeLink (receiving : client.Receiving) (origins : Origins client)
    (run : client.run = .onConnection connection (.exchanging (.closeLink link))) :
    (client.exchange connection (client.shared.updateLink link Link.closeConnection)
      .receive).Receiving := by
  have removed : client.shared.base.links.lookup
      (client.shared.base.link link).connectionId ≠ some link := by
    have handling := receiving.handling
    rw [run] at handling
    exact handling.2.1
  refine receiving.keep rfl rfl (fun other => ?_) (fun _ _ => ?_) (fun other connects => ?_)
    trivial
  · by_cases equal : other = link
    · subst equal
      refine ⟨?_, ?_, ?_, fun key found => ?_⟩
      · simp [Client.exchange, Gateway.updateLink, Link.closeConnection]
      · simp [Client.exchange, Gateway.updateLink, Link.closeConnection, WriteHalf.shutdown]
      · simp [Client.exchange, Gateway.updateLink, Link.closeConnection, WriteHalf.shutdown]
      · rw [origins.registered key other found] at removed
        exact absurd found removed
    · exact .updateOther equal
  · rw [run]
    rfl
  · rw [run] at connects
    cases connects

theorem Receiving.forward {payload : Bytes} {outcome : WriteOutcome} {target : Link}
    (receiving : client.Receiving) (origins : Origins client)
    (run : client.run = .onConnection connection (.exchanging (.forward linkId payload)))
    (found : client.shared.base.links.lookup linkId = some link)
    (sent : (client.shared.base.link link).sendPacket payload outcome = some target)
    (sticky : target.writer.resumed = false) :
    (client.exchange connection (client.shared.updateLink link fun _ => target)
      .receive).Receiving := by
  have key := origins.registered linkId link found
  have step := Link.sendPacketStep_of_eq sent
  have updated : ∀ other, (client.exchange connection
      (client.shared.updateLink link fun _ => target) .receive).shared.base.link other =
        if other = link then target else client.shared.base.link other :=
    fun other => Function.update_apply ..
  have connected : ∀ key ref, client.shared.base.links.lookup key = some ref →
      (client.shared.base.link ref).state = .connected := fun key ref registered =>
    (receiving.connected key ref registered).resolve_right
      (by rw [run]; exact fun connects => nomatch connects)
  refine ⟨trivial, ?_, ?_⟩
  · intro other ref registered
    refine .inl ?_
    rw [updated]
    split
    · rw [step.state]
      exact connected linkId link found
    · exact connected other ref registered
  · intro other exists_
    have before := receiving.written other exists_
    unfold Written at before ⊢
    rw [run] at before
    rw [updated]
    by_cases equal : other = link
    · subst equal
      rw [if_pos rfl, step.data.1]
      rw [key] at before ⊢
      rw [show RunTask.held linkId (.onConnection connection
        (.exchanging (.forward linkId payload))) = payload from if_pos rfl] at before
      exact before.write step sticky (fun _ => found) fun _ => connected linkId other found
    · rw [if_neg equal]
      refine before.quiet rfl rfl fun active => ⟨active, ?_⟩
      have apart : linkId ≠ (client.shared.base.link other).connectionId := by
        intro same
        exact equal (Option.some.inj ((same ▸ active.symm).trans found))
      exact (if_neg apart).symm

theorem ExchangeStep.receiving (stepped : ExchangeStep zstd 0 client point input next)
    (receiving : client.Receiving) (linked : Linked client) (origins : Origins client)
    (epochs : Epochs client) (introduced : ∀ linkId, Introduced .open_ linkId next.heard)
    (sticky : ∀ link < client.linkCount,
      (next.shared.base.link link).writer.resumed = false)
    (run : client.run = .onConnection 0 (.exchanging point)) : next.Receiving := by
  have handling := receiving.handling
  have same : ∀ link, client.shared.LinkKept link client.shared := fun link => .refl link _
  have counted : ∀ link, client.shared.LinkKept link
      (client.shared.updateBase client.shared.base.nextPacketId.2) :=
    fun _ => ⟨rfl, rfl, rfl, fun _ found => ⟨found, rfl⟩⟩
  rw [run] at handling
  cases stepped with
  | @receive packet data point dispatched =>
      have grown : (client.exchange 0 (client.shared.updateSockets
          (client.shared.sockets.receive 0 (packet, data))) point).heard =
            client.heard ++ [Frame.of (packet, data)] := by
        simp [Client.heard, exchange, GatewayClient.updateSockets, GatewaySockets.receive]
      exact receiving.heard run grown rfl rfl (fun _ _ => held_of_dispatch dispatched)
        (handling_of_dispatch dispatched grown introduced)
  | @denied packet data dispatched =>
      have bare : ∀ linkId, (Frame.of (packet, data)).payloadOf linkId = [] := by
        intro linkId
        unfold GatewayClient.dispatch at dispatched
        cases type : packet.packetType with
        | regular => cases data <;> simp [type] at dispatched
        | gwDeny => simp [Frame.payloadOf, Frame.of, type]
        | _ => simp [type] at dispatched
      exact receiving.heard run
        (by simp [Client.heard, GatewayClient.updateSockets, GatewaySockets.receive]) rfl rfl
        (fun linkId _ => (bare linkId).symm) trivial
  | connecting stepped =>
      cases stepped with
      | connected =>
          exact receiving.pass rfl rfl same (run ▸ ⟨fun _ => rfl, rfl⟩) (fun _ => rfl) handling
      | refused =>
          exact receiving.pass rfl rfl same (run ▸ ⟨fun _ => rfl, rfl⟩) (fun _ => rfl) handling
      | addLink => exact receiving.created linked run rfl rfl rfl rfl rfl
      | setConnected => exact receiving.setConnected run
      | openedId =>
          exact receiving.pass rfl rfl counted (run ▸ ⟨fun _ => rfl, rfl⟩) (fun _ => rfl)
            fun _ announces => by cases announces
      | sendOpened sent =>
          exact receiving.pass (heard_congr sent.received) rfl (fun _ => .ofBase sent.base)
            (run ▸ ⟨fun _ => rfl, rfl⟩) (fun _ => rfl) fun _ announces => by cases announces
      | spawn =>
          exact receiving.pass rfl rfl same (run ▸ ⟨fun _ => rfl, rfl⟩) (fun _ => rfl) trivial
      | openFailId =>
          exact receiving.pass rfl rfl counted (run ▸ ⟨fun _ => rfl, rfl⟩) (fun _ => rfl) handling
      | sendOpenFail sent =>
          exact receiving.pass (heard_congr sent.received) rfl (fun _ => .ofBase sent.base)
            (run ▸ ⟨fun _ => rfl, rfl⟩) (fun _ => rfl) trivial
  | removeFound found => exact receiving.removeFound origins epochs run found
  | removeAbsent =>
      exact receiving.pass rfl rfl (fun _ => .erase) (run ▸ ⟨fun _ => rfl, rfl⟩) (fun _ => rfl)
        trivial
  | closeLink => exact receiving.closeLink origins run
  | @forward linkId payload outcome link target found sent =>
      refine receiving.forward origins run found sent ?_
      simpa [exchange, Gateway.updateLink] using sticky link (epochs.links linkId link found).2
  | @forwardAbsent linkId payload absent =>
      refine receiving.keep rfl rfl same (fun other present => ?_) (fun other connects => ?_)
        trivial
      · have apart : linkId ≠ other := fun equal => present (equal ▸ absent)
        rw [run]
        exact (if_neg apart).symm
      · rw [run] at connects
        cases connects
  | sendPong sent =>
      exact receiving.pass (heard_congr sent.received) rfl (fun _ => .ofBase sent.base)
        (run ▸ ⟨fun _ => rfl, rfl⟩) (fun _ => rfl) trivial
  | pongId =>
      exact receiving.pass rfl rfl counted (run ▸ ⟨fun _ => rfl, rfl⟩) (fun _ => rfl) trivial
  | ended =>
      exact receiving.pass rfl rfl same (run ▸ ⟨fun _ => rfl, rfl⟩) (fun _ => rfl) trivial

theorem RunStep.receiving (stepped : RunStep zstd client client.run input next)
    (receiving : client.Receiving) (linked : Linked client) (origins : Origins client)
    (epochs : Epochs client) (single : client.SingleConnection)
    (introduced : ∀ linkId, Introduced .open_ linkId next.heard)
    (sticky : ∀ link < client.linkCount,
      (next.shared.base.link link).writer.resumed = false) : next.Receiving := by
  generalize run : client.run = task at stepped
  cases stepped with
  | onConnection stepped =>
      cases stepped with
      | exchanging stepped =>
          cases epochs.first_connection single run
          exact stepped.receiving receiving linked origins epochs introduced sticky run
      | _ =>
          exact receiving.pass rfl rfl (fun _ => ⟨rfl, rfl, rfl, fun _ found => ⟨found, rfl⟩⟩)
            (run ▸ ⟨fun _ => rfl, rfl⟩) (fun _ => rfl) trivial
  | onDisconnection stepped =>
      cases stepped with
      | closeAllLinks =>
          exact receiving.pass rfl rfl (fun _ => .closeAllLinks) (run ▸ ⟨fun _ => rfl, rfl⟩)
            (fun _ => rfl) trivial
      | _ =>
          exact receiving.pass rfl rfl (fun _ => ⟨rfl, rfl, rfl, fun _ found => ⟨found, rfl⟩⟩)
            (run ▸ ⟨fun _ => rfl, rfl⟩) (fun _ => rfl) trivial
  | _ =>
      exact receiving.pass rfl rfl (fun _ => ⟨rfl, rfl, rfl, fun _ found => ⟨found, rfl⟩⟩)
        (run ▸ ⟨fun _ => rfl, rfl⟩) (fun _ => rfl) trivial

/-- Every step of a client that does not reconnect keeps what its applications have been
written a front of what has come for them. -/
theorem Receiving.step (receiving : client.Receiving) (linked : Linked client)
    (origins : Origins client) (epochs : Epochs client) (single : client.SingleConnection)
    (introduced : ∀ linkId, Introduced .open_ linkId next.heard)
    (sticky : ∀ link < client.linkCount, (next.shared.base.link link).writer.resumed = false)
    (stepped : step zstd client action = some next) : next.Receiving := by
  have received := receivedStep_of_step stepped
  cases transition_of_step stepped with
  | run moved => exact moved.receiving receiving linked origins epochs single introduced sticky
  | app moved =>
      cases received with
      | kept same => exact receiving.other (heard_congr same) rfl rfl moved.linkKept
  | @ping writer input shared task moved =>
      generalize client.ping writer = before at moved
      cases moved with
      | sendPing sent =>
          exact receiving.other (heard_congr sent.received) rfl rfl fun _ => .ofBase sent.base
      | sendFailed sent =>
          exact receiving.other (heard_congr sent.received) rfl rfl fun _ => .ofBase sent.base
      | _ =>
          exact receiving.other rfl rfl rfl
            fun _ => ⟨rfl, rfl, rfl, fun _ found => ⟨found, rfl⟩⟩
  | command moved =>
      generalize client.command = before at moved
      cases moved with
      | sendPing sent =>
          exact receiving.other (heard_congr sent.received) rfl rfl fun _ => .ofBase sent.base
      | pingId =>
          exact receiving.other rfl rfl rfl
            fun _ => ⟨rfl, rfl, rfl, fun _ found => ⟨found, rfl⟩⟩
  | shutdown moved =>
      generalize client.shutdown = before at moved
      cases moved with
      | closeAllLinks => exact receiving.other rfl rfl rfl fun _ => .closeAllLinks
      | _ =>
          exact receiving.other rfl rfl rfl
            fun _ => ⟨rfl, rfl, rfl, fun _ found => ⟨found, rfl⟩⟩
  | _ =>
      exact receiving.other rfl rfl rfl fun _ => ⟨rfl, rfl, rfl, fun _ found => ⟨found, rfl⟩⟩

end

end Client

end IoGateway

import IoGateway.Foundation.Unwinding
import IoGateway.Server.Isolation

/-! # Multiplexing by the server

What `client_exchange` does for one link does not depend on the packets about
other links: it is a function of what there is under the link's identifier.
-/

namespace IoGateway

/-- The write to the application has the outcome that comes with the frame. -/
def ClientExchange.Accepts (delivery : Delivery) : ClientExchange → Input → Prop
  | .regularWrite _ _, input => input = .write delivery.outcome
  | _, _ => True

namespace GatewayServer

variable {zstd : Zstd} {connection : ConnectionRef} {addr : SocketAddr} {sessionId : Uuid}
variable {delivery : Delivery} {server after final : GatewayServer} {linkId : UInt16}

inductive Serves (zstd : Zstd) (connection : ConnectionRef) (addr : SocketAddr)
    (sessionId : Uuid) (delivery : Delivery) :
    GatewayServer → ClientExchange → GatewayServer → Prop
  | done {server : GatewayServer} {point : ClientExchange} (head : point.AtLoopHead) :
      Serves zstd connection addr sessionId delivery server point server
  | step {server after final : GatewayServer} {point next : ClientExchange} {input : Input}
      (busy : ¬ point.AtLoopHead) (accepted : point.Accepts delivery input)
      (stepped : server.clientExchange zstd connection addr sessionId point input =
        some (after, .exchanging addr sessionId next))
      (rest : Serves zstd connection addr sessionId delivery after next final) :
      Serves zstd connection addr sessionId delivery server point final

def dispatcher (zstd : Zstd) (connection : ConnectionRef) (addr : SocketAddr)
    (sessionId : Uuid) : Dispatcher GatewayServer Delivery where
  handles := fun server delivery final =>
    Serves zstd connection addr sessionId delivery
      (server.updateSockets
        (server.sockets.receive connection (delivery.packet, delivery.data)))
      (dispatch delivery.packet delivery.data) final
  stops := fun delivery => delivery.packet.packetType = .gwDeny

/-! ## What there is under one identifier -/

/-- The registry entry and the route of an identifier, and the links that carry it. -/
structure LinkView where
  entry : Option LinkRef
  route : Option SocketAddr
  link : LinkRef → Option Link

def view (linkId : UInt16) (server : GatewayServer) : LinkView where
  entry := server.base.links.lookup linkId
  route := server.linkClients.lookup linkId
  link := fun ref => (server.base.link ref).under linkId

namespace LinkView

def change (view : LinkView) (update : Link → Link) : LinkView :=
  { view with
    link := fun ref =>
      if view.entry = some ref then (view.link ref).map update else view.link ref }

def remove (view : LinkView) : LinkView :=
  { view.change Link.closeConnection with entry := none, route := none }

def deliver (view : LinkView) (delivery : Delivery) : LinkView :=
  match delivery.packet.packetType with
  | .regular =>
      match delivery.data with
      | some payload => view.change (Link.sent payload delivery.outcome)
      | none => view
  | .opened => view.change (Link.setState · .connected)
  | .openFail => view.remove
  | .close => view.remove
  | _ => view

theorem change_of_absent {view : LinkView} (absent : view.entry = none) (update : Link → Link) :
    view.change update = view := by
  cases view
  simp_all [change]

end LinkView

/-! ## Updates of one link -/

theorem view_updateLink_self {ref : LinkRef} {update change : Link → Link}
    (keyed : server.LinksKeyed) (found : server.base.links.lookup linkId = some ref)
    (same : (update (server.base.link ref)).connectionId = (server.base.link ref).connectionId)
    (agree : update (server.base.link ref) = change (server.base.link ref)) :
    (server.updateLink ref update).view linkId = (server.view linkId).change change := by
  have carried := keyed linkId ref found
  rw [carried] at same
  simp only [view, LinkView.change, updateLink, updateBase, Gateway.updateLink, found]
  congr 1
  funext other
  by_cases equal : other = ref
  · subst equal
    rw [Function.update_self, if_pos rfl, Link.under_self same, Link.under_self carried, agree]
    rfl
  · have different : some ref ≠ some other := fun found => equal (Option.some.inj found).symm
    rw [Function.update_of_ne equal, if_neg different]

/-- A link that is registered under another identifier is not in the view. -/
theorem view_updateLink_of_ne {ref : LinkRef} {other : UInt16} {update : Link → Link}
    (keyed : server.LinksKeyed) (found : server.base.links.lookup other = some ref)
    (same : (update (server.base.link ref)).connectionId = (server.base.link ref).connectionId)
    (different : other ≠ linkId) :
    (server.updateLink ref update).view linkId = server.view linkId := by
  have carried := keyed other ref found
  have before : (server.base.link ref).connectionId ≠ linkId := carried ▸ different
  have after : (update (server.base.link ref)).connectionId ≠ linkId := same ▸ before
  simp only [view, updateLink, updateBase, Gateway.updateLink]
  congr 1
  funext slot
  by_cases equal : slot = ref
  · subst equal
    rw [Function.update_self, Link.under_of_ne before, Link.under_of_ne after]
  · rw [Function.update_of_ne equal]

/-! ## The handling of one frame -/

theorem Serves.handles {point : ClientExchange}
    (serves : Serves zstd connection addr sessionId delivery server point final) :
    Handles zstd connection addr sessionId server point final := by
  induction serves with
  | done head => exact .done head
  | step busy _ stepped _ induction => exact .step busy stepped induction

theorem Serves.eq_of_head {point : ClientExchange}
    (serves : Serves zstd connection addr sessionId delivery server point final)
    (head : point.AtLoopHead) : final = server :=
  serves.handles.eq_of_head head

theorem Serves.step_of_busy {point : ClientExchange}
    (serves : Serves zstd connection addr sessionId delivery server point final)
    (busy : ¬ point.AtLoopHead) :
    ∃ input after next, point.Accepts delivery input ∧
      ClientExchangeStep zstd connection addr sessionId server point input after
        (.exchanging addr sessionId next) ∧
      Serves zstd connection addr sessionId delivery after next final := by
  cases serves with
  | done head => exact absurd head busy
  | step _ accepted stepped rest =>
      exact ⟨_, _, _, accepted, clientExchangeStep_of_eq stepped, rest⟩

/-- Only `add_link` could register a link under another identifier. -/
theorem Serves.linksKeyed {point : ClientExchange}
    (serves : Serves zstd connection addr sessionId delivery server point final)
    (keyed : server.LinksKeyed) : final.LinksKeyed := by
  induction serves with
  | done => exact keyed
  | step _ _ stepped _ induction =>
      apply induction
      have moved := GatewayStep.exchanging (clientExchangeStep_of_eq stepped)
      intro linkId ref found
      rw [moved.sameLinkIds.connectionId]
      exact keyed linkId ref (moved.linksShrink linkId ref found)

def forget (key : UInt16) (server : GatewayServer) : GatewayServer :=
  { server with
    base := { server.base with links := server.base.links.erase key }
    linkClients := server.linkClients.erase key }

theorem view_forget_self :
    (server.forget linkId).view linkId =
      { server.view linkId with entry := none, route := none } := by
  simp [view, forget]

theorem view_forget_of_ne {key : UInt16} (different : key ≠ linkId) :
    (server.forget key).view linkId = server.view linkId := by
  have apart : linkId ≠ key := fun equal => different equal.symm
  simp [view, forget, apart]

/-- `remove_link`: the identifier is forgotten, and a link under it is closed. -/
theorem forgotten_of_removing {key : UInt16}
    (serves : Serves zstd connection addr sessionId delivery server (.removing (.route key))
      final) :
    (server.base.links.lookup key = none ∧ final = server.forget key) ∨
      ∃ ref, server.base.links.lookup key = some ref ∧
        final = (server.updateLink ref Link.closeConnection).forget key := by
  rcases serves.step_of_busy id with ⟨_, unrouted, next, _, stepped, rest⟩
  cases stepped with
  | removed removal => cases removal
  | removing removal =>
      cases removal with
      | route =>
          rcases rest.step_of_busy id with ⟨_, unlinked, following, _, stepped, rest⟩
          cases stepped with
          | removed removal =>
              cases removal with
              | absent absent =>
                  cases rest.eq_of_head trivial
                  exact .inl ⟨absent, rfl⟩
          | removing removal =>
              cases removal with
              | @found _ ref found =>
                  rcases rest.step_of_busy id with ⟨_, closed, last, _, stepped, rest⟩
                  cases stepped with
                  | removing removal => cases removal
                  | removed removal =>
                      cases removal with
                      | close =>
                          cases rest.eq_of_head trivial
                          exact .inr ⟨ref, found, rfl⟩

theorem updated_or_absent_of_opened {key : UInt16}
    (serves : Serves zstd connection addr sessionId delivery server (.openedLookup key) final) :
    (server.base.links.lookup key = none ∧ final = server) ∨
      ∃ ref, server.base.links.lookup key = some ref ∧
        final = server.updateLink ref (Link.setState · .connected) := by
  rcases serves.step_of_busy id with ⟨_, after, next, _, stepped, rest⟩
  cases stepped with
  | openedFound found =>
      rcases rest.step_of_busy id with ⟨_, updated, following, _, stepped, rest⟩
      cases stepped with
      | openedSet => exact .inr ⟨_, found, rest.eq_of_head trivial⟩
  | openedAbsent absent => exact .inl ⟨absent, rest.eq_of_head trivial⟩

theorem written_or_absent_of_regular {key : UInt16} {payload : Bytes}
    (serves : Serves zstd connection addr sessionId delivery server
      (.regularLookup key payload) final) :
    (server.base.links.lookup key = none ∧ final = server) ∨
      ∃ ref written, server.base.links.lookup key = some ref ∧
        (server.base.link ref).sendPacket payload delivery.outcome = some written ∧
        final = server.updateLink ref fun _ => written := by
  rcases serves.step_of_busy id with ⟨_, after, next, _, stepped, rest⟩
  cases stepped with
  | regularFound found =>
      rcases rest.step_of_busy id with ⟨_, updated, following, accepted, stepped, rest⟩
      cases stepped with
      | regularWrite sent =>
          cases accepted
          exact .inr ⟨_, _, found, sent, rest.eq_of_head trivial⟩
  | regularAbsent absent => exact .inl ⟨absent, rest.eq_of_head trivial⟩

theorem view_of_removing {key : UInt16} (keyed : server.LinksKeyed)
    (serves : Serves zstd connection addr sessionId delivery server (.removing (.route key))
      final) :
    final.view linkId =
      if key = linkId then (server.view linkId).remove else server.view linkId := by
  by_cases own : key = linkId
  · subst own
    rw [if_pos rfl]
    rcases forgotten_of_removing serves with ⟨absent, equal⟩ | ⟨ref, found, equal⟩
    · rw [equal, view_forget_self, LinkView.remove, LinkView.change_of_absent absent]
    · rw [equal, view_forget_self, view_updateLink_self keyed found rfl rfl, LinkView.remove]
  · rw [if_neg own]
    rcases forgotten_of_removing serves with ⟨_, equal⟩ | ⟨ref, found, equal⟩
    · rw [equal, view_forget_of_ne own]
    · rw [equal, view_forget_of_ne own, view_updateLink_of_ne keyed found rfl own]

theorem view_of_opened {key : UInt16} (keyed : server.LinksKeyed)
    (serves : Serves zstd connection addr sessionId delivery server (.openedLookup key) final) :
    final.view linkId =
      if key = linkId then (server.view linkId).change (Link.setState · .connected)
      else server.view linkId := by
  rcases updated_or_absent_of_opened serves with ⟨absent, equal⟩ | ⟨ref, found, equal⟩
  · rw [equal]
    split
    · rename_i own
      subst own
      exact (LinkView.change_of_absent absent _).symm
    · rfl
  · rw [equal]
    split
    · rename_i own
      subst own
      exact view_updateLink_self keyed found rfl rfl
    · rename_i different
      exact view_updateLink_of_ne keyed found rfl different

theorem view_of_regular {key : UInt16} {payload : Bytes} (keyed : server.LinksKeyed)
    (serves : Serves zstd connection addr sessionId delivery server
      (.regularLookup key payload) final) :
    final.view linkId =
      if key = linkId then (server.view linkId).change (Link.sent payload delivery.outcome)
      else server.view linkId := by
  rcases written_or_absent_of_regular serves with
    ⟨absent, equal⟩ | ⟨ref, written, found, sent, equal⟩
  · rw [equal]
    split
    · rename_i own
      subst own
      exact (LinkView.change_of_absent absent _).symm
    · rfl
  · rw [equal]
    have same := sendPacket_connectionId sent
    split
    · rename_i own
      subst own
      exact view_updateLink_self keyed found same (Link.sent_of_eq sent).symm
    · rename_i different
      exact view_updateLink_of_ne keyed found same different

theorem SameLinks.view (same : SameLinks server final) (linkId : UInt16) :
    final.view linkId = server.view linkId := by
  simp only [GatewayServer.view, same.routes, same.links, same.link]

/-! ## The dispatch loop -/

theorem LinksKeyed.receive (keyed : server.LinksKeyed) {sockets : GatewaySockets} :
    (server.updateSockets sockets).LinksKeyed :=
  keyed

theorem Serves.view_of_head {point : ClientExchange}
    (serves : Serves zstd connection addr sessionId delivery server point final)
    (head : point.AtLoopHead) : final.view linkId = server.view linkId := by
  rw [serves.eq_of_head head]

/-- A frame about a link updates the view of that link and no other. -/
theorem view_of_dispatch (linkId : UInt16) (keyed : server.LinksKeyed)
    (serves : Serves zstd connection addr sessionId delivery server
      (dispatch delivery.packet delivery.data) final) :
    final.view linkId =
      if delivery.packet.linkId = linkId then (server.view linkId).deliver delivery
      else server.view linkId := by
  unfold dispatch at serves
  unfold LinkView.deliver
  cases type : delivery.packet.packetType with
  | ping =>
      simp only [type, ite_self] at serves ⊢
      exact (sameLinks_of_pong serves.handles).view linkId
  | regular =>
      simp only [type] at serves ⊢
      cases carried : delivery.data with
      | none =>
          rw [carried] at serves
          rw [ite_self]
          exact serves.view_of_head trivial
      | some payload =>
          rw [carried] at serves
          exact view_of_regular keyed serves
  | opened =>
      simp only [type] at serves ⊢
      exact view_of_opened keyed serves
  | openFail =>
      simp only [type] at serves ⊢
      exact view_of_removing keyed serves
  | close =>
      simp only [type] at serves ⊢
      exact view_of_removing keyed serves
  | _ =>
      simp only [type, ite_self] at serves ⊢
      exact serves.view_of_head trivial

theorem LinkView.deliver_of_control (view : LinkView)
    (control : delivery.packet.packetType.ofLink = false) : view.deliver delivery = view := by
  unfold LinkView.deliver
  cases type : delivery.packet.packetType with
  | regular => rw [type] at control; cases control
  | opened => rw [type] at control; cases control
  | openFail => rw [type] at control; cases control
  | close => rw [type] at control; cases control
  | _ => rfl

theorem goesOn_of_hidden (zstd : Zstd) (connection : ConnectionRef) (addr : SocketAddr)
    (sessionId : Uuid) (hidden : delivery.concerns linkId = false) :
    (dispatcher zstd connection addr sessionId).stops delivery = false :=
  decide_eq_false (Delivery.ne_gwDeny (Delivery.concerns_eq_false.mp hidden).1)

def unwinding (zstd : Zstd) (connection : ConnectionRef) (addr : SocketAddr) (sessionId : Uuid)
    (linkId : UInt16) : (dispatcher zstd connection addr sessionId).Unwinding LinkView where
  invariant := LinksKeyed
  view := view linkId
  visible := Delivery.concerns linkId
  update := LinkView.deliver
  kept := fun keyed handled => handled.linksKeyed keyed
  hidden := by
    intro server delivery final keyed hidden handled
    have serves : Serves zstd connection addr sessionId delivery _
      (dispatch delivery.packet delivery.data) final := handled
    have updated := view_of_dispatch linkId keyed.receive serves
    exact updated.trans (if_neg (Delivery.concerns_eq_false.mp hidden).2)
  goesOn := goesOn_of_hidden zstd connection addr sessionId
  shown := by
    intro server delivery final keyed shown handled
    have serves : Serves zstd connection addr sessionId delivery _
      (dispatch delivery.packet delivery.data) final := handled
    have updated := view_of_dispatch linkId keyed.receive serves
    rcases Delivery.concerns_eq_true.mp shown with control | own
    · rw [LinkView.deliver_of_control _ control] at updated ⊢
      exact updated.trans (ite_self _)
    · exact updated.trans (if_pos own)

end GatewayServer

end IoGateway

import IoGateway.Client.Separation
import IoGateway.Foundation.Unwinding

/-! # Multiplexing by the client

What `gateway_exchange` does for one link does not depend on the packets about
other links. The links it opens are numbered over all identifiers; those of one
identifier are told apart by their order.
-/

namespace IoGateway

/-- The connect and the write to the application have the outcomes that come with
the frame. -/
def GatewayExchange.Accepts (delivery : Delivery) : GatewayExchange → Input → Prop
  | .connecting (.connect _), input => input = .verdict delivery.connected
  | .forward _ _, input => ∀ outcome, input = .write outcome → outcome = delivery.outcome
  | _, _ => True

/-! ## The links of one identifier -/

/-- The links that carry the identifier, of so many, in the order of their opening. -/
def linksUnder (linkId : UInt16) (link : LinkRef → Link) : Nat → List Link
  | 0 => []
  | count + 1 => linksUnder linkId link count ++ ((link count).under linkId).toList

section

variable {linkId : UInt16} {link other : LinkRef → Link} {ref count : Nat} {update : Link → Link}

theorem linksUnder_congr
    (same : ∀ ref < count, (link ref).under linkId = (other ref).under linkId) :
    linksUnder linkId link count = linksUnder linkId other count := by
  induction count with
  | zero => rfl
  | succ count induction =>
      have earlier := induction fun ref below => same ref (Nat.lt_succ_of_lt below)
      simp only [linksUnder, earlier, same count (Nat.lt_succ_self count)]

/-- Links that keep their identifiers keep their places. -/
theorem length_linksUnder_congr
    (same : ∀ ref, (link ref).connectionId = (other ref).connectionId) :
    (linksUnder linkId link count).length = (linksUnder linkId other count).length := by
  induction count with
  | zero => rfl
  | succ count induction =>
      simp only [linksUnder, List.length_append, induction, Link.under, same count]
      split <;> rfl

theorem length_linksUnder_lt (below : ref < count) (carried : (link ref).connectionId = linkId) :
    (linksUnder linkId link ref).length < (linksUnder linkId link count).length := by
  induction count with
  | zero => cases below
  | succ count induction =>
      simp only [linksUnder, List.length_append]
      by_cases last : ref = count
      · subst last
        rw [Link.under_self carried]
        exact Nat.lt_succ_self _
      · have earlier := induction (by omega)
        omega

theorem modify_append_of_lt {front back : List Link} {index : Nat} (inside : index < front.length) :
    (front ++ back).modify index update = front.modify index update ++ back := by
  induction front generalizing index with
  | nil => cases inside
  | cons head tail induction =>
      cases index with
      | zero => rfl
      | succ index =>
          simp only [List.cons_append, List.modify_succ_cons]
          rw [induction (Nat.lt_of_succ_lt_succ inside)]

theorem modify_append_length (front : List Link) (last : Link) :
    (front ++ [last]).modify front.length update = front ++ [update last] := by
  induction front with
  | nil => rfl
  | cons head tail induction =>
      simp only [List.cons_append, List.length_cons, List.modify_succ_cons]
      rw [induction]

theorem linksUnder_update (below : ref < count) (carried : (link ref).connectionId = linkId)
    (kept : (update (link ref)).connectionId = linkId) :
    linksUnder linkId (Function.update link ref (update (link ref))) count =
      (linksUnder linkId link count).modify (linksUnder linkId link ref).length update := by
  induction count with
  | zero => cases below
  | succ count induction =>
      by_cases last : ref = count
      · subst last
        have earlier : linksUnder linkId (Function.update link ref (update (link ref))) ref =
            linksUnder linkId link ref := by
          apply linksUnder_congr
          intro slot lower
          rw [Function.update_of_ne (Nat.ne_of_lt lower)]
        simp only [linksUnder, earlier, Function.update_self]
        rw [Link.under_self kept, Link.under_self carried]
        exact (modify_append_length _ _).symm
      · have lower : ref < count := by omega
        have different : count ≠ ref := fun equal => last equal.symm
        simp only [linksUnder, induction lower, Function.update_of_ne different]
        exact (modify_append_of_lt (length_linksUnder_lt lower carried)).symm

end

namespace Client

variable {zstd : Zstd} {connection : ConnectionRef} {delivery : Delivery}
variable {client after final : Client} {linkId : UInt16}

/-! ## The loop on its own -/

/-- The exchange loop, on its own, comes back to its head, or has ended. -/
inductive Serves (zstd : Zstd) (connection : ConnectionRef) (delivery : Delivery) :
    Client → Client → Prop
  | done {client : Client} (head : ∀ point,
        client.run = .onConnection connection (.exchanging point) → point = .receive) :
      Serves zstd connection delivery client client
  | step {client after final : Client} {point : GatewayExchange} {input : Input}
      (running : client.run = .onConnection connection (.exchanging point))
      (busy : point ≠ .receive) (accepted : point.Accepts delivery input)
      (stepped : client.gatewayExchange zstd connection point input = some after)
      (rest : Serves zstd connection delivery after final) :
      Serves zstd connection delivery client final

def dispatcher (zstd : Zstd) (connection : ConnectionRef) : Dispatcher Client Delivery where
  handles := fun client delivery final =>
    client.run = .onConnection connection (.exchanging .receive) ∧
      ∃ received, client.gatewayExchange zstd connection .receive
        (.frame delivery.packet delivery.data) = some received ∧
        Serves zstd connection delivery received final
  stops := fun delivery => delivery.packet.packetType = .gwDeny

/-- The registered link among those that carry the identifier, and all of these. -/
@[ext] structure LinkView where
  entry : Option Nat
  links : List Link

def view (linkId : UInt16) (client : Client) : LinkView where
  entry := (client.shared.base.links.lookup linkId).map fun ref =>
    (linksUnder linkId client.shared.base.link ref).length
  links := linksUnder linkId client.shared.base.link client.linkCount

namespace LinkView

def change (view : LinkView) (update : Link → Link) : LinkView :=
  match view.entry with
  | some index => { view with links := view.links.modify index update }
  | none => view

def remove (view : LinkView) : LinkView :=
  { view.change Link.closeConnection with entry := none }

def connect (view : LinkView) (linkId : UInt16) : LinkView where
  entry := some view.links.length
  links := view.links ++ [(Link.new linkId).setState .connected]

def deliver (view : LinkView) (delivery : Delivery) : LinkView :=
  match delivery.packet.packetType with
  | .open_ => if delivery.connected then view.connect delivery.packet.linkId else view
  | .close => view.remove
  | .regular =>
      match delivery.data with
      | some payload => view.change (Link.sent payload delivery.outcome)
      | none => view
  | _ => view

end LinkView

/-! ## The handling of one frame -/

structure SameLinks (client after : Client) : Prop where
  links : ∀ key, after.shared.base.links.lookup key = client.shared.base.links.lookup key
  link : after.shared.base.link = client.shared.base.link
  linkCount : after.linkCount = client.linkCount

theorem SameLinks.ofBase (base : after.shared.base.links = client.shared.base.links)
    (link : after.shared.base.link = client.shared.base.link)
    (linkCount : after.linkCount = client.linkCount) : SameLinks client after :=
  ⟨fun _ => by rw [base], link, linkCount⟩

/-- What the handling of a frame does to the registry and the links. -/
inductive Handled (client : Client) (delivery : Delivery) : Client → Prop
  | control {final : Client} (open_ : delivery.packet.packetType ≠ .open_)
      (close : delivery.packet.packetType ≠ .close)
      (regular : delivery.packet.packetType ≠ .regular) (same : SameLinks client final) :
      Handled client delivery final
  | refused {final : Client} (type : delivery.packet.packetType = .open_)
      (refused : delivery.connected = false) (same : SameLinks client final) :
      Handled client delivery final
  | opened {final : Client} (type : delivery.packet.packetType = .open_)
      (connected : delivery.connected = true)
      (links : ∀ key, final.shared.base.links.lookup key =
        (client.shared.base.links.insert delivery.packet.linkId client.linkCount).lookup key)
      (link : final.shared.base.link = Function.update client.shared.base.link client.linkCount
        ((Link.new delivery.packet.linkId).setState .connected))
      (linkCount : final.linkCount = client.linkCount + 1) : Handled client delivery final
  | empty {final : Client} (type : delivery.packet.packetType = .regular)
      (empty : delivery.data = none) (same : SameLinks client final) :
      Handled client delivery final
  | absent {final : Client} (type : delivery.packet.packetType = .close ∨
        delivery.packet.packetType = .regular)
      (absent : client.shared.base.links.lookup delivery.packet.linkId = none)
      (same : SameLinks client final) : Handled client delivery final
  | closed {final : Client} {ref : LinkRef} (type : delivery.packet.packetType = .close)
      (found : client.shared.base.links.lookup delivery.packet.linkId = some ref)
      (links : final.shared.base.links =
        client.shared.base.links.erase delivery.packet.linkId)
      (link : final.shared.base.link = Function.update client.shared.base.link ref
        (client.shared.base.link ref).closeConnection)
      (linkCount : final.linkCount = client.linkCount) : Handled client delivery final
  | written {final : Client} {ref : LinkRef} {payload : Bytes} {written : Link}
      (type : delivery.packet.packetType = .regular) (carried : delivery.data = some payload)
      (found : client.shared.base.links.lookup delivery.packet.linkId = some ref)
      (sent : (client.shared.base.link ref).sendPacket payload delivery.outcome = some written)
      (links : final.shared.base.links = client.shared.base.links)
      (link : final.shared.base.link = Function.update client.shared.base.link ref written)
      (linkCount : final.linkCount = client.linkCount) : Handled client delivery final

theorem Serves.step_of_busy {point : GatewayExchange}
    (serves : Serves zstd connection delivery client final)
    (running : client.run = .onConnection connection (.exchanging point))
    (busy : point ≠ .receive) :
    ∃ input after, point.Accepts delivery input ∧
      ExchangeStep zstd connection client point input after ∧
      Serves zstd connection delivery after final := by
  cases serves with
  | done head => exact absurd (head point running) busy
  | step again _ accepted stepped rest =>
      cases again.symm.trans running
      exact ⟨_, _, accepted, exchangeStep_of_eq stepped, rest⟩

theorem Serves.eq_of_head (serves : Serves zstd connection delivery client final)
    (head : ∀ point, client.run = .onConnection connection (.exchanging point) →
      point = .receive) : final = client := by
  cases serves with
  | done => rfl
  | step running busy => exact absurd (head _ running) busy

theorem Serves.eq_of_receive (serves : Serves zstd connection delivery client final)
    (running : client.run = .onConnection connection (.exchanging .receive)) :
    final = client := by
  apply serves.eq_of_head
  intro point again
  cases running.symm.trans again
  rfl

theorem Serves.pong (serves : Serves zstd connection delivery client final)
    (running : client.run = .onConnection connection (.exchanging .pongId)) :
    SameLinks client final := by
  rcases serves.step_of_busy running (by simp) with ⟨_, numbered, _, stepped, rest⟩
  cases stepped with
  | pongId =>
      rcases rest.step_of_busy rfl (by simp) with ⟨_, replied, _, stepped, rest⟩
      cases stepped with
      | sendPong sent =>
          cases rest.eq_of_receive rfl
          exact .ofBase (by simp only [exchange, sent.base]; rfl)
            (by simp only [exchange, sent.base]; rfl) rfl

theorem Serves.refuse {key : UInt16}
    (serves : Serves zstd connection delivery client final)
    (running : client.run =
      .onConnection connection (.exchanging (.connecting (.openFailId key)))) :
    SameLinks client final := by
  rcases serves.step_of_busy running (by simp) with ⟨_, numbered, _, stepped, rest⟩
  cases stepped with
  | connecting stepped =>
      cases stepped with
      | openFailId =>
          rcases rest.step_of_busy rfl (by simp) with ⟨_, replied, _, stepped, rest⟩
          cases stepped with
          | connecting stepped =>
              cases stepped with
              | sendOpenFail sent =>
                  cases rest.eq_of_receive rfl
                  exact .ofBase (by simp only [exchange, sent.base]; rfl)
                    (by simp only [exchange, sent.base]; rfl) rfl

theorem Serves.announce {key : UInt16} {link : LinkRef}
    (serves : Serves zstd connection delivery client final)
    (running : client.run =
      .onConnection connection (.exchanging (.connecting (.openedId key link)))) :
    SameLinks client final := by
  rcases serves.step_of_busy running (by simp) with ⟨_, numbered, _, stepped, rest⟩
  cases stepped with
  | connecting stepped =>
      cases stepped with
      | openedId =>
          rcases rest.step_of_busy rfl (by simp) with ⟨_, announced, _, stepped, rest⟩
          cases stepped with
          | connecting stepped =>
              cases stepped with
              | sendOpened sent =>
                  rcases rest.step_of_busy rfl (by simp) with ⟨_, spawned, _, stepped, rest⟩
                  cases stepped with
                  | connecting stepped =>
                      cases stepped with
                      | spawn =>
                          cases rest.eq_of_receive rfl
                          exact .ofBase (by simp only [exchange, sent.base]; rfl)
                            (by simp only [exchange, sent.base]; rfl) rfl

theorem Serves.register {key : UInt16}
    (serves : Serves zstd connection delivery client final)
    (running : client.run = .onConnection connection (.exchanging (.connecting (.addLink key)))) :
    (∀ other, final.shared.base.links.lookup other =
        (client.shared.base.links.insert key client.linkCount).lookup other) ∧
      final.shared.base.link = Function.update client.shared.base.link client.linkCount
        ((Link.new key).setState .connected) ∧
      final.linkCount = client.linkCount + 1 := by
  rcases serves.step_of_busy running (by simp) with ⟨_, added, _, stepped, rest⟩
  cases stepped with
  | connecting stepped =>
      cases stepped with
      | addLink =>
          rcases rest.step_of_busy rfl (by simp) with ⟨_, connected, _, stepped, rest⟩
          cases stepped with
          | connecting stepped =>
              cases stepped with
              | setConnected =>
                  have same := rest.announce rfl
                  refine ⟨same.links, ?_, same.linkCount⟩
                  rw [same.link]
                  simp [Gateway.updateLink]

theorem Serves.connect {key : UInt16} (serves : Serves zstd connection delivery client final)
    (running : client.run = .onConnection connection (.exchanging (.connecting (.connect key)))) :
    (delivery.connected = false ∧ SameLinks client final) ∨
      (delivery.connected = true ∧
        (∀ other, final.shared.base.links.lookup other =
          (client.shared.base.links.insert key client.linkCount).lookup other) ∧
        final.shared.base.link = Function.update client.shared.base.link client.linkCount
          ((Link.new key).setState .connected) ∧
        final.linkCount = client.linkCount + 1) := by
  rcases serves.step_of_busy running (by simp) with ⟨_, after, accepted, stepped, rest⟩
  cases stepped with
  | connecting stepped =>
      cases stepped with
      | connected =>
          cases connected : delivery.connected with
          | false => rw [GatewayExchange.Accepts, connected] at accepted; cases accepted
          | true => exact .inr ⟨rfl, rest.register rfl⟩
      | refused =>
          cases connected : delivery.connected with
          | false =>
              have same := rest.refuse rfl
              exact .inl ⟨rfl, same.links, same.link, same.linkCount⟩
          | true => rw [GatewayExchange.Accepts, connected] at accepted; cases accepted

theorem Serves.remove {key : UInt16} (serves : Serves zstd connection delivery client final)
    (running : client.run = .onConnection connection (.exchanging (.removeLink key))) :
    (client.shared.base.links.lookup key = none ∧ SameLinks client final) ∨
      ∃ ref, client.shared.base.links.lookup key = some ref ∧
        final.shared.base.links = client.shared.base.links.erase key ∧
        final.shared.base.link = Function.update client.shared.base.link ref
          (client.shared.base.link ref).closeConnection ∧
        final.linkCount = client.linkCount := by
  rcases serves.step_of_busy running (by simp) with ⟨_, erased, _, stepped, rest⟩
  cases stepped with
  | removeFound found =>
      rcases rest.step_of_busy rfl (by simp) with ⟨_, closed, _, stepped, rest⟩
      cases stepped with
      | closeLink =>
          cases rest.eq_of_receive rfl
          exact .inr ⟨_, found, rfl, rfl, rfl⟩
  | removeAbsent absent =>
      cases rest.eq_of_receive rfl
      refine .inl ⟨absent, ?_, rfl, rfl⟩
      intro other
      change (client.shared.base.links.erase key).lookup other = _
      rw [FiniteMap.lookup_erase]
      split
      · rename_i equal
        rw [equal, absent]
      · rfl

theorem Serves.forward {key : UInt16} {payload : Bytes}
    (serves : Serves zstd connection delivery client final)
    (running : client.run = .onConnection connection (.exchanging (.forward key payload))) :
    (client.shared.base.links.lookup key = none ∧ SameLinks client final) ∨
      ∃ ref written, client.shared.base.links.lookup key = some ref ∧
        (client.shared.base.link ref).sendPacket payload delivery.outcome = some written ∧
        final.shared.base.links = client.shared.base.links ∧
        final.shared.base.link = Function.update client.shared.base.link ref written ∧
        final.linkCount = client.linkCount := by
  rcases serves.step_of_busy running (by simp) with ⟨_, after, accepted, stepped, rest⟩
  cases stepped with
  | forward found sent =>
      cases rest.eq_of_receive rfl
      cases accepted _ rfl
      exact .inr ⟨_, _, found, sent, rfl, rfl, rfl⟩
  | forwardAbsent absent =>
      cases rest.eq_of_receive rfl
      exact .inl ⟨absent, fun _ => rfl, rfl, rfl⟩

theorem handled_of_handles
    (handles : (dispatcher zstd connection).handles client delivery final) :
    Handled client delivery final := by
  rcases handles with ⟨running, received, stepped, serves⟩
  cases exchangeStep_of_eq stepped with
  | receive dispatched =>
      unfold GatewayClient.dispatch at dispatched
      cases type : delivery.packet.packetType with
      | ping =>
          simp only [type] at dispatched
          cases dispatched
          have same := serves.pong rfl
          exact .control (by simp [type]) (by simp [type]) (by simp [type])
            ⟨same.links, same.link, same.linkCount⟩
      | open_ =>
          simp only [type] at dispatched
          cases dispatched
          rcases serves.connect rfl with ⟨refused, same⟩ | ⟨connected, links, link, linkCount⟩
          · exact .refused type refused ⟨same.links, same.link, same.linkCount⟩
          · exact .opened type connected links link linkCount
      | close =>
          simp only [type] at dispatched
          cases dispatched
          rcases serves.remove rfl with ⟨absent, same⟩ | ⟨ref, found, links, link, linkCount⟩
          · exact .absent (.inl type) absent ⟨same.links, same.link, same.linkCount⟩
          · exact .closed type found links link linkCount
      | regular =>
          simp only [type] at dispatched
          cases carried : delivery.data with
          | none =>
              rw [carried] at dispatched
              cases dispatched
              cases serves.eq_of_receive rfl
              exact .empty type carried (.ofBase rfl rfl rfl)
          | some payload =>
              rw [carried] at dispatched
              cases dispatched
              rcases serves.forward rfl with
                ⟨absent, same⟩ | ⟨ref, written, found, sent, links, link, linkCount⟩
              · exact .absent (.inr type) absent ⟨same.links, same.link, same.linkCount⟩
              · exact .written type carried found sent links link linkCount
      | gwDeny =>
          simp only [type] at dispatched
          cases dispatched
      | _ =>
          simp only [type] at dispatched
          cases dispatched
          cases serves.eq_of_receive rfl
          exact .control (by simp [type]) (by simp [type]) (by simp [type]) (.ofBase rfl rfl rfl)
  | denied dispatched =>
      have ended : final = _ := serves.eq_of_head fun _ again => by cases again
      subst ended
      have type : delivery.packet.packetType = .gwDeny := by
        unfold GatewayClient.dispatch at dispatched
        cases type : delivery.packet.packetType with
        | gwDeny => rfl
        | regular =>
            simp only [type] at dispatched
            split at dispatched <;> cases dispatched
        | _ =>
            simp only [type] at dispatched
            cases dispatched
      exact .control (by simp [type]) (by simp [type]) (by simp [type]) (.ofBase rfl rfl rfl)

/-! ## The view of one link -/

structure LinksKeyed (client : Client) : Prop where
  carried : ∀ linkId ref, client.shared.base.links.lookup linkId = some ref →
    (client.shared.base.link ref).connectionId = linkId
  counted : ∀ linkId ref, client.shared.base.links.lookup linkId = some ref →
    ref < client.linkCount

theorem linksKeyed_of_reachable (reachable : (system zstd).Reachable client) :
    LinksKeyed client where
  carried := (origins_of_reachable reachable).registered
  counted := fun linkId ref found => ((epochs_of_reachable reachable).links linkId ref found).2

theorem SameLinks.view (same : SameLinks client final) (linkId : UInt16) :
    final.view linkId = client.view linkId := by
  simp only [Client.view, same.links, same.link, same.linkCount]

theorem SameLinks.linksKeyed (same : SameLinks client final) (keyed : LinksKeyed client) :
    LinksKeyed final := by
  refine ⟨?_, ?_⟩
  · intro linkId ref found
    rw [same.link]
    exact keyed.carried linkId ref ((same.links linkId).symm.trans found)
  · intro linkId ref found
    rw [same.linkCount]
    exact keyed.counted linkId ref ((same.links linkId).symm.trans found)

/-- One registered link is changed and keeps its identifier. -/
structure Changes (client final : Client) (ref : LinkRef) (update : Link → Link) : Prop where
  same : (update (client.shared.base.link ref)).connectionId =
    (client.shared.base.link ref).connectionId
  link : final.shared.base.link = Function.update client.shared.base.link ref
    (update (client.shared.base.link ref))
  linkCount : final.linkCount = client.linkCount

theorem Changes.connectionId {ref : LinkRef} {update : Link → Link}
    (changes : Changes client final ref update) (other : LinkRef) :
    (final.shared.base.link other).connectionId =
      (client.shared.base.link other).connectionId := by
  rw [changes.link]
  by_cases equal : other = ref
  · subst equal
    rw [Function.update_self]
    exact changes.same
  · rw [Function.update_of_ne equal]

theorem Changes.linksKeyed {ref : LinkRef} {update : Link → Link}
    (changes : Changes client final ref update) (keyed : LinksKeyed client)
    (shrink : ∀ key other, final.shared.base.links.lookup key = some other →
      client.shared.base.links.lookup key = some other) : LinksKeyed final := by
  refine ⟨?_, ?_⟩
  · intro key other found
    rw [changes.connectionId]
    exact keyed.carried key other (shrink key other found)
  · intro key other found
    rw [changes.linkCount]
    exact keyed.counted key other (shrink key other found)

theorem Changes.links_self {ref : LinkRef} {update : Link → Link}
    (changes : Changes client final ref update) (keyed : LinksKeyed client)
    (found : client.shared.base.links.lookup linkId = some ref) :
    linksUnder linkId final.shared.base.link final.linkCount =
      ((client.view linkId).change update).links := by
  have carried := keyed.carried linkId ref found
  simp only [view, LinkView.change, found, Option.map_some]
  rw [changes.link, changes.linkCount]
  exact linksUnder_update (keyed.counted linkId ref found) carried (changes.same.trans carried)

theorem Changes.links_of_ne {ref : LinkRef} {update : Link → Link} {key : UInt16}
    (changes : Changes client final ref update) (keyed : LinksKeyed client)
    (found : client.shared.base.links.lookup key = some ref) (different : key ≠ linkId) :
    linksUnder linkId final.shared.base.link final.linkCount = (client.view linkId).links := by
  have before : (client.shared.base.link ref).connectionId ≠ linkId :=
    keyed.carried key ref found ▸ different
  rw [changes.linkCount]
  apply linksUnder_congr
  intro other _
  rw [changes.link]
  by_cases equal : other = ref
  · subst equal
    rw [Function.update_self, Link.under_of_ne before, Link.under_of_ne (changes.same ▸ before)]
  · rw [Function.update_of_ne equal]

theorem Changes.entry {ref : LinkRef} {update : Link → Link}
    (changes : Changes client final ref update) (entry : Option LinkRef) :
    entry.map (fun other => (linksUnder linkId final.shared.base.link other).length) =
      entry.map fun other => (linksUnder linkId client.shared.base.link other).length := by
  congr 1
  funext other
  exact length_linksUnder_congr changes.connectionId

theorem LinkView.change_entry (view : LinkView) (update : Link → Link) :
    (view.change update).entry = view.entry := by
  unfold change
  split <;> rfl

theorem LinkView.change_of_absent {view : LinkView} (absent : view.entry = none)
    (update : Link → Link) : view.change update = view := by
  simp [change, absent]

theorem Changes.view_of_kept {ref : LinkRef} {update : Link → Link} {key : UInt16}
    (changes : Changes client final ref update) (keyed : LinksKeyed client)
    (found : client.shared.base.links.lookup key = some ref)
    (links : final.shared.base.links = client.shared.base.links) :
    final.view linkId =
      if key = linkId then (client.view linkId).change update else client.view linkId := by
  have entry : (final.view linkId).entry = (client.view linkId).entry := by
    simp only [view, links]
    exact changes.entry _
  by_cases own : key = linkId
  · subst own
    rw [if_pos rfl]
    exact LinkView.ext (entry.trans (LinkView.change_entry _ _).symm)
      (changes.links_self keyed found)
  · rw [if_neg own]
    exact LinkView.ext entry (changes.links_of_ne keyed found own)

theorem Changes.view_of_erased {ref : LinkRef} {key : UInt16}
    (changes : Changes client final ref Link.closeConnection) (keyed : LinksKeyed client)
    (found : client.shared.base.links.lookup key = some ref)
    (links : final.shared.base.links = client.shared.base.links.erase key) :
    final.view linkId =
      if key = linkId then (client.view linkId).remove else client.view linkId := by
  by_cases own : key = linkId
  · subst own
    rw [if_pos rfl]
    refine LinkView.ext ?_ (changes.links_self keyed found)
    simp [view, links, LinkView.remove]
  · rw [if_neg own]
    have apart : linkId ≠ key := fun equal => own equal.symm
    refine LinkView.ext ?_ (changes.links_of_ne keyed found own)
    simp only [view, links, FiniteMap.lookup_erase, if_neg apart]
    exact changes.entry _

/-- A new link comes after all others, and its identifier is its own from then on. -/
theorem view_of_opened {key : UInt16} {opened : Link} (keyed : LinksKeyed client)
    (carried : opened.connectionId = key)
    (links : ∀ other, final.shared.base.links.lookup other =
      (client.shared.base.links.insert key client.linkCount).lookup other)
    (link : final.shared.base.link =
      Function.update client.shared.base.link client.linkCount opened)
    (linkCount : final.linkCount = client.linkCount + 1) :
    final.view linkId =
      if key = linkId then
        ⟨some (client.view linkId).links.length, (client.view linkId).links ++ [opened]⟩
      else client.view linkId := by
  have earlier : ∀ count, count ≤ client.linkCount →
      linksUnder linkId final.shared.base.link count =
        linksUnder linkId client.shared.base.link count := by
    intro count within
    apply linksUnder_congr
    intro ref below
    rw [link, Function.update_of_ne (Nat.ne_of_lt (Nat.lt_of_lt_of_le below within))]
  have newest : final.shared.base.link client.linkCount = opened := by
    rw [link, Function.update_self]
  by_cases own : key = linkId
  · subst own
    rw [if_pos rfl]
    refine LinkView.ext ?_ ?_
    · simp [view, links, earlier _ (Nat.le_refl _)]
    · simp [view, linkCount, linksUnder, earlier _ (Nat.le_refl _), newest, Link.under_self carried]
  · rw [if_neg own]
    have apart : linkId ≠ key := fun equal => own equal.symm
    have outside : opened.connectionId ≠ linkId := carried ▸ own
    refine LinkView.ext ?_ ?_
    · simp only [view, links, FiniteMap.lookup_insert, if_neg apart]
      cases found : client.shared.base.links.lookup linkId with
      | none => rfl
      | some ref =>
          have counted := Nat.le_of_lt (keyed.counted linkId ref found)
          simp only [Option.map_some, earlier ref counted]
    · simp [view, linkCount, linksUnder, earlier _ (Nat.le_refl _), newest,
        Link.under_of_ne outside]

theorem linksKeyed_of_opened {key : UInt16} {opened : Link} (keyed : LinksKeyed client)
    (carried : opened.connectionId = key)
    (links : ∀ other, final.shared.base.links.lookup other =
      (client.shared.base.links.insert key client.linkCount).lookup other)
    (link : final.shared.base.link =
      Function.update client.shared.base.link client.linkCount opened)
    (linkCount : final.linkCount = client.linkCount + 1) : LinksKeyed final := by
  refine ⟨?_, ?_⟩
  · intro other ref found
    rw [links, FiniteMap.lookup_insert] at found
    split at found
    · rename_i equal
      cases found
      rw [link, Function.update_self, carried, equal]
    · rw [link, Function.update_of_ne (Nat.ne_of_lt (keyed.counted other ref found))]
      exact keyed.carried other ref found
  · intro other ref found
    rw [links, FiniteMap.lookup_insert] at found
    rw [linkCount]
    split at found
    · cases found
      exact Nat.lt_succ_self _
    · exact Nat.lt_succ_of_lt (keyed.counted other ref found)

theorem Changes.ofSent {ref : LinkRef} {payload : Bytes} {outcome : WriteOutcome} {written : Link}
    (sent : (client.shared.base.link ref).sendPacket payload outcome = some written)
    (link : final.shared.base.link = Function.update client.shared.base.link ref written)
    (linkCount : final.linkCount = client.linkCount) :
    Changes client final ref (Link.sent payload outcome) where
  same := by
    rw [Link.sent_of_eq sent]
    exact (Link.sendPacketStep_of_eq sent).data.1
  link := by rw [Link.sent_of_eq sent, link]
  linkCount := linkCount

theorem Handled.linksKeyed (handled : Handled client delivery final)
    (keyed : LinksKeyed client) : LinksKeyed final := by
  cases handled with
  | control open_ close regular same => exact same.linksKeyed keyed
  | refused type refused same => exact same.linksKeyed keyed
  | opened type connected links link linkCount =>
      exact linksKeyed_of_opened keyed rfl links link linkCount
  | empty type empty same => exact same.linksKeyed keyed
  | absent type absent same => exact same.linksKeyed keyed
  | @closed ref type found links link linkCount =>
      have changes : Changes client final ref Link.closeConnection := ⟨rfl, link, linkCount⟩
      apply changes.linksKeyed keyed
      intro key other registered
      rw [links] at registered
      exact (FiniteMap.lookup_of_erase registered).2
  | written type carried found sent links link linkCount =>
      apply (Changes.ofSent sent link linkCount).linksKeyed keyed
      intro key other registered
      rwa [links] at registered

/-- A frame about a link updates the view of that link and no other. -/
theorem Handled.view (handled : Handled client delivery final) (keyed : LinksKeyed client)
    (linkId : UInt16) : final.view linkId =
      if delivery.packet.linkId = linkId then (client.view linkId).deliver delivery
      else client.view linkId := by
  unfold LinkView.deliver
  cases handled with
  | control open_ close regular same =>
      rw [same.view linkId]
      split
      · split
        · exact absurd ‹_› open_
        · exact absurd ‹_› close
        · exact absurd ‹_› regular
        · rfl
      · rfl
  | refused type refused same =>
      simp only [type, refused, Bool.false_eq_true, if_false, ite_self]
      exact same.view linkId
  | opened type connected links link linkCount =>
      simp only [type, connected, if_true]
      exact view_of_opened keyed rfl links link linkCount
  | empty type empty same =>
      simp only [type, empty, ite_self]
      exact same.view linkId
  | absent type absent same =>
      rw [same.view linkId]
      split
      · rename_i own
        subst own
        have entry : (client.view delivery.packet.linkId).entry = none :=
          congrArg (Option.map _) absent
        rcases type with type | type
        · simp only [type]
          exact LinkView.ext entry (by rw [LinkView.remove, LinkView.change_of_absent entry])
        · simp only [type]
          split
          · exact (LinkView.change_of_absent entry _).symm
          · rfl
      · rfl
  | closed type found links link linkCount =>
      simp only [type]
      exact Changes.view_of_erased ⟨rfl, link, linkCount⟩ keyed found links
  | written type carried found sent links link linkCount =>
      simp only [type, carried]
      exact (Changes.ofSent sent link linkCount).view_of_kept keyed found links

theorem LinkView.deliver_of_control (view : LinkView)
    (control : delivery.packet.packetType.ofLink = false) : view.deliver delivery = view := by
  unfold LinkView.deliver
  cases type : delivery.packet.packetType with
  | open_ => rw [type] at control; cases control
  | close => rw [type] at control; cases control
  | regular => rw [type] at control; cases control
  | _ => rfl

theorem goesOn_of_hidden (zstd : Zstd) (connection : ConnectionRef)
    (hidden : delivery.concerns linkId = false) :
    (dispatcher zstd connection).stops delivery = false :=
  decide_eq_false (Delivery.ne_gwDeny (Delivery.concerns_eq_false.mp hidden).1)

def unwinding (zstd : Zstd) (connection : ConnectionRef) (linkId : UInt16) :
    (dispatcher zstd connection).Unwinding LinkView where
  invariant := LinksKeyed
  view := view linkId
  visible := Delivery.concerns linkId
  update := LinkView.deliver
  kept := fun keyed handles => (handled_of_handles handles).linksKeyed keyed
  hidden := by
    intro client delivery final keyed hidden handles
    have updated := (handled_of_handles handles).view keyed linkId
    exact updated.trans (if_neg (Delivery.concerns_eq_false.mp hidden).2)
  goesOn := goesOn_of_hidden zstd connection
  shown := by
    intro client delivery final keyed shown handles
    have updated := (handled_of_handles handles).view keyed linkId
    rcases Delivery.concerns_eq_true.mp shown with control | own
    · rw [LinkView.deliver_of_control _ control] at updated ⊢
      exact updated.trans (ite_self _)
    · exact updated.trans (if_pos own)

end Client

end IoGateway

import IoGateway.Client.Answering
import IoGateway.Grammar
import IoGateway.Server.Answering

/-! # Requests and their answers across the connection

What one side hears as an answer belongs to a request of its own.
-/

namespace IoGateway

theorem pings_front {earlier frames : List Frame} (grown : earlier <+: frames) :
    pings earlier <+: pings frames :=
  grown.filterMap Frame.ping?

/-- Answers that arrive as a front of those given belong to the first of the requests. -/
theorem exists_forall₂_front {served : List Request} {heard given : List Answer}
    (matched : List.Forall₂ Answers served given) (front : heard <+: given) :
    ∃ asked, List.Forall₂ Answers asked heard ∧ asked <+: served := by
  refine ⟨served.take heard.length, ?_, List.take_prefix _ _⟩
  have taken := List.forall₂_take heard.length matched
  rwa [← List.prefix_iff_eq_take.mp front] at taken

namespace Network

variable {zstd : Zstd} {network : Network}

/-- In every run without reconnection in which failed sockets stay silent and link
identifiers are left: the answers that the server hears from a client belong, in their
order, to different `Open`s and no others that it has sent to this client; and a client
hears no more `Pong`s than it has sent `Ping`s. -/
theorem answers_heard (zstd : Zstd) (lawful : zstd.Lawful) (network : Network)
    (reachable : (system zstd).ReachableUnder (Permitted zstd) network)
    (connection : ConnectionRef) :
    (∃ asked, List.Forall₂ Answers asked (answers (network.server.shared.heard connection)) ∧
      asked.Sublist (requests (network.serverSent connection))) ∧
    (pongs (network.client connection).heard).length ≤
      (pings (network.clientSent connection)).length := by
  have sound := sound_of_reachable lawful reachable
  have toServer := heard_of_toServer (sound.toServer connection)
  have toClient := heard_of_toClient (sound.toClient connection)
  constructor
  · rcases Client.answersInOrder_of_reachable (sound.client connection) 0 with
      ⟨served, matched, part, _⟩
    rcases exists_forall₂_front matched (toServer.filterMap Frame.answer?) with
      ⟨asked, answered, front⟩
    refine ⟨asked, answered, ?_⟩
    have read : served.Sublist (requests (network.client connection).heard) :=
      (List.sublist_append_left _ _).trans part
    exact (front.sublist.trans read).trans (toClient.filterMap Frame.request?).sublist
  · have answered :=
      (Server.answersInOrder_of_reachable sound.server.always connection).length_le
    calc (pongs (network.client connection).heard).length
      _ ≤ (pongs (network.serverSent connection)).length :=
          (toClient.filterMap Frame.pong?).length_le
      _ ≤ (pings (network.server.shared.heard connection)).length := answered
      _ ≤ (pings (network.clientSent connection)).length := (pings_front toServer).length_le

theorem answers_heard_linkOpened :
    ∃ network : Network, answers (network.server.shared.heard 0) = [.opened 1] ∧
      (pongs (network.client 0).heard).length = 1 ∧
      (∃ asked, List.Forall₂ Answers asked (answers (network.server.shared.heard 0)) ∧
        asked.Sublist (requests (network.serverSent 0))) ∧
      1 ≤ (pings (network.clientSent 0)).length := by
  have executed : ((system .runLength).runChecked
      (fun network action => network.Permitted .runLength action) .new
      (linkOpened ++ [.serverReceive 0 [], .server (.gateway 0 .go), .server (.gateway 0 .go),
        .client 0 (.ping 0 .go), .client 0 (.ping 0 .go), .client 0 (.ping 0 (.write .ok)),
        .serverReceive 0 [], .server (.gateway 0 .go), .server (.gateway 0 (.write .ok)),
        .clientReceive 0 []])).any
      (fun network => answers (network.server.shared.heard 0) = [.opened 1] ∧
        (pongs (network.client 0).heard).length = 1) = true := by decide +kernel
  rcases TransitionSystem.exists_reaches_of_runChecked executed with ⟨network, reaches, found⟩
  rcases of_decide_eq_true found with ⟨opened, ponged⟩
  have reachable := reaches.mono fun _ _ passed => of_decide_eq_true passed
  have heard := answers_heard .runLength Zstd.runLength_lawful network reachable 0
  exact ⟨network, opened, ponged, heard.1, ponged ▸ heard.2⟩

end Network

end IoGateway

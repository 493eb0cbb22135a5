import Mathlib.Computability.RegularExpressions
import IoGateway.Network

/-! # The frames of one link on the wire

Each side speaks of a link in its own language, and in no other words: a client answers
the server's `Open` and speaks only of links that have been opened to it.
-/

namespace IoGateway

open RegularExpression in
/-- Open Regular* Close. -/
def serverGrammar : RegularExpression PacketType :=
  char .open_ * star (char .regular) * char .close

open RegularExpression in
/-- (Opened Regular* Close) or OpenFail. -/
def clientGrammar : RegularExpression PacketType :=
  char .opened * star (char .regular) * char .close + char .openFail

def Begins (grammar : RegularExpression PacketType) (spoken : List PacketType) : Prop :=
  ∃ word ∈ grammar.matches', spoken <+: word

theorem replicate_mem_star (type : PacketType) (count : Nat) :
    List.replicate count type ∈ (RegularExpression.star (.char type)).matches' := by
  rw [RegularExpression.matches'_star, Language.mem_kstar]
  refine ⟨List.replicate count [type], ?_, ?_⟩
  · simp
  · intro word member
    rw [List.eq_of_mem_replicate member]
    rfl

open RegularExpression in
theorem mem_dialogue (opening : PacketType) (count : Nat) :
    opening :: List.replicate count .regular ++ [.close] ∈
      (char opening * star (char PacketType.regular) * char PacketType.close).matches' := by
  have first : [opening] ∈ (char opening).matches' := rfl
  have last : [PacketType.close] ∈ (char PacketType.close).matches' := rfl
  rw [matches'_mul, matches'_mul]
  exact Language.append_mem_mul
    (Language.append_mem_mul first (replicate_mem_star .regular count)) last

variable {signals : Signals} {grammar : RegularExpression PacketType} {phase : SenderPhase}
  {failed : Bool} {spoken : List PacketType}

/-- What a sender says begins a word of every grammar that has its dialogues and its
refusal. -/
theorem Spoken.begins (speaks : Spoken signals phase failed spoken)
    (dialogue : ∀ count, signals.opening :: List.replicate count .regular ++ [.close] ∈
      grammar.matches')
    (refusal : ∀ type, signals.refusal = some type → [type] ∈ grammar.matches') :
    Begins grammar spoken := by
  cases speaks with
  | unopened => exact ⟨_, dialogue 0, List.nil_prefix⟩
  | forwarding count => exact ⟨_, dialogue count, List.prefix_append _ _⟩
  | closed count => exact ⟨_, dialogue count, List.prefix_refl _⟩
  | refused refuses => exact ⟨_, refusal _ refuses, List.prefix_refl _⟩
  | unheard => exact ⟨_, dialogue 0, List.nil_prefix⟩
  | cut count => exact ⟨_, dialogue count, List.prefix_append _ _⟩

theorem Spoken.begins_server (speaks : Spoken serverSignals phase failed spoken) :
    Begins serverGrammar spoken :=
  speaks.begins (mem_dialogue .open_) fun _ refuses => nomatch refuses

theorem Spoken.begins_client (speaks : Spoken clientSignals phase failed spoken) :
    Begins clientGrammar spoken := by
  refine speaks.begins (fun count => ?_) fun type refuses => ?_
  · rw [clientGrammar, RegularExpression.matches'_add, Language.mem_add]
    exact .inl (mem_dialogue .opened count)
  · cases refuses
    rw [clientGrammar, RegularExpression.matches'_add, Language.mem_add]
    exact .inr rfl

theorem begins_client_nil : Begins clientGrammar [] :=
  (@Spoken.unopened clientSignals false).begins_client

namespace Network

variable {zstd : Zstd} {network next : Network} {connection : ConnectionRef} {linkId : UInt16}

def serverSent (network : Network) (connection : ConnectionRef) : List Frame :=
  (network.server.shared.sockets.writer connection).sent

def clientSent (network : Network) (connection : ConnectionRef) : List Frame :=
  ((network.client connection).shared.sockets.writer 0).sent

/-- The server speaks of a link on one connection. -/
theorem Sound.server_grammar (sound : network.Sound zstd) (positive : linkId ≠ 0) :
    ∃ connection, Begins serverGrammar (types linkId (network.serverSent connection)) ∧
      ∀ other, other ≠ connection → types linkId (network.serverSent other) = [] := by
  rcases sound.serverSenders with ⟨senders, represents, faithful⟩
  have sender := faithful.sender linkId positive
  have elsewhere := faithful.elsewhere linkId positive
  rw [represents.writer] at sender elsewhere
  exact ⟨_, sender.spoken.begins_server, fun other different => elsewhere other (.inr different)⟩

/-- A client speaks of no link that has not been opened to it. -/
theorem Sound.unopened (sound : network.Sound zstd) (positive : linkId ≠ 0)
    (unheard : ¬ Has .open_ linkId (network.client connection).heard) :
    types linkId (network.clientSent connection) = [] := by
  rcases sound.clientSenders connection with ⟨senders, represents, faithful⟩
  have silent := faithful.elsewhere linkId positive 0
    (.inl (by rw [represents.unopened linkId unheard]; rfl))
  rwa [represents.writer] at silent

theorem Sound.client_grammar (sound : network.Sound zstd) (positive : linkId ≠ 0) :
    Begins clientGrammar (types linkId (network.clientSent connection)) := by
  rcases sound.clientSenders connection with ⟨senders, represents, faithful⟩
  have sender := faithful.sender linkId positive
  have elsewhere := faithful.elsewhere linkId positive 0
  rw [represents.writer] at sender elsewhere
  by_cases own : 0 = (senders.link linkId).connection
  · rw [← own] at sender
    exact sender.spoken.begins_client
  · rw [clientSent, elsewhere (.inr own)]
    exact begins_client_nil

theorem Sound.has_of_heard (sound : network.Sound zstd) {type : PacketType}
    (heard : Has type linkId (network.client connection).heard) :
    types linkId (network.serverSent connection) ≠ [] := by
  have sent := heard.mono (heard_of_toClient (sound.toClient connection))
  exact List.ne_nil_of_mem (has_iff.mp sent)

/-- A client does not read and send in one step. -/
theorem heard_or_clientSent_of_step {action : NetworkAction}
    (stepped : network.step zstd action = some next) :
    (next.client connection).heard = (network.client connection).heard ∨
      next.clientSent connection = network.clientSent connection := by
  cases action with
  | server action =>
      simp only [Network.step] at stepped
      split at stepped
      · cases stepped
      · rcases Option.map_eq_some_iff.mp stepped with ⟨server, moved, rfl⟩
        exact .inl rfl
  | client moving action =>
      simp only [Network.step] at stepped
      split at stepped
      · cases stepped
      · rename_i silent
        rcases Option.map_eq_some_iff.mp stepped with ⟨client, moved, rfl⟩
        refine .inl ?_
        change Client.heard (Function.update network.client moving client connection) = _
        by_cases equal : connection = moving
        · subst equal
          rw [Function.update_self]
          exact Client.heard_congr (clientReceived_of_not_receives silent moved)
        · rw [Function.update_of_ne equal]
  | serverReceive reading pooled =>
      rcases Option.bind_eq_some_iff.mp stepped with ⟨⟨frame, read⟩, received, stepped⟩
      rcases Option.map_eq_some_iff.mp stepped with ⟨server, moved, rfl⟩
      exact .inl rfl
  | clientReceive reading pooled =>
      rcases Option.bind_eq_some_iff.mp stepped with ⟨⟨frame, read⟩, received, stepped⟩
      rcases Option.map_eq_some_iff.mp stepped with ⟨client, moved, rfl⟩
      refine .inr ?_
      change ((Function.update network.client reading client connection).shared.sockets.writer
        0).sent = _
      by_cases equal : connection = reading
      · subst equal
        rw [Function.update_self]
        rcases Client.sockets_of_frame moved with ⟨_, _, sockets⟩
        rw [sockets]
        rfl
      · rw [Function.update_of_ne equal]
        rfl

/-- In every run without reconnection in which failed sockets stay silent and link
identifiers are left: the frames of a link that the server sends go to one client and
begin a word of Open Regular* Close; those of this client begin a word of
(Opened Regular* Close) or OpenFail; no other client sends any. Whichever client has
sent one has received `Open` before. -/
theorem link_frames_in_grammar (zstd : Zstd) (lawful : zstd.Lawful) (network : Network)
    (linkId : UInt16) (reachable : (system zstd).ReachableUnder (Permitted zstd) network)
    (positive : linkId ≠ 0) :
    ∃ connection,
      (∀ other, other ≠ connection → types linkId (network.serverSent other) = []) ∧
      Begins serverGrammar (types linkId (network.serverSent connection)) ∧
      (∀ other, other ≠ connection → types linkId (network.clientSent other) = []) ∧
      Begins clientGrammar (types linkId (network.clientSent connection)) ∧
      ∀ sender,
        (types linkId (network.clientSent sender) ≠ [] →
          Has .open_ linkId (network.client sender).heard) ∧
        ∀ action next, network.Permitted zstd action → network.step zstd action = some next →
          types linkId (next.clientSent sender) ≠ types linkId (network.clientSent sender) →
            Has .open_ linkId (network.client sender).heard := by
  have sound := sound_of_reachable lawful reachable
  rcases sound.server_grammar positive with ⟨connection, spoken, others⟩
  refine ⟨connection, others, spoken, ?_, sound.client_grammar positive, ?_⟩
  · intro other different
    exact sound.unopened positive fun opened => sound.has_of_heard opened (others other different)
  · intro sender
    refine ⟨fun spoke => ?_, fun action next permitted stepped speaks => ?_⟩
    · by_contra unheard
      exact spoke (sound.unopened positive unheard)
    · by_contra unheard
      rcases @heard_or_clientSent_of_step zstd network next sender action stepped with same | same
      · have after := sound.step lawful permitted stepped
        rw [sound.unopened positive unheard, after.unopened positive (same ▸ unheard)] at speaks
        exact speaks rfl
      · exact speaks (by rw [same])

def linkOpened : List NetworkAction :=
  Server.oneOpenLink.map .server ++ (.run .go :: Client.connect).map (.client 0) ++
    [.clientReceive 0 [], .client 0 (.run (.verdict true)), .client 0 (.run .go),
      .client 0 (.run .go), .client 0 (.run .go), .client 0 (.run (.write .ok)),
      .client 0 (.run .go)]

/-- Both applications send a byte, the server's ends its stream, and the client has
removed the link. -/
def linkClosed : List NetworkAction :=
  linkOpened ++ [.server (.app 0 (.chunk [7])), .server (.app 0 .go), .server (.app 0 .go),
    .server (.app 0 (.write .ok)), .server (.app 0 .ended), .server (.app 0 .go),
    .server (.app 0 (.write .ok)), .clientReceive 0 [], .client 0 (.run (.write .ok)),
    .client 0 (.app 0 (.chunk [8])), .client 0 (.app 0 .go), .client 0 (.app 0 (.write .ok)),
    .clientReceive 0 [], .client 0 (.run .go)]

theorem link_frames_in_grammar_linkClosed :
    ∃ network : Network, types 1 (network.serverSent 0) = [.open_, .regular, .close] ∧
      types 1 (network.clientSent 0) = [.opened, .regular] ∧
      Begins serverGrammar (types 1 (network.serverSent 0)) ∧
      Begins clientGrammar (types 1 (network.clientSent 0)) ∧
      Has .open_ 1 (network.client 0).heard := by
  have executed : ((system .runLength).runChecked
      (fun network action => network.Permitted .runLength action) .new linkClosed).any
      (fun network => types 1 (network.serverSent 0) = [.open_, .regular, .close] ∧
        types 1 (network.clientSent 0) = [.opened, .regular]) = true := by decide +kernel
  rcases TransitionSystem.exists_reaches_of_runChecked executed with ⟨network, reaches, found⟩
  rcases of_decide_eq_true found with ⟨serverTypes, clientTypes⟩
  have reachable := reaches.mono fun _ _ passed => of_decide_eq_true passed
  rcases link_frames_in_grammar .runLength Zstd.runLength_lawful network 1 reachable (by decide)
    with ⟨connection, others, spoken, _, answered, heard⟩
  have own : 0 = connection := by
    by_contra different
    rw [others 0 different] at serverTypes
    cases serverTypes
  subst own
  have opened := (heard 0).1 (by rw [clientTypes]; exact List.cons_ne_nil _ _)
  exact ⟨network, serverTypes, clientTypes, spoken, answered, opened⟩

end Network

end IoGateway
